import HandlerBundle.Binding.Check
import HandlerBundle.Failure
import HandlerBundle.Json.Display
import HandlerBundle.Package.FileTree
import HandlerBundle.Text.Casing

/-!
# Binding attributes

An attribute declares one binding between a handler and the host. The set of attributes is open: an
attribute is whatever has a role, checks, fragments for the manifest, and a build hook. The shipped
bindings are attributes of five kinds.

## Main definitions

* `BuildHook` — what an attribute does after a build.
* `Attribute`, `Role` — the attributes.
* `noResultAttribute` — stands in where a handler declares no binding for its result.
* `ShippedBinding`, `ShippedBinding.toAttribute` — the shipped bindings.
* `attach` — puts attributes in front of those a handler has.
-/

namespace HandlerBundle

/-- What an attribute does after a build: it may change the files, and returns the names of further
artifacts. It is given the directory that was built. -/
abbrev BuildHook := TreePath → ExceptT Failure (StateM FileTree) (List String)

namespace BuildHook

/-- Does nothing. -/
def idle : BuildHook := fun _ => return []

end BuildHook

/-- What an attribute declares: no more than a binding, how the handler is invoked, where its result
goes, or both. -/
inductive Role where
  | binding
  | trigger
  | result
  | complex
  deriving DecidableEq, Repr

/-- A binding between a handler and the host. -/
structure Attribute where
  className : String
  role : Role
  /-- The fields in which the attribute differs from others of its class. -/
  fields : List (String × Json)
  check : Descriptor → List CheckResult
  fragments : List Json
  build : BuildHook

namespace Attribute

/-- Whether the attribute says how the handler is invoked. -/
def isTrigger (a : Attribute) : Bool :=
  a.role == .trigger || a.role == .complex

/-- Whether the attribute says where the result goes. -/
def isResult (a : Attribute) : Bool :=
  a.role == .result || a.role == .complex

/-- The form in which an attribute stands in a message. -/
def display (a : Attribute) : String :=
  a.className ++ "(" ++ ", ".intercalate (a.fields.map fun f => f.1 ++ "=" ++ f.2.display) ++ ")"

end Attribute

/-- Puts attributes in front of those that are there. Declarations are applied from the last to the
first, so the list is in the order of the source. -/
def attach (existing new : List Attribute) : List Attribute :=
  new ++ existing

/-- Stands in where a handler declares no binding for its result: there must be none. -/
def noResultAttribute : Attribute where
  className := "NoResultAttribute"
  role := .result
  fields := []
  check handler := [checkResult [ Annotation.noneType] handler]
  fragments := []
  build := .idle

/-- The bindings that come with the library. -/
inductive ShippedBinding where
  /-- A request comes in and a response goes out. -/
  | httpTrigger (methods : List String) (route : Option String) (authLevel paramName : String)
  | timerTrigger (schedule : String) (runOnStartup : Json) (paramName : String)
  | queueTrigger (queueName connection paramName : String)
  /-- The result goes to a queue. -/
  | queueResult (queueName connection : String)
  /-- One more input, without a role. -/
  | blobInput (path paramName connection : String) (optional : Bool)

namespace ShippedBinding

/-- The storage account where none is named. -/
def defaultConnection : String := "AzureWebJobsStorage"

/-- A known class as an annotation. -/
def ofKnown (k : KnownClass) : Annotation := .cls (.known k)

/-- The texts of a list. -/
def texts (ss : List String) : Json := .list (ss.map Json.text)

/-- The beginning of a fragment: its kind, its direction and its name. -/
def fragmentHead (kind direction name : String) : List (String × Json) :=
  [("type", .text kind), ("direction", .text direction), ("name", .text name)]

/-- The name of a binding's class. -/
def className : ShippedBinding → String
  | .httpTrigger .. => "HttpTrigger"
  | .timerTrigger .. => "TimerTrigger"
  | .queueTrigger .. => "QueueTrigger"
  | .queueResult .. => "QueueResult"
  | .blobInput .. => "BlobInput"

/-- The role of a binding. -/
def role : ShippedBinding → Role
  | .httpTrigger .. => .complex
  | .timerTrigger .. | .queueTrigger .. => .trigger
  | .queueResult .. => .result
  | .blobInput .. => .binding

/-- The fields of a binding. Methods are kept in lower case. -/
def fields : ShippedBinding → List (String × Json)
  | .httpTrigger methods route authLevel paramName =>
    [("methods", texts (methods.map lowerText)),
      ("route", match route with | some r => .text r | none => .null),
      ("auth_level", .text authLevel), ("param_name", .text paramName)]
  | .timerTrigger schedule runOnStartup paramName =>
    [("schedule", .text schedule), ("run_on_startup", runOnStartup),
      ("param_name", .text paramName)]
  | .queueTrigger queueName connection paramName =>
    [("queue_name", .text queueName), ("connection", .text connection),
      ("param_name", .text paramName)]
  | .queueResult queueName connection =>
    [("queue_name", .text queueName), ("connection", .text connection)]
  | .blobInput path paramName connection optional =>
    [("path", .text path), ("param_name", .text paramName), ("connection", .text connection),
      ("optional", .bool optional)]

/-- The checks of a binding. -/
def check (b : ShippedBinding) (handler : Descriptor) : List CheckResult :=
  match b with
  | .httpTrigger _ _ _ paramName =>
    [checkParameter paramName [ofKnown .httpRequest] handler,
      checkResult [ofKnown .httpResponse, ofKnown .str] handler]
  | .timerTrigger _ _ paramName => [checkParameter paramName [ofKnown .timerInfo] handler]
  | .queueTrigger _ _ paramName =>
    [checkParameter paramName [ofKnown .str, ofKnown .bytes] handler]
  | .queueResult .. => [checkResult [ofKnown .str, ofKnown .bytes] handler]
  | .blobInput _ paramName _ optional =>
    [checkNamed optional paramName [ofKnown .bytes, ofKnown .str] handler]

/-- The fragments that a binding contributes to the manifest. -/
def fragments : ShippedBinding → List Json
  | .httpTrigger methods route authLevel paramName =>
    let routeMember := match route with
      | some r => [("route", Json.text r)]
      | none => []
    [.object (fragmentHead "httpTrigger" "in" paramName ++
      [("authLevel", .text authLevel), ("methods", texts (methods.map lowerText))] ++ routeMember),
      .object (fragmentHead "http" "out" "$return")]
  | .timerTrigger schedule runOnStartup paramName =>
    [.object (fragmentHead "timerTrigger" "in" paramName ++
      [("schedule", .text schedule), ("runOnStartup", runOnStartup)])]
  | .queueTrigger queueName connection paramName =>
    [.object (fragmentHead "queueTrigger" "in" paramName ++
      [("queueName", .text queueName), ("connection", .text connection)])]
  | .queueResult queueName connection =>
    [.object (fragmentHead "queue" "out" "$return" ++
      [("queueName", .text queueName), ("connection", .text connection)])]
  | .blobInput path paramName connection _ =>
    [.object (fragmentHead "blob" "in" paramName ++
      [("path", .text path), ("connection", .text connection)])]

/-- A shipped binding as an attribute. -/
def toAttribute (b : ShippedBinding) : Attribute where
  className := b.className
  role := b.role
  fields := b.fields
  check := b.check
  fragments := b.fragments
  build := .idle

end ShippedBinding

end HandlerBundle
