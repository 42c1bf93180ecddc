import HandlerBundle.Journal.Instant
import HandlerBundle.Journal.Message
import HandlerBundle.Journal.Origin
import HandlerBundle.Journal.Severity
import HandlerBundle.Object.Written

/-!
# Entries of the journal

An entry has named attributes. Some of them describe the entry itself: its message, its severity,
the part of the program that it comes from; the others are details. Written out, an entry is a JSON
object on one line, with the members of every entry first and the details after them.

## Main definitions

* `lineMembers` — what a line tells, in order.
* `Entry` — an entry.
* `Entry.write` — the line of an entry.
* `Failure.trace` — what an entry says of a failure.
-/

namespace HandlerBundle

/-- The attributes that describe an entry. They are no details of it. -/
def descriptionNames : List String :=
  ["name", "msg", "args", "levelname", "levelno", "pathname", "filename", "module", "exc_info",
    "exc_text", "stack_info", "lineno", "funcName", "created", "msecs", "relativeCreated",
    "thread", "threadName", "processName", "process", "message", "asctime"]

/-- An attribute that tells who runs the program and is no detail either. -/
def taskAttribute : String := "taskName"

/-- The members of every entry. -/
def memberNames : List String :=
  ["timestamp", "severity", "service", "env", "version", "build_id", "event_type", "message",
    "logger"]

/-- Whether an attribute is a detail: hidden ones, whose names begin with an underscore, are
not. -/
def isDetail (name : String) : Bool :=
  !descriptionNames.contains name && name != taskAttribute && !memberNames.contains name &&
    name.toList.head? != some '_'

/-! ### Failures -/

/-- The name of a kind of failure after that of the module that declares it. -/
def FailureKind.path : FailureKind → String
  | .foreign name => if name == "RehydrationError" then "funcpack.rehydrate." ++ name else name
  | kind => "funcpack.errors." ++ kind.name

/-- The kinds of failures of which a description is always said. -/
def describedKinds : List String := ["SyntaxError", "IndentationError", "TabError"]

/-- The message of a failure in a trace. -/
def Failure.traceMessage (f : Failure) : String :=
  if f.kind == .foreign "KeyError" then quoted f.message
  else if describedKinds.contains f.kind.name && f.message.isEmpty then "<no detail available>"
  else f.message

/-- The greatest length of a trace. -/
def traceLimit : Nat := 8000

/-- What an entry says of a failure: its kind and its message, of which the end is kept. -/
def Failure.trace (f : Failure) : String :=
  let message := f.traceMessage
  let line := f.kind.path ++ (if message.isEmpty then "" else ": " ++ message) ++ "\n"
  let cs := line.toList
  String.ofList (cs.drop (cs.length - traceLimit))

/-! ### Entries -/

/-- The members of an entry: those of every entry first, then what it says of a failure, and its
details after them, of which the last one of a name counts. A text is told in the given form. -/
def lineMembers {α : Type} (text : String → α) (origin : Origin) (timestamp : String)
    (severity : Severity) (build kind : α) (message : String) (source : α) (trace : Option String)
    (attributes : List (String × α)) : List (String × α) :=
  let head := [("timestamp", text timestamp), ("severity", text severity.name),
    ("service", text origin.service), ("env", text origin.environment),
    ("version", text origin.version), ("build_id", build), ("event_type", kind),
    ("message", text message), ("logger", source)]
  let failed := trace.map fun t => ("exception", text t)
  let details := attributes.filter fun a => isDetail a.1
  details.foldl (fun done a => Json.put done a.1 a.2) (head ++ failed.toList)

/-- An entry: its attributes, each name once, and the failure that it tells of. -/
structure Entry where
  attributes : List (String × ObjectId)
  failure : Option Failure

namespace Entry

/-- An entry of attributes, of which the last one of a name counts. -/
def ofAttributes (attributes : List (String × ObjectId)) (failure : Option Failure) : Entry :=
  ⟨attributes.foldl (fun done a => Json.put done a.1 a.2) [], failure⟩

/-- The greatest length of a message. -/
def messageLimit : Nat := 4000

variable (h : Heap) (table : ModuleTable) (e : Entry)

/-- An attribute. -/
def attribute? (name : String) : Option ObjectId :=
  e.attributes.lookup name

/-- An attribute that counts as true. -/
def given? (name : String) : Option ObjectId :=
  (e.attribute? name).filter h.isTrue

/-- The instant of an entry, which is the beginning of time if none is given. -/
def instant : Except InstantError Instant :=
  match e.attribute? "created" with
  | some id => Instant.ofConstant ((h.constant? id).getD .none) (h.className id)
  | none => .ok ⟨0⟩

/-- The severity of an entry: the one it names, or that of its level. -/
def severity : Severity :=
  let id? := (e.given? h "severity").orElse fun _ => e.attribute? "levelno"
  Severity.ofConstant ((id?.bind h.constant?).getD .none)

/-- The message of an entry, on one line. -/
def message : Except Failure String :=
  let template := ((e.attribute? "msg").map (h.plainText table)).getD ""
  ((h.message table template (e.attribute? "args")).mapError MessageError.failure).map
    fun s => oneLine s messageLimit

/-- The JSON form of an attribute that counts as true, or a default. -/
def givenJson (name : String) (default : Json) : Except WritingError Json :=
  match e.given? h name with
  | some id => h.toJson table id
  | none => .ok default

/-- The members of an entry whose details are all told. -/
def members (origin : Origin) (build : Option String) (timestamp message : String) :
    List (String × Except WritingError Json) :=
  lineMembers (fun s => .ok (.text s)) origin timestamp (e.severity h)
    (e.givenJson h table "build_id" ((build.map Json.text).getD .null))
    (e.givenJson h table "event_type" (.text "log")) message
    (match e.attribute? "name" with
      | some id => h.toJson table id
      | none => .ok .null)
    (e.failure.map (·.trace)) (e.attributes.map fun a => (a.1, h.toJson table a.2))

/-- The line of an entry at a written instant. -/
def writeAt (origin : Origin) (build : Option String) (timestamp : String) :
    Except Failure String := do
  let message ← e.message h table
  let written := fun (m : String × Except WritingError Json) => m.2.map fun v => (m.1, v)
  let members ← ((e.members h table origin build timestamp message).mapM written).mapError
    WritingError.failure
  return (Json.object members).compact writtenLayout

/-- The line of an entry. -/
def write (origin : Origin) (build : Option String) : Except Failure String := do
  let timestamp ← ((instant h e).bind Instant.write).mapError InstantError.failure
  e.writeAt h table origin build timestamp

end Entry

end HandlerBundle
