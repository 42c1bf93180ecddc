import HandlerBundle.Object.Comparison
import HandlerBundle.Object.Display

/-!
# Values that a host passes to handlers

A host passes requests and timers to handlers and takes responses from them. They are records: each
kind has named fields in order, of which some have to be given and the others have defaults.

## Main definitions

* `HostKind` — the kinds of records, with their fields.
* `HostValue.make` — a record of given fields.
* `HostValue.display`, `HostValue.equal` — its form in messages, and comparison by fields.
-/

namespace HandlerBundle

/-- The kinds of records. -/
inductive HostKind where
  | request
  | response
  | timer
  deriving DecidableEq, Repr

namespace HostKind

/-- All kinds. -/
def all : List HostKind := [.request, .response, .timer]

/-- The name of a kind. -/
def name : HostKind → String
  | .request => "HttpRequest"
  | .response => "HttpResponse"
  | .timer => "TimerInfo"

/-- The kind of a name. -/
def ofName? (name : String) : Option HostKind :=
  all.find? fun k => k.name == name

/-- The fields of a kind; one without a default has to be given. -/
def fields : HostKind → List (String × Option Object)
  | .request =>
    [("method", none), ("url", none), ("headers", some (.dict [])), ("params", some (.dict [])),
      ("body", some (.constant (.bytes [])))]
  | .response =>
    [("body", some (.constant (.bytes []))), ("status_code", some (.constant (.int 200))),
      ("headers", some (.dict [])), ("mimetype", some (.constant .none))]
  | .timer => [("past_due", some (.constant (.bool false)))]

end HostKind

/-- A record that a host passes on. -/
structure HostValue where
  kind : HostKind
  fields : List (String × ObjectId)

/-- Why fields give no record. -/
inductive HostValueError where
  | unknownField (kind : HostKind) (name : String)
  | missingFields (kind : HostKind) (names : List String)
  deriving DecidableEq, Repr

namespace HostValueError

/-- Names in an enumeration. -/
def enumeration (names : List String) : String :=
  match names.map quoted with
  | [a, b] => a ++ " and " ++ b
  | names =>
    match names.reverse with
    | last :: a :: rest => ", ".intercalate (a :: rest).reverse ++ ", and " ++ last
    | _ => "".intercalate names

/-- The failure that an error is reported as. -/
def failure : HostValueError → Failure
  | .unknownField kind name =>
    ⟨.foreign "TypeError",
      kind.name ++ ".__init__() got an unexpected keyword argument " ++ quoted name⟩
  | .missingFields kind names =>
    ⟨.foreign "TypeError",
      kind.name ++ ".__init__() missing " ++ toString names.length ++
        " required positional argument" ++ (if names.length == 1 then "" else "s") ++ ": " ++
        enumeration names⟩

end HostValueError

namespace HostValue

/-- Fills the fields of a kind from given ones and defaults. -/
def fill (h : Heap) (given : List (String × ObjectId)) :
    List (String × Option Object) → Heap × List (String × ObjectId)
  | [] => (h, [])
  | (name, default) :: rest =>
    let (h, id) := match given.lookup name with
      | some id => (h, id)
      | none => h.alloc (default.getD (.constant .none))
    let (h, fields) := fill h given rest
    (h, (name, id) :: fields)

/-- A record of given fields. -/
def make (h : Heap) (kind : HostKind) (given : List (String × ObjectId)) :
    Except HostValueError (Heap × HostValue) :=
  match given.find? fun g => (kind.fields.lookup g.1).isNone with
  | some g => .error (.unknownField kind g.1)
  | none =>
    let missing := kind.fields.filter fun f => f.2.isNone && (given.lookup f.1).isNone
    if missing.isEmpty then
      let (h, fields) := fill h given kind.fields
      .ok (h, ⟨kind, fields⟩)
    else .error (.missingFields kind (missing.map Prod.fst))

/-- The form of a record in a message. -/
def display (h : Heap) (table : ModuleTable) (v : HostValue) : String :=
  v.kind.name ++ "(" ++
    commaSeparated (v.fields.map fun f => f.1 ++ "=" ++ h.display table f.2) ++ ")"

/-- Whether two records have equal fields. -/
def equal (h : Heap) (v w : HostValue) : Bool :=
  v.kind == w.kind && (v.fields.zip w.fields).all fun p => h.equalValues p.1.2 p.2.2

/-- The content of a request. -/
def content? (v : HostValue) : Option ObjectId :=
  if v.kind == .request then v.fields.lookup "body" else none

end HostValue

end HandlerBundle
