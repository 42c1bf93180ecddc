import HandlerBundle.Binding.Attribute
import HandlerBundle.Json.Reader
import HandlerBundle.Text.Utf8

/-!
# Manifests

A manifest tells the host the bindings of a handler: the fragments of its attributes in their order,
and whether the handler is disabled. It is written as JSON over several lines. When one is made or
read, everything that is wrong with it is complained about, in the order of its fields and then of
the names that have no place in it.

## Main definitions

* `Manifest`, `Manifest.ofAttributes` — a manifest, and that of a handler.
* `Manifest.encode`, `Manifest.decode` — a manifest as text, and back.
* `Complaint` — what can be wrong with a manifest.
-/

namespace HandlerBundle

/-- What the host is told about a handler. -/
structure Manifest where
  disabled : Bool
  bindings : List (List (String × Json))

/-- What is wrong with a manifest, or with the text of one. -/
inductive Complaint where
  /-- The text is no JSON. -/
  | notJson
  | notAnObject
  /-- The switch is of a kind that never says yes or no. -/
  | switchKind
  /-- The switch is none of the values that say yes or no. -/
  | switchValue
  | bindingsNotAList
  | bindingNotAnObject (place : Nat)
  | unknownName (name : String)
  deriving DecidableEq, Repr

namespace Complaint

/-- The word for what is wrong. -/
def word : Complaint → String
  | .notJson => "json_invalid"
  | .notAnObject => "model_type"
  | .switchKind => "bool_type"
  | .switchValue => "bool_parsing"
  | .bindingsNotAList => "list_type"
  | .bindingNotAnObject _ => "dict_type"
  | .unknownName _ => "extra_forbidden"

/-- Where something is wrong: the names and places that lead there. -/
def location : Complaint → List Constant
  | .notJson | .notAnObject => []
  | .switchKind | .switchValue => [.text "disabled"]
  | .bindingsNotAList => [.text "bindings"]
  | .bindingNotAnObject place => [.text "bindings", .int place]
  | .unknownName name => [.text name]

/-- The message about things that are wrong. -/
def message (complaints : List Complaint) : String :=
  let line := fun (c : Complaint) =>
    ".".intercalate (c.location.map Constant.plainText) ++ ": " ++ c.word
  "\n".intercalate (complaints.map line)

/-- The failure of something that is complained about. -/
def failure (complaints : List Complaint) : Failure :=
  ⟨.validation (complaints.map fun c => (c.word, c.location)), message complaints⟩

end Complaint

namespace Manifest

/-- The file with the manifest of a handler. -/
def fileName : String := "binding-manifest.json"

/-- How numbers are written: positionally from a hundred-thousandth up to the sixteenth digit, with
exponents as short as they are; what is no number is null. -/
def layout : Layout := ⟨-5, 16, 1, "null", "null", "null"⟩

/-- The manifest as a JSON value. -/
def toJson (m : Manifest) : Json :=
  .object [("disabled", .bool m.disabled), ("bindings", .list (m.bindings.map .object))]

/-- The text of a manifest. -/
def encode (m : Manifest) : String :=
  m.toJson.pretty layout

/-- The greatest number of levels in a text that is read. -/
def depthLimit : Nat := 200

/-- The words that say no. -/
def noWords : List String := ["0", "off", "f", "false", "n", "no"]

/-- The words that say yes. -/
def yesWords : List String := ["1", "on", "t", "true", "y", "yes"]

/-- The whole numbers that are looked at; others are of no use as a switch. -/
def isSmall (n : Int) : Bool := -twoTo 63 ≤ n && n < twoTo 63

/-- What a whole number says. -/
def switchOfInt (n : Int) : Except Complaint Bool :=
  if n = 0 then .ok false else if n = 1 then .ok true else .error .switchValue

/-- What a word says, in whatever case of the basic letters. -/
def switchOfText (s : String) : Except Complaint Bool :=
  let word := String.ofList (s.toList.map Char.toLower)
  if noWords.contains word then .ok false
  else if yesWords.contains word then .ok true
  else .error .switchValue

/-- Reads the switch. -/
def readSwitch : Json → Except Complaint Bool
  | .bool b => .ok b
  | .int n => if isSmall n then switchOfInt n else .error .switchKind
  | .float x =>
    match x.toInt? with
    | some n => if isSmall n && n != -twoTo 63 then switchOfInt n else .error .switchKind
    | none => .error .switchKind
  | .text s => switchOfText s
  | _ => .error .switchKind

/-- The complaints about items, the first of which has the given place. -/
def bindingComplaints (place : Nat) : List Json → List Complaint
  | [] => []
  | .object _ :: vs => bindingComplaints (place + 1) vs
  | _ :: vs => .bindingNotAnObject place :: bindingComplaints (place + 1) vs

/-- The members of items that are all objects, or the complaints about those that are not. -/
def bindingsOf (vs : List Json) : Except (List Complaint) (List (List (String × Json))) :=
  let complaints := bindingComplaints 0 vs
  if complaints.isEmpty then
    .ok (vs.filterMap fun v =>
      match v with
      | .object ms => some ms
      | _ => none)
  else .error complaints

/-- The manifest of a handler with the given attributes, whose fragments have to be objects. -/
def ofAttributes (attributes : List Attribute) : Except (List Complaint) Manifest :=
  (bindingsOf (attributes.flatMap (·.fragments))).map fun bindings =>
    { disabled := false, bindings }

/-- Reads the bindings, or complains about them. -/
def readBindings : Json → Except (List Complaint) (List (List (String × Json)))
  | .list vs => bindingsOf vs
  | _ => .error [.bindingsNotAList]

/-- What a result complains about. -/
def complaintsOf {α : Type} : Except (List Complaint) α → List Complaint
  | .ok _ => []
  | .error cs => cs

/-- Reads a manifest from the members of an object. -/
def ofMembers (members : List (String × Json)) : Except (List Complaint) Manifest :=
  let disabled := match Json.member? members "disabled" with
    | some v => (readSwitch v).mapError fun c => [c]
    | none => .ok false
  let bindings := match Json.member? members "bindings" with
    | some v => readBindings v
    | none => .ok []
  let unknown := (members.filter fun m => m.1 != "disabled" && m.1 != "bindings").map fun m =>
    Complaint.unknownName m.1
  match disabled, bindings, unknown with
  | .ok disabled, .ok bindings, [] => .ok ⟨disabled, bindings⟩
  | disabled, bindings, unknown =>
    .error (complaintsOf disabled ++ complaintsOf bindings ++ unknown)

/-- Reads a manifest from a JSON value. -/
def ofJson : Json → Except (List Complaint) Manifest
  | .object members => ofMembers members
  | _ => .error [.notAnObject]

/-- Reads a manifest from the bytes of a file. A name that stands twice in an object has its last
value. -/
def decode (bs : Bytes) : Except (List Complaint) Manifest :=
  match (Utf8.decode bs).toOption.bind (Json.read? depthLimit) with
  | some v => ofJson v.collapse
  | none => .error [.notJson]

end Manifest

end HandlerBundle
