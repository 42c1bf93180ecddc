import HandlerBundle.Journal.Severity
import HandlerBundle.Json.Basic

/-!
# Events

What happens in a build is told by events: each has a kind, a severity and fields, and comes from a
named part of the program. A remark is an event without a kind.

## Main definitions

* `Event` — an event.
* `Event.ofKind`, `Event.remark` — an event whose message is its kind, and one without a kind.
-/

namespace HandlerBundle

/-- Something that happened. -/
structure Event where
  kind : Option String
  severity : Severity
  /-- The part of the program that tells of the event. -/
  source : String
  message : String
  fields : List (String × Json)

namespace Event

/-- An event of a kind. -/
def ofKind (source kind : String) (severity : Severity) (fields : List (String × Json)) : Event :=
  ⟨some kind, severity, source, kind, fields⟩

/-- A remark. -/
def remark (source message : String) : Event :=
  ⟨none, .debug, source, message, []⟩

end Event

end HandlerBundle
