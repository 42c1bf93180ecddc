import HandlerBundle.Journal.Event
import HandlerBundle.Journal.Session

/-!
# The lines of a build

The events of a build are told to a journal in which the build has been entered, under the name of
its directory. Each gives a line like any other entry: what an event says of itself stands among the
members of every entry, and its fields are the details.

## Main definitions

* `Event.members` — what the line of an event tells, in order.
* `Journal.enterDirectory` — enters the build of a directory.
* `Journal.lineOf` — the line of an event.
-/

namespace HandlerBundle

/-- Whether a value counts as true. -/
def Json.isTrue : Json → Bool
  | .null => false
  | .bool b => b
  | .int n => n != 0
  | .float x => (Constant.float x).isTrue
  | .text s => !s.isEmpty
  | .list items => !items.isEmpty
  | .object members => !members.isEmpty

namespace Event

variable (e : Event)

/-- The attributes that an event gives its entry: its kind and its fields, of which the last one of
a name counts. -/
def attributes : List (String × Json) :=
  e.fields.foldl (fun done a => Json.put done a.1 a.2)
    (e.kind.map fun kind => ("event_type", Json.text kind)).toList

/-- An attribute that counts as true, or a default. -/
def given (name : String) (default : Json) : Json :=
  ((Json.member? e.attributes name).filter Json.isTrue).getD default

/-- The members of the entry of an event. -/
def members (origin : Origin) (build : Option String) (timestamp : String) :
    List (String × Json) :=
  lineMembers .text origin timestamp e.severity
    (e.given "build_id" ((build.map Json.text).getD .null)) (e.given "event_type" (.text "log"))
    (oneLine e.message Entry.messageLimit)
    (.text (if e.source.isEmpty then "root" else e.source)) none e.attributes

end Event

namespace Journal

/-- The name of the directory of a place. -/
def directoryName (place : String) : String :=
  (splitAtMark '/' place).getLastD ""

/-- Enters the build of the directory of a place. A directory without a name that can be told has a
fresh one instead. -/
def enterDirectory (j : Journal) (place fresh : String) : Journal :=
  j.enter (buildIdentifier (some (directoryName place)) fresh)

/-- The line of an event at a written instant, if the journal keeps it. -/
def lineOf (j : Journal) (timestamp : String) (e : Event) : Except Failure (Option String) :=
  j.keep e.severity (e.fields.map Prod.fst) fun origin =>
    some ((Json.object (e.members origin j.build? timestamp)).compact writtenLayout)

end Journal

end HandlerBundle
