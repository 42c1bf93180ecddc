import HandlerBundle.Journal.Entry

/-!
# Keeping a journal

A journal is kept once it has been set up: then every event whose severity reaches the level of the
journal gives a line. Builds are entered and left again, the innermost one marking the entries.

## Main definitions

* `Journal` — what is known of a journal between events.
* `Journal.configure`, `Journal.enter`, `Journal.leave` — the steps that change it.
* `Journal.line` — the line of an event.
-/

namespace HandlerBundle

/-- A journal: the program whose entries are written, if it has been set up, its least level, and
the identifiers of the builds that have been entered, innermost first. -/
structure Journal where
  origin : Option Origin
  level : Nat
  builds : List String

namespace Journal

/-- A journal before it is set up. -/
def start : Journal := ⟨none, Severity.warning.level, []⟩

/-- The build that marks the entries. -/
def build? (j : Journal) : Option String := j.builds.head?

/-- Enters a build. -/
def enter (j : Journal) (build : String) : Journal :=
  { j with builds := build :: j.builds }

/-- Leaves the innermost build. -/
def leave (j : Journal) : Journal :=
  { j with builds := j.builds.tail }

/-- The word for the least level: a given one, or that of a variable, in upper case. -/
def levelWord (vars : Variables) (level : Option String) : String :=
  upperText (((nonEmpty? level).orElse fun _ =>
    nonEmpty? (vars.lookup "LOG_LEVEL")).getD Severity.info.name)

/-- Sets a journal up and returns its level. A word that is no level leaves the level as it is. -/
def configure (j : Journal) (vars : Variables)
    (service environment version level : Option String) : Except Failure Nat × Journal :=
  let j := { j with origin := some (.read vars service environment version) }
  let word := levelWord vars level
  match Severity.threshold? word with
  | some n => (.ok n, { j with level := n })
  | none => (.error ⟨.foreign "ValueError", "Unknown level: " ++ quoted word⟩, j)

/-- The line of what happens with a severity and with fields of the given names, if the journal
keeps it. A field must not hide what describes an entry. -/
def keep (j : Journal) (severity : Severity) (names : List String)
    (line : Origin → Option String) : Except Failure (Option String) :=
  if severity.level < j.level then .ok none
  else
    match names.find? descriptionNames.contains, j.origin with
    | some name, _ =>
      .error ⟨.foreign "KeyError", "Attempt to overwrite " ++ quoted name ++ " in LogRecord"⟩
    | none, none => .ok none
    | none, some origin => .ok (line origin)

/-- Adds texts to the objects. -/
def addTexts (h : Heap) (texts : List (String × String)) : Heap × List (String × ObjectId) :=
  texts.foldl (fun done t =>
    let (h, id) := done.1.alloc (.constant (.text t.2))
    (h, done.2 ++ [(t.1, id)])) (h, [])

/-- The line of an event at a written instant, if the journal keeps it and it can be written. An
event without a message has its kind for one. -/
def line (j : Journal) (h : Heap) (table : ModuleTable) (timestamp source kind : String)
    (severity : Severity) (message : Option String) (fields : List (String × ObjectId)) :
    Except Failure (Option String) :=
  j.keep severity (fields.map Prod.fst) fun origin =>
    let (h, described) := addTexts h
      [("name", if source.isEmpty then "root" else source), ("severity", severity.name),
        ("msg", (nonEmpty? message).getD kind), ("event_type", kind)]
    let entry := Entry.ofAttributes (described ++ fields) none
    (entry.writeAt h table origin j.build? timestamp).toOption

end Journal

end HandlerBundle
