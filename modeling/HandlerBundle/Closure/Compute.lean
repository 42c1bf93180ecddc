import HandlerBundle.Module.Archive
import HandlerBundle.Module.Table
import HandlerBundle.Object.Walk
import HandlerBundle.Source.Import

/-!
# The closure of a value

The closure of a value holds the modules that the host needs for it: those the value refers to,
their parents and the modules they import, and so on, as far as they are importable and not
excluded. A module without a source, or with one that cannot be read, has no place in it.

## Main definitions

* `ClosureError` — why a value has no closure.
* `ModuleTable.load`, `ModuleTable.imports`, `ModuleTable.needs` — the record of a module, the
  modules that its imports name, and the modules that it needs.
* `ModuleTable.closeOver` — the search for all modules that some modules need.
* `closure` — the closure of a value.
-/

namespace HandlerBundle

/-- Why a value has no closure. -/
inductive ClosureError where
  /-- An object could not be looked at. -/
  | walk (cause : Failure)
  /-- The value refers to the module that runs, which cannot be shipped. -/
  | runningModule
  | noSource (name : String) (origin : Option String)
  /-- A source is malformed, as the given words say. -/
  | unreadableSource (name words : String)
  | nullByte
  /-- The reading of a source stopped. -/
  | stopped (cause : Failure)
  deriving DecidableEq, Repr

namespace ClosureError

/-- How the message of a failure stands in another one: that of a missing key is quoted. -/
def innerMessage (f : Failure) : String :=
  if f.kind == .foreign "KeyError" then quoted f.message else f.message

/-- The error as a failure of a build. -/
def failure : ClosureError → Failure
  | .walk cause =>
    if cause.kind == .capture then cause
    else
      ⟨.capture, "dependency walk failed: " ++ cause.kind.name ++ ": " ++ innerMessage cause⟩
  | .runningModule =>
    ⟨.capture, "values defined in __main__ cannot be captured; move the handler into a module"⟩
  | .noSource name origin =>
    ⟨.capture, "module " ++ quoted name ++ " has no Python source (" ++ origin.getD "None" ++
      "); add it to the host allow-list"⟩
  | .unreadableSource name words =>
    ⟨.capture, "cannot parse module " ++ quoted name ++ ": " ++ words⟩
  | .nullByte =>
    ⟨.foreign "ValueError", "source code string cannot contain null bytes"⟩
  | .stopped cause => cause

end ClosureError

/-- What the origin of a source ends in. -/
def sourceSuffix : String := ".py"

namespace ModuleTable

/-- Whether a package has no file of its own. -/
def isNamespace (spec : ModuleSpec) : Bool :=
  spec.isPackage && (spec.origin.isNone || spec.origin == some "namespace")

/-- The record of an importable module. -/
def load (name : String) (spec : ModuleSpec) : Except ClosureError ModuleRecord :=
  if isNamespace spec then .ok ⟨name, true, []⟩
  else
    match spec.origin, spec.content with
    | some origin, some source =>
      if sourceSuffix.toList.isSuffixOf origin.toList then .ok ⟨name, spec.isPackage, source⟩
      else .error (.noSource name spec.origin)
    | _, _ => .error (.noSource name spec.origin)

/-- The modules that the imports of a module name, as its source is read. -/
def importsOf (table : ModuleTable) (r : ModuleRecord) : Except SourceError (List String) :=
  importedModules table.runtime.reader r.name r.isPackage r.source

/-- What a module with a source that is not read does to a search. -/
def sourceFault (table : ModuleTable) (r : ModuleRecord) : SourceError → ClosureError
  | .nullByte => .nullByte
  | .stopped cause => .stopped cause
  | .malformed => .unreadableSource r.name (table.runtime.reader.explain r.name r.source)

/-- The modules that the imports of a module name. -/
def imports (table : ModuleTable) (r : ModuleRecord) : Except ClosureError (List String) :=
  (table.importsOf r).mapError (table.sourceFault r)

/-- The modules that a module needs: its parent, and then those its imports name. -/
def needs (table : ModuleTable) (r : ModuleRecord) : Except ClosureError (List String) := do
  let names ← table.imports r
  let parent := parentName r.name
  return (if parent.isEmpty then [] else [parent]) ++ names

/-- The names of the importable modules. -/
def importable (table : ModuleTable) : List String :=
  (table.modules.filter fun m => m.spec.isSome).map (·.name)

/-- What a search has found: the modules, latest first, and the names that were passed over because
they are not importable, latest first. -/
structure Search where
  found : List ModuleRecord
  skipped : List String

/-- Whether a search has found the module of a name. -/
def Search.has (s : Search) (name : String) : Bool :=
  s.found.any fun r => r.name == name

/-- Without one of its members a list is shorter. -/
theorem length_erase_lt {name : String} {names : List String} (h : name ∈ names) :
    (names.erase name).length < names.length := by
  have := List.length_pos_of_mem h
  rw [List.length_erase_of_mem h]
  omega

/-- Goes on with a search from the names on the stack. `unloaded` holds the importable modules that
are not found yet. An error comes with what was found before it. -/
def search (table : ModuleTable) (ex : Exclusion) (unloaded stack : List String) (s : Search) :
    Search × Option ClosureError :=
  match stack with
  | [] => (s, none)
  | name :: rest =>
    if s.has name || ex.excludes name then search table ex unloaded rest s
    else if name ∈ unloaded then
      match table.spec? name with
      | none => search table ex unloaded rest s
      | some spec =>
        match load name spec with
        | .error e => (s, some e)
        | .ok r =>
          match table.needs r with
          | .error e => (s, some e)
          | .ok names =>
            search table ex (unloaded.erase name) (names.reverse ++ rest)
              { s with found := r :: s.found }
    else search table ex unloaded rest { s with skipped := name :: s.skipped }
termination_by (unloaded.length, stack.length)
decreasing_by
  · exact Prod.Lex.right _ (Nat.lt_succ_self _)
  · exact Prod.Lex.right _ (Nat.lt_succ_self _)
  · exact Prod.Lex.left _ _ (length_erase_lt ‹_›)
  · exact Prod.Lex.right _ (Nat.lt_succ_self _)

end ModuleTable

/-- The closure of a value, or why there is none, with the names that were passed over. -/
structure Closure where
  records : Except ClosureError (List ModuleRecord)
  skipped : List String

/-- Names in order. -/
def sortNames (names : List String) : List String :=
  names.mergeSort fun a b => a ≤ b

/-- All modules that some modules need, themselves included, in the order of their names. -/
def ModuleTable.closeOver (table : ModuleTable) (ex : Exclusion) (roots : List String) : Closure :=
  if roots.contains runningModule then ⟨.error .runningModule, []⟩
  else
    let (s, error) := table.search ex table.importable (sortNames roots).reverse ⟨[], []⟩
    match error with
    | some e => ⟨.error e, s.skipped.reverse⟩
    | none => ⟨.ok (s.found.mergeSort fun a b => a.name ≤ b.name), s.skipped.reverse⟩

/-- The closure of a value. -/
def closure (h : Heap) (table : ModuleTable) (ex : Exclusion) (value : ObjectId) : Closure :=
  match h.referencedModules ex value with
  | .error cause => ⟨.error (.walk cause), []⟩
  | .ok roots => table.closeOver ex roots

end HandlerBundle
