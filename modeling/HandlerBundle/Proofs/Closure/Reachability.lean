import HandlerBundle.Closure.Compute
import HandlerBundle.Proofs.Closure.Exclusion
import HandlerBundle.Proofs.Results
import Mathlib.Data.List.Perm.Subperm
import Mathlib.Data.List.Sort
import Mathlib.Data.String.Basic

/-!
# Modules reachable by parents and imports

From the modules that a value refers to, others are reached by two kinds of edges: from a module to
its parent, and from a module to those that the imports of its source name. A path goes only through
modules that are loadable and not excluded, but it may end in any name. The least closure of some
modules has a record of every loadable module that is reached from them and not excluded.

## Main definitions

* `ModuleTable.Loads`, `ModuleTable.Faults` — a module with a record, and one that stops a search.
* `ModuleTable.Reaches` — the modules that are reached from some roots.
* `ModuleTable.IsLeastClosure`, `ModuleTable.IsClosed` — the records of a closure.

## Main results

* `ModuleTable.IsLeastClosure.eq` — modules have at most one least closure.
-/

namespace HandlerBundle

namespace ModuleTable

/-- An importable module with the record `r`. -/
def Loads (table : ModuleTable) (name : String) (r : ModuleRecord) : Prop :=
  ∃ spec, table.spec? name = some spec ∧ load name spec = .ok r

/-- An importable module that a search cannot take in, and why. -/
inductive Faults (table : ModuleTable) : String → ClosureError → Prop
  | noRecord {name spec e} (hspec : table.spec? name = some spec)
      (hload : load name spec = .error e) : Faults table name e
  | noImports {name r e} (hload : table.Loads name r) (hneeds : table.needs r = .error e) :
      Faults table name e

/-- An importable module that has no source and is no package without a file either. -/
def LacksSource (table : ModuleTable) (name : String) : Prop :=
  ∃ spec, table.spec? name = some spec ∧ isNamespace spec = false ∧
    ∀ origin source, spec.origin = some origin → spec.content = some source →
      ¬ sourceSuffix.toList <:+ origin.toList

/-- A loadable module with a source that is not read. -/
def RejectsSource (table : ModuleTable) (name : String) (e : SourceError) : Prop :=
  ∃ r, table.Loads name r ∧ table.importsOf r = .error e

/-- The modules that are reached from some roots. -/
inductive Reaches (table : ModuleTable) (ex : Exclusion) (roots : List String) : String → Prop
  | root {name} (hmem : name ∈ roots) : Reaches table ex roots name
  | parent {name r} (hname : Reaches table ex roots name) (hex : ex.excludes name = false)
      (hload : table.Loads name r) (hparent : parentName name ≠ "") :
      Reaches table ex roots (parentName name)
  | imported {name r names m} (hname : Reaches table ex roots name)
      (hex : ex.excludes name = false) (hload : table.Loads name r)
      (himports : table.importsOf r = .ok names) (hmem : m ∈ names) : Reaches table ex roots m

variable {table : ModuleTable} {ex : Exclusion} {roots : List String}

/-- The record of a module has its name. -/
theorem load_name {name : String} {spec : ModuleSpec} {r : ModuleRecord}
    (h : load name spec = .ok r) : r.name = name := by
  unfold load at h
  split_ifs at h
  · exact (Except.ok.inj h) ▸ rfl
  · split at h
    · split_ifs at h
      exact (Except.ok.inj h) ▸ rfl
    · cases h

theorem Loads.name_eq {name : String} {r : ModuleRecord} :
    table.Loads name r → r.name = name
  | ⟨_, _, hload⟩ => load_name hload

/-- A module has at most one record. -/
theorem Loads.unique {name : String} {r r' : ModuleRecord} :
    table.Loads name r → table.Loads name r' → r = r'
  | ⟨_, hspec, hload⟩, ⟨_, hspec', hload'⟩ => by
      obtain rfl := Option.some.inj (hspec.symm.trans hspec')
      exact Except.ok.inj (hload.symm.trans hload')

/-- A module needs its parent and the modules that its imports name. -/
theorem mem_needs_iff {r : ModuleRecord} {names imports : List String} {m : String}
    (hneeds : table.needs r = .ok names) (himports : table.importsOf r = .ok imports) :
    m ∈ names ↔ m = parentName r.name ∧ parentName r.name ≠ "" ∨ m ∈ imports := by
  rw [needs, ModuleTable.imports, himports] at hneeds
  obtain rfl := Except.ok.inj hneeds
  rw [List.mem_append]
  split_ifs with hparent <;> rw [String.isEmpty_iff] at hparent <;> simp [hparent]

/-- The imports of a module with needs can be read. -/
theorem exists_importsOf_of_needs {r : ModuleRecord} {names : List String}
    (h : table.needs r = .ok names) : ∃ imports, table.importsOf r = .ok imports := by
  obtain ⟨imports, himports, -⟩ := bind_eq_ok_iff.mp h
  exact ⟨imports, mapError_eq_ok_iff.mp himports⟩

/-- The modules that a reached module needs are reached. -/
theorem Reaches.of_needs {name m : String} {r : ModuleRecord} {names : List String}
    (hname : table.Reaches ex roots name) (hex : ex.excludes name = false)
    (hload : table.Loads name r) (hneeds : table.needs r = .ok names) (hmem : m ∈ names) :
    table.Reaches ex roots m := by
  obtain ⟨imports, himports⟩ := exists_importsOf_of_needs hneeds
  obtain rfl := hload.name_eq
  rcases (mem_needs_iff hneeds himports).mp hmem with ⟨rfl, hparent⟩ | hmem
  · exact .parent hname hex hload hparent
  · exact .imported hname hex hload himports hmem

/-- A module has no record if and only if it lacks a source. -/
theorem lacksSource_iff {name : String} :
    table.LacksSource name ↔
      ∃ spec e, table.spec? name = some spec ∧ load name spec = .error e := by
  refine exists_congr fun spec => ?_
  rw [exists_and_left]
  refine and_congr_right fun _ => ?_
  unfold load
  cases isNamespace spec with
  | true => simp
  | false =>
    cases spec.origin with
    | none => simp
    | some origin =>
      cases spec.content with
      | none => simp
      | some source =>
        by_cases hsuffix : sourceSuffix.toList <:+ origin.toList <;> simp [hsuffix]

/-- A record is only missing for want of a source. -/
theorem exists_noSource_of_load {name : String} {spec : ModuleSpec} {e : ClosureError}
    (h : load name spec = .error e) : ∃ origin, e = .noSource name origin := by
  unfold load at h
  split_ifs at h
  split at h
  · split_ifs at h
    exact ⟨_, (Except.error.inj h).symm⟩
  · exact ⟨_, (Except.error.inj h).symm⟩

/-- A module without needs has a source that is not read. -/
theorem needs_eq_error_iff {r : ModuleRecord} {e : ClosureError} :
    table.needs r = .error e ↔
      ∃ error, table.importsOf r = .error error ∧ table.sourceFault r error = e := by
  simp only [needs, imports, bind_eq_error_iff, mapError_eq_error_iff, pure, Except.pure,
    reduceCtorEq, and_false, exists_false, or_false]

/-- A module that faults lacks a source or has one that is not read, and unless that is for
something else than being malformed, the fault is a failed capture. -/
theorem Faults.lacksSource_or_rejectsSource {name : String} {e : ClosureError} :
    table.Faults name e →
      (table.LacksSource name ∨ table.RejectsSource name .malformed) ∧ e.failure.kind = .capture ∨
      ∃ error, error ≠ .malformed ∧ table.RejectsSource name error
  | .noRecord hspec hload => by
      obtain ⟨origin, rfl⟩ := exists_noSource_of_load hload
      exact .inl ⟨.inl (lacksSource_iff.mpr ⟨_, _, hspec, hload⟩), rfl⟩
  | .noImports hload hneeds => by
      obtain ⟨error, himports, rfl⟩ := needs_eq_error_iff.mp hneeds
      by_cases herror : error = .malformed
      · subst herror
        exact .inl ⟨.inr ⟨_, hload, himports⟩, rfl⟩
      · exact .inr ⟨error, herror, _, hload, himports⟩

/-- A module faults if it lacks a source. -/
theorem LacksSource.exists_faults {name : String} (h : table.LacksSource name) :
    ∃ e, table.Faults name e := by
  obtain ⟨spec, e, hspec, hload⟩ := lacksSource_iff.mp h
  exact ⟨e, .noRecord hspec hload⟩

/-- A module faults if its source is not read. -/
theorem RejectsSource.exists_faults {name : String} {error : SourceError} :
    table.RejectsSource name error → ∃ e, table.Faults name e
  | ⟨_, hload, himports⟩ =>
    ⟨_, .noImports hload (needs_eq_error_iff.mpr ⟨error, himports, rfl⟩)⟩

/-- Whether every importable module has a record and imports that can be read. -/
def isReadable (table : ModuleTable) : Bool :=
  table.modules.all fun m =>
    match m.spec with
    | none => true
    | some spec =>
      match load m.name spec with
      | .ok r => (table.needs r).isOk
      | .error _ => false

/-- An importable module has a place in the table. -/
theorem exists_mem_of_spec?_eq_some {name : String} {spec : ModuleSpec}
    (h : table.spec? name = some spec) :
    ∃ m ∈ table.modules, m.name = name ∧ m.spec = some spec := by
  obtain ⟨m, hfind, hspec⟩ := Option.bind_eq_some_iff.mp h
  have hname := List.find?_some hfind
  exact ⟨m, List.mem_of_find?_eq_some hfind, beq_iff_eq.mp hname, hspec⟩

/-- In a readable table no module faults. -/
theorem not_faults_of_isReadable (h : table.isReadable = true) {name : String} {e : ClosureError} :
    ¬ table.Faults name e
  | .noRecord hspec hload => by
      obtain ⟨m, hm, rfl, horigin⟩ := exists_mem_of_spec?_eq_some hspec
      have hread := List.all_eq_true.mp h m hm
      simp only [horigin, hload, Bool.false_eq_true] at hread
  | .noImports ⟨spec, hspec, hload⟩ hneeds => by
      obtain ⟨m, hm, rfl, horigin⟩ := exists_mem_of_spec?_eq_some hspec
      have hread := List.all_eq_true.mp h m hm
      simp only [horigin, hload, hneeds, Except.isOk, Except.toBool, Bool.false_eq_true] at hread

/-- The records of the least closure of some roots. -/
structure IsLeastClosure (table : ModuleTable) (ex : Exclusion) (roots : List String)
    (rs : List ModuleRecord) : Prop where
  sorted : rs.Pairwise fun a b => a.name < b.name
  mem_iff : ∀ r, r ∈ rs ↔
    table.Reaches ex roots r.name ∧ ex.excludes r.name = false ∧ table.Loads r.name r

/-- Records that hold what they need: their parents and the modules that their imports name. -/
structure IsClosed (table : ModuleTable) (ex : Exclusion) (rs : List ModuleRecord) : Prop where
  parent_mem : ∀ r ∈ rs, ∀ r', parentName r.name ≠ "" → table.Loads (parentName r.name) r' → r' ∈ rs
  import_mem : ∀ r ∈ rs, ∀ names, table.importsOf r = .ok names →
    ∀ m ∈ names, ex.excludes m = false → ∀ r', table.Loads m r' → r' ∈ rs

namespace IsLeastClosure

variable {rs rs' : List ModuleRecord}

/-- A least closure is closed. -/
theorem isClosed (h : table.IsLeastClosure ex roots rs) : table.IsClosed ex rs where
  parent_mem r hr r' hparent hload := by
    obtain ⟨hreach, hex, hr⟩ := (h.mem_iff r).mp hr
    rw [h.mem_iff, hload.name_eq]
    exact ⟨.parent hreach hex hr hparent, ex.excludes_parentName_eq_false hparent hex, hload⟩
  import_mem r hr names himports m hm hex r' hload := by
    obtain ⟨hreach, hex', hr⟩ := (h.mem_iff r).mp hr
    rw [h.mem_iff, hload.name_eq]
    exact ⟨.imported hreach hex' hr himports hm, hex, hload⟩

theorem nodup (h : table.IsLeastClosure ex roots rs) : rs.Nodup :=
  h.sorted.imp fun {a b} hlt (heq : a = b) => lt_irrefl b.name (heq ▸ hlt)

/-- Modules have at most one least closure. -/
theorem eq (h : table.IsLeastClosure ex roots rs) (h' : table.IsLeastClosure ex roots rs') :
    rs = rs' := by
  have hperm : rs.Perm rs' := by
    rw [List.perm_ext_iff_of_nodup h.nodup h'.nodup]
    exact fun r => (h.mem_iff r).trans (h'.mem_iff r).symm
  exact hperm.eq_of_pairwise (fun _ _ _ _ hlt hgt => absurd hlt (lt_asymm hgt)) h.sorted h'.sorted

end IsLeastClosure

end ModuleTable

end HandlerBundle
