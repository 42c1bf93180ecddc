import HandlerBundle.Proofs.Closure.Reachability
import HandlerBundle.Proofs.Search
import Mathlib.Data.Multiset.MapFold
import Mathlib.Logic.Relation

/-!
# Searches in any order

A search keeps the names that are pending and the records that it has found. A step takes one of the
pending names, whichever it likes, and either passes over it or takes its module in. What a search
ends with does not depend on these choices, and the search of the program makes them so that the
name that came last is taken first.

## Main definitions

* `ModuleTable.Frontier` — what a search keeps.
* `ModuleTable.Step`, `ModuleTable.Ends`, `ModuleTable.Yields` — searches that choose freely.
* `ModuleTable.Frontier.Inv` — what holds throughout a search.

## Main results

* `ModuleTable.wellFounded_step` — every search ends.
* `ModuleTable.Step.inv` — a step keeps what holds throughout a search.
* `ModuleTable.Yields.isLeastClosure`, `ModuleTable.Yields.exists_faults` — what a search ends with.
* `ModuleTable.Yields.eq_ok_of_eq_ok` — the order of a search does not matter.
* `ModuleTable.search_steps` — the search of the program is one of them.
-/

namespace HandlerBundle

namespace ModuleTable

/-- The pending names of a search, and what it has found. -/
structure Frontier where
  pending : Multiset String
  found : List ModuleRecord

/-- Records in the order of their names. -/
def sortRecords (rs : List ModuleRecord) : List ModuleRecord :=
  rs.mergeSort fun a b => a.name ≤ b.name

/-- A module that a search has not found yet, and that is not excluded. -/
def IsFresh (ex : Exclusion) (found : List ModuleRecord) (name : String) : Prop :=
  name ∉ found.map (·.name) ∧ ex.excludes name = false

/-- A name that a search has nothing to do with any more. -/
def IsSettled (table : ModuleTable) (ex : Exclusion) (found : List ModuleRecord)
    (name : String) : Prop :=
  name ∈ found.map (·.name) ∨ ex.excludes name = true ∨ table.spec? name = none

/-- A step of a search: a pending name is passed over, or its module is taken in. -/
inductive Step (table : ModuleTable) (ex : Exclusion) : Frontier → Frontier → Prop
  | pass {name rest found} (h : table.IsSettled ex found name) :
      Step table ex ⟨name ::ₘ rest, found⟩ ⟨rest, found⟩
  | take {name rest found r names} (hfresh : IsFresh ex found name) (hload : table.Loads name r)
      (hneeds : table.needs r = .ok names) :
      Step table ex ⟨name ::ₘ rest, found⟩ ⟨(names : Multiset String) + rest, r :: found⟩

/-- The end of a search: nothing is pending, or a pending module faults. -/
inductive Ends (table : ModuleTable) (ex : Exclusion) :
    Frontier → Except ClosureError (List ModuleRecord) → Prop
  | done {found} : Ends table ex ⟨0, found⟩ (.ok (sortRecords found))
  | fault {name rest found e} (hfresh : IsFresh ex found name) (hfault : table.Faults name e) :
      Ends table ex ⟨name ::ₘ rest, found⟩ (.error e)

/-- A search for what some pending names need may end with `out`. -/
def Yields (table : ModuleTable) (ex : Exclusion) (pending : Multiset String)
    (out : Except ClosureError (List ModuleRecord)) : Prop :=
  ∃ s, Relation.ReflTransGen (table.Step ex) ⟨pending, []⟩ s ∧ table.Ends ex s out

variable {table : ModuleTable} {ex : Exclusion} {roots : List String}

theorem IsSettled.mono {found : List ModuleRecord} {r : ModuleRecord} {name : String} :
    table.IsSettled ex found name → table.IsSettled ex (r :: found) name
  | .inl h => .inl (List.mem_cons_of_mem _ h)
  | .inr h => .inr h

/-! ### Termination -/

/-- How many importable modules are not among the records. -/
def unfoundCount (table : ModuleTable) (found : List ModuleRecord) : ℕ :=
  (table.importable.toFinset \ (found.map (·.name)).toFinset).card

theorem mem_importable_of_spec?_eq_some {name : String} {spec : ModuleSpec}
    (h : table.spec? name = some spec) : name ∈ table.importable := by
  obtain ⟨m, hm, hname, hspec⟩ := exists_mem_of_spec?_eq_some h
  have hmem : m ∈ table.modules.filter fun m => m.spec.isSome :=
    List.mem_filter.mpr ⟨hm, Option.isSome_of_eq_some hspec⟩
  exact List.mem_map.mpr ⟨m, hmem, hname⟩

/-- With a new importable module among the records, fewer are not. -/
theorem unfoundCount_cons_lt {found : List ModuleRecord} {r : ModuleRecord} {name : String}
    (hfresh : IsFresh ex found name) (hload : table.Loads name r) :
    table.unfoundCount (r :: found) < table.unfoundCount found := by
  obtain ⟨spec, hspec, -⟩ := id hload
  rw [unfoundCount, unfoundCount, List.map_cons, hload.name_eq, List.toFinset_cons]
  apply card_sdiff_insert_lt <;> rw [List.mem_toFinset]
  · exact mem_importable_of_spec?_eq_some hspec
  · exact hfresh.1

/-- Ever fewer modules are not found yet, and until the next one is found ever fewer names are
pending. -/
theorem Step.measures_lt {s t : Frontier} (h : table.Step ex s t) :
    table.unfoundCount t.found < table.unfoundCount s.found ∨
      table.unfoundCount t.found = table.unfoundCount s.found ∧
        t.pending.card < s.pending.card := by
  cases h with
  | pass => exact .inr ⟨rfl, by rw [Multiset.card_cons]; exact Nat.lt_succ_self _⟩
  | take hfresh hload => exact .inl (unfoundCount_cons_lt hfresh hload)

/-- **Every search ends.** No search goes on forever, in whatever order it takes the names. -/
theorem wellFounded_step (table : ModuleTable) (ex : Exclusion) :
    WellFounded fun t s => table.Step ex s t :=
  wellFounded_of_measures (fun s => table.unfoundCount s.found) (fun s => s.pending.card)
    fun _ _ h => h.measures_lt

/-! ### What holds throughout a search -/

/-- What holds throughout a search: all it deals with is reached from the roots, and what the roots
and the found modules need is pending or settled. -/
structure Frontier.Inv (table : ModuleTable) (ex : Exclusion) (roots : List String)
    (s : Frontier) : Prop where
  pending_reached : ∀ m ∈ s.pending, table.Reaches ex roots m
  found_reached : ∀ r ∈ s.found,
    table.Reaches ex roots r.name ∧ ex.excludes r.name = false ∧ table.Loads r.name r
  roots_kept : ∀ m ∈ roots, m ∈ s.pending ∨ table.IsSettled ex s.found m
  needs_kept : ∀ r ∈ s.found, ∃ names, table.needs r = .ok names ∧
    ∀ m ∈ names, m ∈ s.pending ∨ table.IsSettled ex s.found m
  nodup : (s.found.map (·.name)).Nodup

/-- At the start everything pending is a root. -/
theorem Frontier.inv_start {pending : Multiset String} (h : ∀ m, m ∈ pending ↔ m ∈ roots) :
    Frontier.Inv table ex roots ⟨pending, []⟩ where
  pending_reached m hm := .root ((h m).mp hm)
  found_reached _ hr := absurd hr List.not_mem_nil
  roots_kept m hm := .inl ((h m).mpr hm)
  needs_kept _ hr := absurd hr List.not_mem_nil
  nodup := List.nodup_nil

/-- A step keeps what holds throughout a search. -/
theorem Step.inv {s t : Frontier} (h : table.Step ex s t) (hinv : s.Inv table ex roots) :
    t.Inv table ex roots := by
  cases h with
  | pass hsettled =>
    exact {
      pending_reached := fun m hm => hinv.pending_reached m (Multiset.mem_cons_of_mem hm)
      found_reached := hinv.found_reached
      roots_kept := fun m hm => pending_or_settled_of_pass hsettled (hinv.roots_kept m hm)
      needs_kept := fun r hr => by
        obtain ⟨names, hneeds, hkept⟩ := hinv.needs_kept r hr
        exact ⟨names, hneeds, fun m hm => pending_or_settled_of_pass hsettled (hkept m hm)⟩
      nodup := hinv.nodup }
  | @take name rest found r names hfresh hload hneeds =>
    have hname := hload.name_eq
    have hreach := hinv.pending_reached name (Multiset.mem_cons_self name rest)
    have hsettled : table.IsSettled ex (r :: found) name := .inl (hname ▸ List.mem_cons_self)
    have hkept {m : String} : m ∈ name ::ₘ rest ∨ table.IsSettled ex found m →
        m ∈ (names : Multiset String) + rest ∨ table.IsSettled ex (r :: found) m :=
      pending_or_settled_of_take (fun _ h => h.mono) hsettled names
    exact {
      pending_reached := fun m hm => by
        rcases Multiset.mem_add.mp hm with hm | hm
        · exact hreach.of_needs hfresh.2 hload hneeds (Multiset.mem_coe.mp hm)
        · exact hinv.pending_reached m (Multiset.mem_cons_of_mem hm)
      found_reached := fun r' hr' => by
        rcases List.mem_cons.mp hr' with rfl | hr'
        · rw [hname]
          exact ⟨hreach, hfresh.2, hload⟩
        · exact hinv.found_reached r' hr'
      roots_kept := fun m hm => hkept (hinv.roots_kept m hm)
      needs_kept := fun r' hr' => by
        rcases List.mem_cons.mp hr' with rfl | hr'
        · exact ⟨names, hneeds, fun m hm => .inl (Multiset.mem_add.mpr (.inl hm))⟩
        · obtain ⟨names', hneeds', hkept'⟩ := hinv.needs_kept r' hr'
          exact ⟨names', hneeds', fun m hm => hkept (hkept' m hm)⟩
      nodup := by
        rw [List.map_cons, hname]
        exact List.nodup_cons.mpr ⟨hfresh.1, hinv.nodup⟩ }

/-- Whatever the order of its steps, a search keeps what holds at its start. -/
theorem inv_of_steps {s t : Frontier} (hrun : Relation.ReflTransGen (table.Step ex) s t)
    (hinv : s.Inv table ex roots) : t.Inv table ex roots := by
  induction hrun with
  | refl => exact hinv
  | tail _ hstep ih => exact hstep.inv ih

/-! ### The end of a search -/

/-- Records in the order of their names come one after the other if no two have the same name. -/
theorem pairwise_sortRecords {rs : List ModuleRecord} (h : (rs.map (·.name)).Nodup) :
    (sortRecords rs).Pairwise fun a b => a.name < b.name := by
  have hle : (sortRecords rs).Pairwise fun a b => a.name ≤ b.name := by
    refine (List.pairwise_mergeSort ?_ ?_ rs).imp fun h => of_decide_eq_true h
    · intro a b c hab hbc
      exact decide_eq_true ((of_decide_eq_true hab).trans (of_decide_eq_true hbc))
    · intro a b
      rw [Bool.or_eq_true, decide_eq_true_iff, decide_eq_true_iff]
      exact le_total a.name b.name
  have hne : (sortRecords rs).Pairwise fun a b => a.name ≠ b.name :=
    List.pairwise_map.mp (((List.mergeSort_perm rs _).map _).nodup_iff.mpr h)
  exact (hle.and hne).imp fun h => lt_of_le_of_ne h.1 h.2

namespace Frontier.Inv

variable {s : Frontier} {found : List ModuleRecord}

/-- A module that is importable, settled and not excluded is found. -/
theorem exists_mem_found (hinv : s.Inv table ex roots) {name : String} {spec : ModuleSpec}
    (hsettled : table.IsSettled ex s.found name) (hex : ex.excludes name = false)
    (hspec : table.spec? name = some spec) : ∃ r ∈ s.found, table.Loads name r := by
  rcases hsettled with hmem | hex' | hnone
  · obtain ⟨r, hr, rfl⟩ := List.mem_map.mp hmem
    exact ⟨r, hr, (hinv.found_reached r hr).2.2⟩
  · exact absurd hex' (by rw [hex]; exact Bool.false_ne_true)
  · exact absurd (hnone.symm.trans hspec) (Option.some_ne_none _).symm

/-- A module that is loadable, settled and not excluded is found with its record. -/
theorem mem_found (hinv : s.Inv table ex roots) {name : String} {r : ModuleRecord}
    (hsettled : table.IsSettled ex s.found name) (hex : ex.excludes name = false)
    (hload : table.Loads name r) : r ∈ s.found := by
  obtain ⟨spec, hspec, -⟩ := id hload
  obtain ⟨r', hr', hload'⟩ := hinv.exists_mem_found hsettled hex hspec
  exact hload.unique hload' ▸ hr'

/-- When nothing is pending, all that is reached is settled. -/
theorem isSettled_of_reaches (hinv : Frontier.Inv table ex roots ⟨0, found⟩) {m : String}
    (h : table.Reaches ex roots m) : table.IsSettled ex found m := by
  induction h with
  | root hmem => exact (hinv.roots_kept _ hmem).resolve_left (Multiset.notMem_zero _)
  | @parent name r _ hex hload hparent ih =>
    obtain ⟨names, hneeds, hkept⟩ := hinv.needs_kept r (hinv.mem_found ih hex hload)
    obtain ⟨imports, himports⟩ := exists_importsOf_of_needs hneeds
    obtain rfl := hload.name_eq
    exact (hkept _ ((mem_needs_iff hneeds himports).mpr (.inl ⟨rfl, hparent⟩))).resolve_left
      (Multiset.notMem_zero _)
  | @imported name r imports m _ hex hload himports hmem ih =>
    obtain ⟨names, hneeds, hkept⟩ := hinv.needs_kept r (hinv.mem_found ih hex hload)
    obtain rfl := hload.name_eq
    exact (hkept m ((mem_needs_iff hneeds himports).mpr (.inr hmem))).resolve_left
      (Multiset.notMem_zero _)

/-- When nothing is pending, the least closure is found. -/
theorem isLeastClosure (hinv : Frontier.Inv table ex roots ⟨0, found⟩) :
    table.IsLeastClosure ex roots (sortRecords found) where
  sorted := pairwise_sortRecords hinv.nodup
  mem_iff r := by
    rw [sortRecords, List.mem_mergeSort]
    constructor
    · exact hinv.found_reached r
    · rintro ⟨hreach, hex, hload⟩
      exact hinv.mem_found (hinv.isSettled_of_reaches hreach) hex hload

/-- When nothing is pending, no module that is reached and not excluded faults. -/
theorem not_faults (hinv : Frontier.Inv table ex roots ⟨0, found⟩) {name : String}
    {e : ClosureError} (hreach : table.Reaches ex roots name) (hex : ex.excludes name = false) :
    ¬ table.Faults name e
  | .noRecord hspec hload => by
      obtain ⟨r, -, spec, hspec', hload'⟩ :=
        hinv.exists_mem_found (hinv.isSettled_of_reaches hreach) hex hspec
      obtain rfl := Option.some.inj (hspec.symm.trans hspec')
      cases hload.symm.trans hload'
  | .noImports hload hneeds => by
      obtain ⟨names, hneeds', -⟩ :=
        hinv.needs_kept _ (hinv.mem_found (hinv.isSettled_of_reaches hreach) hex hload)
      cases hneeds.symm.trans hneeds'

end Frontier.Inv

section Yields

variable {pending : Multiset String} (hpending : ∀ m, m ∈ pending ↔ m ∈ roots)
include hpending

/-- **A search that does not fail.** It finds the least closure of its roots, and no module that is
reached and not excluded faults. -/
theorem Yields.isLeastClosure {rs : List ModuleRecord} :
    table.Yields ex pending (.ok rs) →
      table.IsLeastClosure ex roots rs ∧
        ∀ name e, table.Reaches ex roots name → ex.excludes name = false → ¬ table.Faults name e
  | ⟨_, hrun, hend⟩ => by
      have hinv := inv_of_steps hrun (Frontier.inv_start hpending)
      cases hend
      exact ⟨hinv.isLeastClosure, fun _ _ => hinv.not_faults⟩

/-- **A search that fails.** It names what is wrong with a module that is reached and not
excluded. -/
theorem Yields.exists_faults {e : ClosureError} :
    table.Yields ex pending (.error e) →
      ∃ name, table.Reaches ex roots name ∧ ex.excludes name = false ∧ table.Faults name e
  | ⟨_, hrun, .fault hfresh hfault⟩ => by
      have hinv := inv_of_steps hrun (Frontier.inv_start hpending)
      exact ⟨_, hinv.pending_reached _ (Multiset.mem_cons_self _ _), hfresh.2, hfault⟩

end Yields

/-- **The order of a search does not matter.** If one search of some roots finds a closure, every
search of the same roots finds this closure. -/
theorem Yields.eq_ok_of_eq_ok {pending pending' : Multiset String}
    (hpending : ∀ m, m ∈ pending ↔ m ∈ roots) (hpending' : ∀ m, m ∈ pending' ↔ m ∈ roots)
    {out : Except ClosureError (List ModuleRecord)} {rs : List ModuleRecord}
    (hyields : table.Yields ex pending (.ok rs)) (hyields' : table.Yields ex pending' out) :
    out = .ok rs := by
  obtain ⟨hleast, hfaults⟩ := hyields.isLeastClosure hpending
  cases out with
  | ok rs' => rw [hleast.eq (hyields'.isLeastClosure hpending').1]
  | error e =>
    obtain ⟨name, hreach, hex, hfault⟩ := hyields'.exists_faults hpending'
    exact absurd hfault (hfaults name e hreach hex)

/-! ### The search of the program -/

/-- What the search of the program comes to. -/
def searchOutcome : Search × Option ClosureError → Except ClosureError (List ModuleRecord)
  | (s, none) => .ok (sortRecords s.found)
  | (_, some e) => .error e

theorem Search.has_eq_true_iff {s : Search} {name : String} :
    s.has name = true ↔ name ∈ s.found.map (·.name) := by
  rw [has, List.any_eq_true, List.mem_map]
  exact exists_congr fun r => and_congr_right fun _ => beq_iff_eq

/-- A name that the search of the program does not pass over is fresh. -/
theorem isFresh_of_not_pass {s : Search} {name : String}
    (h : ¬ (s.has name || ex.excludes name) = true) : IsFresh ex s.found name := by
  rw [Bool.or_eq_true, not_or, Search.has_eq_true_iff, Bool.not_eq_true] at h
  exact h

/-- **The search of the program takes steps.** It takes the names from the top of its stack, as long
as every importable module is found already or kept among those to be loaded. -/
theorem search_steps (unloaded stack : List String) (s : Search)
    (hun : ∀ name spec, table.spec? name = some spec →
      name ∈ unloaded ∨ name ∈ s.found.map (·.name)) :
    ∃ t, Relation.ReflTransGen (table.Step ex) ⟨stack, s.found⟩ t ∧
      table.Ends ex t (searchOutcome (table.search ex unloaded stack s)) := by
  fun_induction search table ex unloaded stack s with
  | case1 unloaded s => exact ⟨_, .refl, .done⟩
  | case2 unloaded s name rest hpass ih =>
    rw [← Multiset.cons_coe]
    obtain ⟨t, hrun, hend⟩ := ih hun
    refine ⟨t, .head (.pass ?_) hrun, hend⟩
    rw [Bool.or_eq_true, Search.has_eq_true_iff] at hpass
    exact hpass.imp_right .inl
  | case3 unloaded s name rest hpass hmem hspec ih =>
    rw [← Multiset.cons_coe]
    obtain ⟨t, hrun, hend⟩ := ih hun
    exact ⟨t, .head (.pass (.inr (.inr hspec))) hrun, hend⟩
  | case4 unloaded s name rest hpass hmem spec hspec e hload =>
    rw [← Multiset.cons_coe]
    exact ⟨_, .refl, .fault (isFresh_of_not_pass hpass) (.noRecord hspec hload)⟩
  | case5 unloaded s name rest hpass hmem spec hspec r hload e hneeds =>
    rw [← Multiset.cons_coe]
    exact ⟨_, .refl, .fault (isFresh_of_not_pass hpass) (.noImports ⟨spec, hspec, hload⟩ hneeds)⟩
  | case6 unloaded s name rest hpass hmem spec hspec r hload names hneeds ih =>
    rw [← Multiset.cons_coe]
    have hfresh := isFresh_of_not_pass hpass
    have hname := load_name hload
    obtain ⟨t, hrun, hend⟩ := ih fun name' spec' hspec' => by
      rw [List.map_cons, hname, List.mem_cons]
      by_cases heq : name' = name
      · exact .inr (.inl heq)
      · rw [List.mem_erase_of_ne heq]
        exact (hun name' spec' hspec').imp_right .inr
    refine ⟨t, .head ?_ hrun, hend⟩
    rw [← Multiset.coe_add, Multiset.coe_reverse]
    exact .take hfresh ⟨spec, hspec, hload⟩ hneeds
  | case7 unloaded s name rest hpass hmem ih =>
    rw [← Multiset.cons_coe]
    have hspec : table.spec? name = none := by
      by_contra hspec
      obtain ⟨spec, hspec⟩ := Option.ne_none_iff_exists'.mp hspec
      exact (hun name spec hspec).elim hmem (isFresh_of_not_pass hpass).1
    obtain ⟨t, hrun, hend⟩ := ih hun
    exact ⟨t, .head (.pass (.inr (.inr hspec))) hrun, hend⟩

/-- The search for what some roots need yields the closure of these roots. -/
theorem yields_search (table : ModuleTable) (ex : Exclusion) (stack : List String) :
    table.Yields ex stack (searchOutcome (table.search ex table.importable stack ⟨[], []⟩)) :=
  search_steps table.importable stack ⟨[], []⟩ fun _ _ hspec =>
    .inl (mem_importable_of_spec?_eq_some hspec)

end ModuleTable

end HandlerBundle
