import HandlerBundle.Package.Settings
import HandlerBundle.Proofs.Host.Restore
import HandlerBundle.Proofs.Object.Walk

/-!
# Longer allow-lists

A longer allow-list excludes more modules. A walk then enters fewer objects and a search goes on
from fewer modules, so both find less, and whatever stands against a closure under the longer list
stands against it under the shorter one as well.

## Main results

* `Exclusion.excludes_mono` — a longer allow-list excludes more.
* `Heap.Meets.mono`, `ModuleTable.Reaches.mono` — less is met and reached under a longer one.
* `closure_records_mono` — the closure under a longer allow-list.
* `longer_allowList_ships_less` — a capture under a longer allow-list, and under more names in the
  settings.
-/

namespace HandlerBundle

variable {ex ex' : Exclusion}

namespace Exclusion

/-- A longer allow-list excludes more. -/
theorem excludes_mono (hsub : ex.entries ⊆ ex'.entries) {name : String}
    (h : ex.excludes name = true) : ex'.excludes name = true := by
  rw [excludes_iff] at h ⊢
  exact h.imp_right (Or.imp_right fun ⟨entry, hmem, hname⟩ => ⟨entry, hsub hmem, hname⟩)

/-- What a longer allow-list leaves in, the shorter one leaves in. -/
theorem excludes_eq_false_of_longer (hsub : ex.entries ⊆ ex'.entries) {name : String}
    (h : ex'.excludes name = false) : ex.excludes name = false := by
  rw [← Bool.not_eq_true] at h ⊢
  exact fun hex => h (excludes_mono hsub hex)

end Exclusion

/-! ### Walks -/

theorem append_subset_append {α : Type} {as as' bs bs' : List α} (has : as ⊆ as')
    (hbs : bs ⊆ bs') : as ++ bs ⊆ as' ++ bs' :=
  List.append_subset.mpr ⟨List.subset_append_of_subset_left _ has,
    List.subset_append_of_subset_right _ hbs⟩

namespace Heap

/-- The modules noted for a class: its own, and if the class is entered, those of the machinery and
those noted for the classes that it derives from. -/
theorem mem_classHomes_iff {c : Class} {m : String} :
    m ∈ classHomes ex c ↔ c.module.isEmpty = false ∧
      (m = c.module ∨ ex.excludes c.module = false ∧
        (m ∈ machineryModules c ∨ m ∈ inheritedHomes ex c)) := by
  unfold classHomes
  cases c.module.isEmpty <;> cases ex.excludes c.module <;> simp

theorem inheritedHomes_subset (hsub : ex.entries ⊆ ex'.entries) (c : Class) :
    inheritedHomes ex' c ⊆ inheritedHomes ex c := by
  cases c with
  | known k => exact List.Subset.refl _
  | declared d =>
    refine append_subset_append (List.Subset.refl _) fun m hm => ?_
    obtain ⟨k, hk, hm⟩ := List.mem_flatMap.mp hm
    refine List.mem_flatMap.mpr ⟨k, hk, List.cons_subset_cons _ ?_ hm⟩
    by_cases hex : ex'.excludes k.module = true
    · rw [if_pos hex]
      exact List.nil_subset _
    · rw [Bool.not_eq_true] at hex
      rw [hex, Exclusion.excludes_eq_false_of_longer hsub hex]
      exact List.Subset.refl _

theorem classHomes_subset (hsub : ex.entries ⊆ ex'.entries) (c : Class) :
    classHomes ex' c ⊆ classHomes ex c := by
  intro m hm
  rw [mem_classHomes_iff] at hm ⊢
  exact hm.imp_right (Or.imp_right (And.imp (Exclusion.excludes_eq_false_of_longer hsub)
    (Or.imp_right fun h => inheritedHomes_subset hsub c h)))

mutual

theorem annotationHomes_subset (hsub : ex.entries ⊆ ex'.entries) (t : Annotation) :
    annotationHomes ex' t ⊆ annotationHomes ex t := by
  match t with
  | .cls c => exact classHomes_subset hsub c
  | .bare c => exact List.cons_subset_cons _ (classHomes_subset hsub c)
  | .generic .aliased c ts =>
    exact List.cons_subset_cons _
      (append_subset_append (classHomes_subset hsub c) (annotationHomesList_subset hsub ts))
  | .union .aliased ts => exact List.cons_subset_cons _ (annotationHomesList_subset hsub ts)
  | .annotated t _ => exact List.cons_subset_cons _ (annotationHomes_subset hsub t)
  | .params ts => exact annotationHomesList_subset hsub ts
  | .generic .direct _ _ | .union .direct _ | .absent | .value _ | .form _ | .literal _
  | .forward _ => exact List.Subset.refl _

theorem annotationHomesList_subset (hsub : ex.entries ⊆ ex'.entries) (ts : List Annotation) :
    annotationHomesList ex' ts ⊆ annotationHomesList ex ts := by
  match ts with
  | [] => exact List.Subset.refl _
  | t :: ts =>
    exact append_subset_append (annotationHomes_subset hsub t)
      (annotationHomesList_subset hsub ts)

end

section Longer

variable {h : Heap} {value id : ObjectId} (hsub : ex.entries ⊆ ex'.entries)
include hsub

/-- The walk enters less. -/
theorem enters_of_longer {module : Option String} (henters : enters ex' module = true) :
    enters ex module = true := by
  unfold enters at henters ⊢
  cases hhome : home? module with
  | none =>
    rw [hhome] at henters
    cases henters
  | some m =>
    rw [hhome] at henters
    rw [Bool.not_eq_true'] at henters ⊢
    exact Exclusion.excludes_eq_false_of_longer hsub henters

/-- An object is noted under no other modules. -/
theorem homes_subset (o : Object) : homes ex' o ⊆ homes ex o := by
  cases o with
  | cls c =>
    simp only [homes]
    refine append_subset_append (List.Subset.refl _) ?_
    by_cases henters : enters ex' c.module = true
    · rw [if_pos henters, if_pos (enters_of_longer hsub henters)]
      exact List.Subset.refl _
    · rw [if_neg henters]
      exact List.nil_subset _
  | annotationClass c => exact classHomes_subset hsub c
  | form t => exact annotationHomes_subset hsub t
  | _ => exact List.Subset.refl _

/-- The walk goes on to no other objects. -/
theorem successors_subset (o : Object) : h.successors ex' id o ⊆ h.successors ex id o := by
  have hentered : ∀ (module : Option String) (ids : List ObjectId),
      (if enters ex' module then ids else []) ⊆ (if enters ex module then ids else []) := by
    intro module ids
    by_cases henters : enters ex' module = true
    · rw [if_pos henters, if_pos (enters_of_longer hsub henters)]
      exact List.Subset.refl _
    · rw [if_neg henters]
      exact List.nil_subset _
  cases o with
  | function f => exact hentered f.module _
  | cls c => exact hentered c.module _
  | _ => exact List.Subset.refl _

/-- What is met under a longer allow-list is met under the shorter one. -/
theorem Meets.mono (hid : h.Meets ex' value id) : h.Meets ex value id := by
  induction hid with
  | value => exact .value
  | successor _ ho hnext ih => exact .successor ih ho (successors_subset hsub _ hnext)

/-- A walk that does not fail does not fail under a longer allow-list either, and notes no other
modules there. -/
theorem referencedModules_mono {roots : List String}
    (hroots : h.referencedModules ex value = .ok roots) :
    ∃ roots', h.referencedModules ex' value = .ok roots' ∧ roots' ⊆ roots := by
  have hspec := referencedModules_spec h ex value
  have hspec' := referencedModules_spec h ex' value
  rw [hroots] at hspec
  cases hroots' : h.referencedModules ex' value with
  | error f =>
    rw [hroots'] at hspec'
    obtain ⟨id, hid, hfails⟩ := hspec'
    exact absurd hfails (hspec.1 id f (hid.mono hsub))
  | ok roots' =>
    rw [hroots'] at hspec'
    refine ⟨roots', rfl, fun m hm => ?_⟩
    obtain ⟨id, o, hid, ho, hhome⟩ := (hspec'.2 m).mp hm
    exact (hspec.2 m).mpr ⟨id, o, hid.mono hsub, ho, homes_subset hsub o hhome⟩

end Longer

end Heap

/-! ### Closures -/

/-- What is reached under a longer allow-list, from no other roots, is reached under the shorter
one. -/
theorem ModuleTable.Reaches.mono {table : ModuleTable} {roots roots' : List String} {m : String}
    (hsub : ex.entries ⊆ ex'.entries) (hroots : roots' ⊆ roots)
    (h : table.Reaches ex' roots' m) : table.Reaches ex roots m := by
  induction h with
  | root hmem => exact .root (hroots hmem)
  | parent _ hex hload hparent ih =>
    exact .parent ih (Exclusion.excludes_eq_false_of_longer hsub hex) hload hparent
  | imported _ hex hload himports hmem ih =>
    exact .imported ih (Exclusion.excludes_eq_false_of_longer hsub hex) hload himports hmem

variable {h : Heap} {table : ModuleTable} {value : ObjectId}

/-- **The closure under a longer allow-list.** A value that has a closure has one under a longer
allow-list too. It holds no other modules, and none that the longer list excludes. -/
theorem closure_records_mono (hsub : ex.entries ⊆ ex'.entries) {rs : List ModuleRecord}
    (hrecords : (closure h table ex value).records = .ok rs) :
    ∃ rs', (closure h table ex' value).records = .ok rs' ∧ rs' ⊆ rs ∧
      ∀ r ∈ rs', ex'.excludes r.name = false := by
  obtain ⟨roots, hroots, hrunning, hyields⟩ := exists_yields_of_closure_eq_ok hrecords
  obtain ⟨roots', hroots', hsubset⟩ := Heap.referencedModules_mono hsub hroots
  have hleast := (hyields.isLeastClosure fun _ => mem_reverse_sortNames).1
  have hreach : ∀ {m}, table.Reaches ex' roots' m → table.Reaches ex roots m :=
    ModuleTable.Reaches.mono hsub hsubset
  have hex : ∀ {name}, ex'.excludes name = false → ex.excludes name = false :=
    Exclusion.excludes_eq_false_of_longer hsub
  rcases closure_cases h table ex' value with ⟨cause, hwalk, -⟩ | ⟨_, hroots'', hcases⟩
  · cases hwalk.symm.trans hroots'
  obtain rfl := Except.ok.inj (hroots'.symm.trans hroots'')
  rcases hcases with ⟨hrunning', -⟩ | ⟨-, hyields'⟩
  · exact absurd (hsubset hrunning') hrunning
  cases hrecords' : (closure h table ex' value).records with
  | error e =>
    rw [hrecords'] at hyields'
    obtain ⟨name, hreach', hex', hfault⟩ := hyields'.exists_faults fun _ => mem_reverse_sortNames
    exact absurd hfault
      (not_faults_of_closure_eq_ok hrecords hroots (hreach hreach') (hex hex') e)
  | ok rs' =>
    rw [hrecords'] at hyields'
    have hleast' := (hyields'.isLeastClosure fun _ => mem_reverse_sortNames).1
    refine ⟨rs', rfl, fun r hr => ?_, fun r hr => ((hleast'.mem_iff r).mp hr).2.1⟩
    obtain ⟨hreach', hex', hload⟩ := (hleast'.mem_iff r).mp hr
    exact (hleast.mem_iff r).mpr ⟨hreach hreach', hex hex', hload⟩

/-! ### Captures -/

/-- A value that is captured is captured under a longer allow-list too, with the same snapshot and
no other modules: fewer records still have an archive. -/
theorem captureResult_mono (hsub : ex.entries ⊆ ex'.entries) {captured : CapturedValue}
    (hresult : captureResult h table ex value = .ok captured) :
    ∃ captured', captureResult h table ex' value = .ok captured' ∧
      captured'.snapshot = captured.snapshot ∧ captured'.modules ⊆ captured.modules ∧
      ∀ m ∈ captured'.modules, ex'.excludes m = false := by
  obtain ⟨rs, hrecords, hsnapshot, harchive, hmodules⟩ := captureResult_eq_ok_iff.mp hresult
  obtain ⟨rs', hrecords', hsubset, hex'⟩ := closure_records_mono hsub hrecords
  have hnodup' : rs'.Nodup :=
    (pairwise_name_of_closure_eq_ok hrecords').imp fun hlt heq => hlt.ne (congrArg _ heq)
  obtain ⟨hlength, hfits⟩ := Archive.exists_encodeSorted_eq_ok_iff.mp ⟨_, harchive⟩
  obtain ⟨archive', harchive'⟩ := Archive.exists_encodeSorted_eq_ok_iff.mpr
    ⟨(hnodup'.subperm hsubset).length_le.trans_lt hlength, fun r hr => hfits r (hsubset hr)⟩
  refine ⟨⟨captured.snapshot, archive', rs'.map (·.name)⟩,
    captureResult_eq_ok_iff.mpr ⟨rs', hrecords', hsnapshot, harchive', rfl⟩, rfl, ?_, ?_⟩
  · rw [hmodules]
    exact List.map_subset _ hsubset
  · exact List.forall_mem_map.mpr hex'

/-! ### Settings -/

namespace Settings

/-- The variable of the allow-list. -/
def allowListVariable : String := "FUNCPACK_EXCLUDE_MODULES"

/-- Variables with more names put behind those of the allow-list. -/
def addNames (vars : Variables) (more : String) : Variables :=
  (allowListVariable, (vars.lookup allowListVariable).getD "" ++ "," ++ more) :: vars

/-- The names in a text with commas between them. -/
def namesIn (s : String) : List String :=
  ((splitAtMark ',' s).map trim).filter fun name => !name.isEmpty

/-- Names that are put behind those of the allow-list are added to it, and nothing else changes. -/
theorem read_addNames {vars : Variables} {settings : Settings} (hread : read vars = .ok settings)
    (more : String) :
    read (addNames vars more) =
      .ok { settings with exclusion := ⟨settings.exclusion.entries ++ namesIn more⟩ } := by
  have hsplit : ∀ given : String, splitAtMark ',' (given ++ "," ++ more) =
      splitAtMark ',' given ++ splitAtMark ',' more := fun given =>
    splitAtMark_of_toList_eq (by simp [String.toList_append])
  have hnames : readNames (addNames vars more) allowListVariable =
      readNames vars allowListVariable ++ namesIn more := by
    simp only [readNames, addNames, List.lookup_cons_self, Option.getD_some, hsplit, namesIn,
      List.map_append, List.filter_append]
  have hother : ∀ name, name ≠ allowListVariable →
      (addNames vars more).lookup name = vars.lookup name := fun name hne => by
    rw [addNames, List.lookup_cons, beq_eq_false_iff_ne.mpr hne]
  have hcompiler : readCompiler (addNames vars more) = readCompiler vars := by
    simp only [readCompiler, hother "FUNCPACK_COMPILER" (by decide)]
  have hgiven : ∀ name, name ≠ allowListVariable →
      given? (addNames vars more) name = given? vars name := fun name hne => by
    simp only [given?, hother name hne]
  obtain ⟨compiler, hchoice, hsettings⟩ := bind_eq_ok_iff.mp hread
  refine bind_eq_ok_iff.mpr ⟨compiler, hcompiler.trans hchoice, ?_⟩
  obtain rfl := Except.ok.inj hsettings
  refine congrArg Except.ok ?_
  simp only [readSwitch, hgiven "FUNCPACK_MAX_WORKERS" (by decide),
    hgiven "FUNCPACK_ISOLATE_FAILURES" (by decide),
    hgiven "FUNCPACK_COMPILE_TIMEOUT_S" (by decide), List.append_assoc]
  rw [show "FUNCPACK_EXCLUDE_MODULES" = allowListVariable from rfl, hnames]

end Settings

/-! ### Longer lists -/

/-- **A longer allow-list ships less.** A value that has a closure has one under a longer
allow-list, with no other modules and none that the longer list excludes. So a value that is
captured under some settings is captured, with no other modules, when names are added to the
variable of the allow-list. -/
theorem longer_allowList_ships_less (h : Heap) (table : ModuleTable) (value : ObjectId) :
    (∀ (ex ex' : Exclusion) (rs : List ModuleRecord), ex.entries ⊆ ex'.entries →
      (closure h table ex value).records = .ok rs →
      ∃ rs', (closure h table ex' value).records = .ok rs' ∧ rs' ⊆ rs ∧
        ∀ r ∈ rs', ex'.excludes r.name = false) ∧
    ∀ (vars : Variables) (settings : Settings) (more : String) (w v : Workspace)
      (captured : CapturedValue), Settings.read vars = .ok settings →
      (capture h table settings.exclusion value).run.run w = (.ok captured, v) →
      ∃ settings' captured' v', Settings.read (Settings.addNames vars more) = .ok settings' ∧
        (capture h table settings'.exclusion value).run.run w = (.ok captured', v') ∧
        captured'.modules ⊆ captured.modules ∧
        ∀ m ∈ captured'.modules, settings'.exclusion.excludes m = false := by
  refine ⟨fun ex ex' rs hsub hrecords => closure_records_mono hsub hrecords, ?_⟩
  intro vars settings more w v captured hread hcapture
  have hsub : settings.exclusion.entries ⊆
      settings.exclusion.entries ++ Settings.namesIn more := List.subset_append_left _ _
  have hresult : captureResult h table settings.exclusion value = .ok captured := by
    rw [← capture_result w, hcapture]
  obtain ⟨captured', hresult', -, hmodules, hex⟩ :=
    captureResult_mono hsub hresult
  obtain ⟨events, hrun⟩ := capture_run h table
    ⟨settings.exclusion.entries ++ Settings.namesIn more⟩ value w
  rw [hresult'] at hrun
  exact ⟨_, captured', _, Settings.read_addNames hread more, hrun, hmodules, hex⟩

/-- The usual allow-list with one of the two modules of the shop on it. -/
def pricedExclusion : Exclusion := ⟨Exclusion.standard.entries ++ ["price"]⟩

theorem read_addNames_price : Settings.read (Settings.addNames [] "price") =
    .ok { Settings.standard with exclusion := pricedExclusion } := by
  have hread : Settings.read [] = .ok .standard := rfl
  have hnames : Settings.namesIn "price" = ["price"] := by decide +kernel
  rw [Settings.read_addNames hread, hnames]
  rfl

/-- With one of its two modules on the allow-list, a list of two functions ships the other one at
most. -/
theorem longer_allowList_ships_less_shopHeap :
    (Exclusion.standard.entries ⊆ pricedExclusion.entries ∧
      (closure shopHeap shopModules .standard 3).records =
        .ok [⟨"cart", false, cartSource⟩, ⟨"price", false, []⟩] ∧
      ∃ rs', (closure shopHeap shopModules pricedExclusion 3).records = .ok rs' ∧
        rs' ⊆ [⟨"cart", false, cartSource⟩]) ∧
    Settings.read [] = .ok .standard ∧
      (∃ captured v, (capture shopHeap shopModules .standard 3).run.run (.empty "") =
        (.ok captured, v)) ∧
      ∃ captured v, (capture shopHeap shopModules pricedExclusion 3).run.run (.empty "") =
        (.ok captured, v) ∧ "price" ∉ captured.modules := by
  have hsub : Exclusion.standard.entries ⊆ pricedExclusion.entries :=
    List.subset_append_left _ _
  have hprice : pricedExclusion.excludes "price" = true := by decide +kernel
  have hread : Settings.read [] = .ok .standard := rfl
  obtain ⟨captured, v, hcapture⟩ := exists_capture_shopHeap closure_shopHeap (by decide +kernel)
  obtain ⟨hclosure, hsettings⟩ := longer_allowList_ships_less shopHeap shopModules 3
  refine ⟨⟨hsub, closure_shopHeap, ?_⟩, hread, ⟨captured, v, hcapture⟩, ?_⟩
  · obtain ⟨rs', hrecords', hsubset, hex⟩ :=
      hclosure .standard pricedExclusion _ hsub closure_shopHeap
    refine ⟨rs', hrecords', fun r hr => ?_⟩
    rcases List.mem_cons.mp (hsubset hr) with rfl | hr'
    · exact List.mem_cons_self
    · obtain rfl := List.mem_singleton.mp hr'
      have hout : pricedExclusion.excludes "price" = false := hex ⟨"price", false, []⟩ hr
      cases hprice.symm.trans hout
  · obtain ⟨settings', captured', v', hread', hcapture', -, hex⟩ :=
      hsettings [] .standard "price" _ v captured hread hcapture
    obtain rfl := Except.ok.inj (read_addNames_price.symm.trans hread')
    refine ⟨captured', v', hcapture', fun hmem => ?_⟩
    have hout : pricedExclusion.excludes "price" = false := hex "price" hmem
    cases hprice.symm.trans hout

end HandlerBundle
