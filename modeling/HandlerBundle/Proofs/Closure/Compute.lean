import HandlerBundle.Proofs.Closure.Sweep
import HandlerBundle.Proofs.Object.Traversal

/-!
# The closure of a value is the least closed set

The closure of a value holds exactly the modules that are reached from those the value refers to.
There is none if the value cannot be walked, if it refers to the module that runs, or if a module
that is reached and not excluded lacks a source or has one that the parser rejects.

## Main definitions

* `IsRefused` — the values without a closure.
* `RejectsOnlyMalformed` — nothing but the form of a source keeps it from being read.

## Main results

* `closure_eq_least_closed_set` — which values have a closure, and what it holds.
-/

namespace HandlerBundle

/-- A value that has no closure: it cannot be walked, it refers to the module that runs, or what it
needs holds a module that lacks a source or has one that the parser rejects. -/
inductive IsRefused (h : Heap) (table : ModuleTable) (ex : Exclusion) (value : ObjectId) : Prop
  | walk {cause} (hroots : h.referencedModules ex value = .error cause)
  | running {roots} (hroots : h.referencedModules ex value = .ok roots)
      (hrunning : runningModule ∈ roots)
  | source {roots name} (hroots : h.referencedModules ex value = .ok roots)
      (hreach : table.Reaches ex roots name) (hex : ex.excludes name = false)
      (hsource : table.LacksSource name ∨ table.RejectsSource name .malformed)

/-- Of what a value needs, no source is rejected for anything else than being malformed: none has
null bytes, and the program that reads them stops at none. -/
def RejectsOnlyMalformed (h : Heap) (table : ModuleTable) (ex : Exclusion) (value : ObjectId) :
    Prop :=
  ∀ roots name e, h.referencedModules ex value = .ok roots → table.Reaches ex roots name →
    ex.excludes name = false → table.RejectsSource name e → e = .malformed

variable {h : Heap} {table : ModuleTable} {ex : Exclusion} {value : ObjectId} {roots : List String}

/-- The roots in any order have the same members as in the order of the program. -/
theorem mem_reverse_sortNames {name : String} :
    name ∈ (sortNames roots).reverse ↔ name ∈ roots := by
  rw [List.mem_reverse, sortNames, List.mem_mergeSort]

/-- Unless the module that runs is a root, a closure is what a search of the roots yields. -/
theorem yields_closeOver (hrunning : runningModule ∉ roots) :
    table.Yields ex (sortNames roots).reverse (table.closeOver ex roots).records := by
  have hyields := ModuleTable.yields_search table ex (sortNames roots).reverse
  rw [ModuleTable.closeOver, if_neg (by rwa [List.contains_iff_mem])]
  generalize table.search ex table.importable (sortNames roots).reverse ⟨[], []⟩ = p at hyields
  obtain ⟨s, _ | e⟩ := p
  · exact hyields
  · exact hyields

/-- What a closure comes to: the walk fails, the module that runs is noted, or a search of the noted
modules yields it. -/
theorem closure_cases (h : Heap) (table : ModuleTable) (ex : Exclusion) (value : ObjectId) :
    (∃ cause, h.referencedModules ex value = .error cause ∧
      (closure h table ex value).records = .error (.walk cause)) ∨
    ∃ roots, h.referencedModules ex value = .ok roots ∧
      (runningModule ∈ roots ∧ (closure h table ex value).records = .error .runningModule ∨
        runningModule ∉ roots ∧
          table.Yields ex (sortNames roots).reverse (closure h table ex value).records) := by
  unfold closure
  cases hroots : h.referencedModules ex value with
  | error cause => exact .inl ⟨cause, rfl, rfl⟩
  | ok roots =>
    refine .inr ⟨roots, rfl, ?_⟩
    by_cases hrunning : runningModule ∈ roots
    · refine .inl ⟨hrunning, ?_⟩
      simp only [ModuleTable.closeOver, List.contains_iff_mem.mpr hrunning, if_true]
    · exact .inr ⟨hrunning, yields_closeOver hrunning⟩

/-- A closure that is found is yielded by a search of the noted modules. -/
theorem exists_yields_of_closure_eq_ok {rs : List ModuleRecord}
    (hrecords : (closure h table ex value).records = .ok rs) :
    ∃ roots, h.referencedModules ex value = .ok roots ∧ runningModule ∉ roots ∧
      table.Yields ex (sortNames roots).reverse (.ok rs) := by
  rcases closure_cases h table ex value with ⟨cause, -, herror⟩ | ⟨roots, hroots, hcases⟩
  · cases herror.symm.trans hrecords
  rcases hcases with ⟨-, herror⟩ | ⟨hrunning, hyields⟩
  · cases herror.symm.trans hrecords
  · exact ⟨roots, hroots, hrunning, hrecords ▸ hyields⟩

/-- If a closure is found, no module that is needed faults. -/
theorem not_faults_of_closure_eq_ok {rs : List ModuleRecord}
    (hrecords : (closure h table ex value).records = .ok rs)
    (hroots : h.referencedModules ex value = .ok roots) {name : String}
    (hreach : table.Reaches ex roots name) (hex : ex.excludes name = false) (e : ClosureError) :
    ¬ table.Faults name e := by
  obtain ⟨roots', hroots', -, hyields⟩ := exists_yields_of_closure_eq_ok hrecords
  obtain rfl := Except.ok.inj (hroots.symm.trans hroots')
  exact (hyields.isLeastClosure fun _ => mem_reverse_sortNames).2 name e hreach hex

/-- A closure that is found is the least one, and nothing stands against it. -/
theorem isLeastClosure_of_closure_eq_ok {rs : List ModuleRecord}
    (hrecords : (closure h table ex value).records = .ok rs) :
    (∃ roots, h.referencedModules ex value = .ok roots ∧ table.IsLeastClosure ex roots rs) ∧
      ¬ IsRefused h table ex value := by
  obtain ⟨roots, hroots, hrunning, hyields⟩ := exists_yields_of_closure_eq_ok hrecords
  refine ⟨⟨roots, hroots, (hyields.isLeastClosure fun _ => mem_reverse_sortNames).1⟩, ?_⟩
  rintro (⟨hroots'⟩ | ⟨hroots', hrunning'⟩ | ⟨hroots', hreach, hex, hsource⟩)
  · cases hroots.symm.trans hroots'
  · obtain rfl := Except.ok.inj (hroots.symm.trans hroots')
    exact hrunning hrunning'
  · obtain ⟨e, hfault⟩ := hsource.elim (·.exists_faults) (·.exists_faults)
    exact not_faults_of_closure_eq_ok hrecords hroots' hreach hex e hfault

/-- A walk that fails is a failed capture, whatever it fails with. -/
theorem kind_failure_walk (cause : Failure) :
    (ClosureError.walk cause).failure.kind = .capture := by
  simp only [ClosureError.failure]
  split_ifs with hcapture
  · exact eq_of_beq hcapture
  · rfl

/-- A fault of a module that is needed is a failed capture. -/
theorem kind_failure_of_faults (honly : RejectsOnlyMalformed h table ex value)
    (hroots : h.referencedModules ex value = .ok roots) {name : String}
    (hreach : table.Reaches ex roots name) (hex : ex.excludes name = false) {e : ClosureError}
    (hfault : table.Faults name e) :
    (table.LacksSource name ∨ table.RejectsSource name .malformed) ∧ e.failure.kind = .capture :=
  hfault.lacksSource_or_rejectsSource.resolve_right fun ⟨error, hother, hrejects⟩ =>
    hother (honly roots name error hroots hreach hex hrejects)

/-- A closure that is not found is refused, as a failed capture. -/
theorem isRefused_of_closure_eq_error (honly : RejectsOnlyMalformed h table ex value)
    {e : ClosureError} (hrecords : (closure h table ex value).records = .error e) :
    IsRefused h table ex value ∧ e.failure.kind = .capture := by
  rcases closure_cases h table ex value with ⟨cause, hroots, herror⟩ | ⟨roots, hroots, hcases⟩
  · obtain rfl := Except.error.inj (hrecords.symm.trans herror)
    exact ⟨.walk hroots, kind_failure_walk cause⟩
  rcases hcases with ⟨hrunning, herror⟩ | ⟨-, hyields⟩
  · obtain rfl := Except.error.inj (hrecords.symm.trans herror)
    exact ⟨.running hroots hrunning, rfl⟩
  rw [hrecords] at hyields
  obtain ⟨name, hreach, hex, hfault⟩ := hyields.exists_faults fun _ => mem_reverse_sortNames
  obtain ⟨hsource, hcapture⟩ := kind_failure_of_faults honly hroots hreach hex hfault
  exact ⟨.source hroots hreach hex hsource, hcapture⟩

/-- **The closure is the least closed set, and the search for it ends.** No search goes on forever.
If sources are only rejected for being malformed, the capture fails exactly for the values that are
refused; for every other value the closure holds, in strictly increasing order of names, exactly the
loadable modules that are reached and not excluded, among them the parents and the imports of its
modules. Whatever order a search takes the names in, it finds the same closure or fails as well. -/
theorem closure_eq_least_closed_set (h : Heap) (table : ModuleTable) (ex : Exclusion)
    (value : ObjectId) (honly : RejectsOnlyMalformed h table ex value) :
    (WellFounded fun t s => table.Step ex s t) ∧
    ((∃ e, (closure h table ex value).records = .error e ∧ e.failure.kind = .capture) ↔
      IsRefused h table ex value) ∧
    (¬ IsRefused h table ex value → ∃ roots rs, h.referencedModules ex value = .ok roots ∧
      (closure h table ex value).records = .ok rs ∧ table.IsLeastClosure ex roots rs ∧
      table.IsClosed ex rs) ∧
    ∀ roots pending out, h.referencedModules ex value = .ok roots → runningModule ∉ roots →
      (∀ m, m ∈ pending ↔ m ∈ roots) → table.Yields ex pending out →
      (∀ rs, out = .ok rs ↔ (closure h table ex value).records = .ok rs) ∧
        ∀ e, out = .error e → e.failure.kind = .capture := by
  refine ⟨ModuleTable.wellFounded_step table ex, ⟨?_, fun hrefused => ?_⟩, fun hrefused => ?_, ?_⟩
  · rintro ⟨e, hrecords, -⟩
    exact (isRefused_of_closure_eq_error honly hrecords).1
  · cases hrecords : (closure h table ex value).records with
    | ok rs => exact absurd hrefused (isLeastClosure_of_closure_eq_ok hrecords).2
    | error e => exact ⟨e, rfl, (isRefused_of_closure_eq_error honly hrecords).2⟩
  · cases hrecords : (closure h table ex value).records with
    | ok rs =>
      obtain ⟨⟨roots, hroots, hleast⟩, -⟩ := isLeastClosure_of_closure_eq_ok hrecords
      exact ⟨roots, rs, hroots, rfl, hleast, hleast.isClosed⟩
    | error e => exact absurd (isRefused_of_closure_eq_error honly hrecords).1 hrefused
  · intro roots pending out hroots hrunning hpending hyields
    have hprogram : table.Yields ex (sortNames roots).reverse
        (closure h table ex value).records := by
      simp only [closure, hroots]
      exact yields_closeOver hrunning
    refine ⟨fun rs => ⟨?_, ?_⟩, ?_⟩
    · rintro rfl
      exact hyields.eq_ok_of_eq_ok hpending (fun _ => mem_reverse_sortNames) hprogram
    · intro hrecords
      rw [hrecords] at hprogram
      exact hprogram.eq_ok_of_eq_ok (fun _ => mem_reverse_sortNames) hpending hyields
    · rintro e rfl
      obtain ⟨name, hreach, hex, hfault⟩ := hyields.exists_faults hpending
      exact (kind_failure_of_faults honly hroots hreach hex hfault).2

/-- Two modules that import each other, and the package around them. -/
def cyclicModules : ModuleTable where
  modules := [
    ⟨"shop", some ⟨true, some "/shop/__init__.py", some []⟩, []⟩,
    ⟨"shop.cart", some ⟨false, some "/shop/cart.py", some (Utf8.encode "import shop.price")⟩, []⟩,
    ⟨"shop.price", some ⟨false, some "/shop/price.py", some (Utf8.encode "from . import cart")⟩,
      []⟩]

/-- One of the two modules as a value. -/
def cartHeap : Heap := ⟨#[.module "shop.cart"]⟩

theorem referencedModules_cartHeap :
    cartHeap.referencedModules .standard 0 = .ok ["shop.cart"] := by
  simp [Heap.referencedModules, Heap.walk, Heap.size, Heap.object?, Heap.homes, Heap.successors,
    Heap.contents, Heap.fault?, List.eraseDups_cons, cartHeap]

/-- Modules that import each other have a closure, which is the least one. -/
theorem closure_eq_least_closed_set_cyclic :
    RejectsOnlyMalformed cartHeap cyclicModules .standard 0 ∧
    ∃ rs, (closure cartHeap cyclicModules .standard 0).records = .ok rs ∧
      cyclicModules.IsLeastClosure .standard ["shop.cart"] rs := by
  have hread : cyclicModules.isReadable = true := by decide +kernel
  have hroots := referencedModules_cartHeap
  have honly : RejectsOnlyMalformed cartHeap cyclicModules .standard 0 :=
    fun _ _ _ _ _ _ hrejects =>
      hrejects.exists_faults.elim fun _ hfault =>
        absurd hfault (ModuleTable.not_faults_of_isReadable hread)
  have hrefused : ¬ IsRefused cartHeap cyclicModules .standard 0 := by
    rintro (⟨hroots'⟩ | ⟨hroots', hrunning⟩ | ⟨-, -, -, hsource⟩)
    · cases hroots.symm.trans hroots'
    · obtain rfl := Except.ok.inj (hroots.symm.trans hroots')
      exact absurd hrunning (by decide)
    · obtain ⟨e, hfault⟩ := hsource.elim (·.exists_faults) (·.exists_faults)
      exact ModuleTable.not_faults_of_isReadable hread hfault
  obtain ⟨-, -, hfound, -⟩ := closure_eq_least_closed_set cartHeap cyclicModules .standard 0 honly
  obtain ⟨roots, rs, hroots', hrecords, hleast, -⟩ := hfound hrefused
  obtain rfl := Except.ok.inj (hroots.symm.trans hroots')
  exact ⟨honly, rs, hrecords, hleast⟩

/-- A capture can also fail because the value cannot be walked: neither the module that runs nor a
module without a proper source is at fault then. -/
theorem closure_unwalkable_value :
    ¬ ((∃ e, (closure unwalkableHeap .empty .standard 0).records = .error e ∧
        e.failure.kind = .capture) ↔
      ∃ roots, unwalkableHeap.referencedModules .standard 0 = .ok roots ∧
        (runningModule ∈ roots ∨
          ∃ name, ModuleTable.empty.Reaches .standard roots name ∧
            Exclusion.standard.excludes name = false ∧
            (ModuleTable.empty.LacksSource name ∨
              ModuleTable.empty.RejectsSource name .malformed))) := by
  have hroots := Heap.referencedModules_unwalkableHeap
  intro hiff
  obtain ⟨roots, hroots', -⟩ := hiff.mp
    ⟨.walk ⟨.foreign "ValueError", "boom"⟩, by simp only [closure, hroots], rfl⟩
  cases hroots.symm.trans hroots'

end HandlerBundle
