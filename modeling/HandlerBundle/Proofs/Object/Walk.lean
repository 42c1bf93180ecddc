import HandlerBundle.Proofs.Object.Traversal

/-!
# What a walk meets

A walk meets the value it starts from and whatever it goes on to from an object that it meets. It
fails if it meets an object that cannot be looked at, and else it notes the homes of all objects
that it meets, and nothing more.

## Main definitions

* `Heap.Meets` — the objects that a walk meets.

## Main results

* `Heap.meets_iff_isReachable` — a walk meets what is reachable.
* `Heap.referencedModules_spec` — what a walk comes to.
-/

namespace HandlerBundle

namespace Heap

/-- The objects that a walk from a value meets. -/
inductive Meets (h : Heap) (ex : Exclusion) (value : ObjectId) : ObjectId → Prop
  | value : Meets h ex value value
  | successor {id next o} (hid : Meets h ex value id) (ho : h.object? id = some o)
      (hnext : next ∈ h.successors ex id o) : Meets h ex value next

variable {h : Heap} {ex : Exclusion} {value : ObjectId}

theorem meets_iff_isReachable {id : ObjectId} :
    h.Meets ex value id ↔ h.IsReachable ex value id := by
  constructor
  · intro hid
    induction hid with
    | value => exact .refl
    | successor _ ho hnext ih => exact ih.tail (edge_of_mem_successors ho hnext)
  · intro hid
    induction hid with
    | refl => exact .value
    | tail _ hedge ih =>
      obtain ⟨o, ho, hnext⟩ := hedge.exists_mem_successors
      exact .successor ih ho hnext

/-- **What a walk comes to.** It notes the homes of the objects that it meets and nothing more, or
fails because it meets an object that cannot be looked at. -/
theorem referencedModules_spec (h : Heap) (ex : Exclusion) (value : ObjectId) :
    match h.referencedModules ex value with
    | .ok noted =>
      (∀ id f, h.Meets ex value id → ¬ h.FailsWith id f) ∧
      ∀ m, m ∈ noted ↔ ∃ id o, h.Meets ex value id ∧ h.object? id = some o ∧ m ∈ homes ex o
    | .error f => ∃ id, h.Meets ex value id ∧ h.FailsWith id f := by
  have hout := isOutcome_referencedModules h ex value
  simp only [meets_iff_isReachable, mem_homes_iff]
  cases hresult : h.referencedModules ex value with
  | ok noted =>
    rw [hresult] at hout
    cases hout with
    | ok hwhole hnoted =>
      refine ⟨hwhole, fun m => ?_⟩
      rw [← List.mem_toFinset, hnoted]
      exact exists_congr fun id => exists_and_left.symm
  | error f =>
    rw [hresult] at hout
    cases hout with
    | error hid hfails => exact ⟨_, hid, hfails⟩

/-- Nothing is noted of an object that is at home nowhere and leads nowhere. -/
theorem referencedModules_eq_nil {o : Object} (ho : h.object? value = some o)
    (hfault : h.fault? o = none) (hhomes : homes ex o = [])
    (hnext : h.successors ex value o = []) : h.referencedModules ex value = .ok [] := by
  have honly : ∀ id, h.Meets ex value id → id = value := by
    intro id hid
    induction hid with
    | value => rfl
    | successor _ ho' hmem ih =>
      subst ih
      obtain rfl := Option.some.inj (ho.symm.trans ho')
      rw [hnext] at hmem
      cases hmem
  have hspec := referencedModules_spec h ex value
  cases hout : h.referencedModules ex value with
  | error f =>
    rw [hout] at hspec
    obtain ⟨id, hid, o', ho', hfails⟩ := hspec
    obtain rfl := honly id hid
    obtain rfl := Option.some.inj (ho.symm.trans ho')
    cases hfault.symm.trans hfails
  | ok noted =>
    rw [hout] at hspec
    refine congrArg _ (List.eq_nil_iff_forall_not_mem.mpr fun m hm => ?_)
    obtain ⟨id, o', hid, ho', hm⟩ := (hspec.2 m).mp hm
    obtain rfl := honly id hid
    obtain rfl := Option.some.inj (ho.symm.trans ho')
    rw [hhomes] at hm
    cases hm

end Heap

end HandlerBundle
