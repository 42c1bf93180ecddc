import Mathlib.Data.Finset.Card
import Mathlib.Data.Finset.Insert
import Mathlib.Data.Finset.SDiff
import Mathlib.Data.Multiset.AddSub
import Mathlib.Order.WellFounded

/-!
# Searches with pending items

A search keeps items that are pending. It takes one of them at a time, and either passes over it
because it is settled, or settles it and puts others to those that are pending. So what was pending
or settled stays so. As long as there are only so many items to settle, the search ends.

## Main results

* `pending_or_settled_of_pass`, `pending_or_settled_of_take` — nothing pending gets lost.
* `wellFounded_of_measures` — every search ends.
-/

namespace HandlerBundle

section Pending

variable {α : Type} {settled settled' : α → Prop} {x y : α} {rest : Multiset α}

/-- What is pending or settled stays so when a settled item is passed over. -/
theorem pending_or_settled_of_pass (hpass : settled x) :
    y ∈ x ::ₘ rest ∨ settled y → y ∈ rest ∨ settled y
  | .inl hy => by
      rcases Multiset.mem_cons.mp hy with rfl | hy
      · exact .inr hpass
      · exact .inl hy
  | .inr hy => .inr hy

/-- What is pending or settled stays so when a pending item is settled, and others are put to those
that are pending. -/
theorem pending_or_settled_of_take (hmono : ∀ z, settled z → settled' z) (htake : settled' x)
    (others : Multiset α) : y ∈ x ::ₘ rest ∨ settled y → y ∈ others + rest ∨ settled' y
  | .inl hy => by
      rcases Multiset.mem_cons.mp hy with rfl | hy
      · exact .inr htake
      · exact .inl (Multiset.mem_add.mpr (.inr hy))
  | .inr hy => .inr (hmono y hy)

end Pending

/-- With one more item settled, fewer of those that there are are not. -/
theorem card_sdiff_insert_lt {α : Type} [DecidableEq α] {all settled : Finset α} {x : α}
    (hx : x ∈ all) (hnew : x ∉ settled) : (all \ insert x settled).card < (all \ settled).card := by
  rw [Finset.sdiff_insert]
  exact Finset.card_erase_lt_of_mem (Finset.mem_sdiff.mpr ⟨hx, hnew⟩)

/-- **Every search ends** whose steps leave ever fewer items to settle or, with as many of them
left, ever fewer pending. -/
theorem wellFounded_of_measures {σ : Type} {step : σ → σ → Prop} (left pending : σ → ℕ)
    (hstep : ∀ s t, step s t → left t < left s ∨ left t = left s ∧ pending t < pending s) :
    WellFounded fun t s => step s t := by
  have hlex : Subrelation (fun t s => step s t)
      (InvImage (Prod.Lex (· < ·) (· < ·)) fun s => (left s, pending s)) :=
    fun {t s} h => Prod.lex_def.mpr (hstep s t h)
  exact hlex.wf (InvImage.wf _ (WellFounded.prod_lex wellFounded_lt wellFounded_lt))

end HandlerBundle
