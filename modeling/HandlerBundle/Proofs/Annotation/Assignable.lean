import HandlerBundle.Annotation.Assignable
import HandlerBundle.Proofs.Annotation.Equality

/-!
# The rules of assignability

A value declared with one annotation satisfies a slot declared with another by one of six rules:
they are equal, the slot takes anything, both are classes, the slot has no arguments, the arguments
agree, or the slot wraps a deferred result and the results satisfy each other. Only the last rule
goes inside the annotations, and the pairs that it leads to are the *levels* of a comparison.

## Main definitions

* `Annotation.Satisfies` — the rules as an inductive relation.
* `Annotation.ComesDownTo` — one level of a comparison leads to the next.
* `Annotation.AtSomeLevel` — a relation holds at some level of a comparison.
* `Annotation.IsCoveredBy`, `Annotation.AgreesWith` — what a slot that is no wrapper looks at.

## Main results

* `Annotation.isAssignable_iff` — assignability is satisfaction by the rules.
* `Annotation.satisfies_iff_of_isWrapper`, `Annotation.satisfies_iff_of_not_isWrapper` — what
  satisfies a wrapper, and what satisfies any other slot.
-/

namespace HandlerBundle

namespace Annotation

variable {t u r s : Annotation}

/-! ### Levels of a comparison -/

/-- What a slot that is a class looks at: what a generic is built over, or the annotation itself. -/
def root (t : Annotation) : Annotation :=
  t.origin?.getD t.normal

/-- What the first annotation is built over fits what the second is built over: it is the same, or
is counted under it. -/
def Fits (t u : Annotation) : Prop :=
  ∃ o p, t.origin? = some o ∧ u.origin? = some p ∧ (o.same p = true ∨ o.isSubclass p = true)

/-- A generic or an alias over a class of deferred results. -/
def IsWrapper (t : Annotation) : Prop :=
  ∃ o, t.origin? = some o ∧ isDeferred o = true

/-- The comparison of two annotations comes down to that of their results: the second wraps a
deferred result, the first fits it, and both have a result. -/
structure ComesDownTo (t u r s : Annotation) : Prop where
  fits : t.Fits u
  isWrapper : u.IsWrapper
  left : t.result? = some r
  right : u.result? = some s

/-- A relation holds of the annotations that are compared at some level, the annotations themselves
or the results that their comparison comes down to. -/
inductive AtSomeLevel (P : Annotation → Annotation → Prop) : Annotation → Annotation → Prop
  | here {t u : Annotation} (h : P t u) : AtSomeLevel P t u
  | deeper {t u r s : Annotation} (hlevel : t.ComesDownTo u r s) (h : AtSomeLevel P r s) :
      AtSomeLevel P t u

theorem result?_eq_some (h : t.result? = some r) :
    ∃ spelling c ts, t = .generic spelling c ts ∧ ts.getLast? = some r := by
  cases t with
  | generic spelling c ts => exact ⟨spelling, c, ts, rfl, h⟩
  | _ => cases h

theorem mem_parts_of_result? (h : t.result? = some r) : r ∈ t.parts := by
  obtain ⟨spelling, c, ts, rfl, hr⟩ := result?_eq_some h
  exact List.mem_of_getLast? hr

theorem ne_nil_of_result? (h : t.result? = some r) : t.args ≠ [] := by
  obtain ⟨spelling, c, ts, rfl, hr⟩ := result?_eq_some h
  rintro (rfl : ts = [])
  cases hr

theorem isSubclass_iff (t u : Annotation) :
    t.isSubclass u = true ↔ ∃ c d, t = .cls c ∧ u = .cls d ∧ c.isSubclass d = true := by
  cases t <;> cases u <;> simp [isSubclass]

theorem origin?_of_normal_eq_cls {c : Class} (h : t.normal = .cls c) : t.origin? = none := by
  cases t <;> first | rfl | cases h

theorem origin?_normal (t : Annotation) : t.normal.origin? = t.origin? := by
  cases t <;> rfl

theorem args_normal (t : Annotation) : t.normal.args = t.args := by
  cases t <;> rfl

/-- What is built over something is built over a class or over a named form. -/
theorem origin?_cases {o : Annotation} (h : t.origin? = some o) :
    (∃ c, o = .cls c) ∨ ∃ f, o = .form f := by
  cases t with
  | bare | generic | annotated =>
    cases h
    exact .inl ⟨_, rfl⟩
  | literal =>
    cases h
    exact .inr ⟨_, rfl⟩
  | union spelling =>
    cases spelling <;> cases h
    · exact .inl ⟨_, rfl⟩
    · exact .inr ⟨_, rfl⟩
  | _ => cases h

theorem normal_ne_cls_of_origin? {o : Annotation} {c : Class} (h : t.origin? = some o) :
    t.normal ≠ .cls c := by
  intro hc
  cases (origin?_of_normal_eq_cls hc).symm.trans h

/-! ### The rules -/

/-- The rules by which a value declared with the first annotation satisfies a slot declared with the
second. -/
inductive Satisfies : Annotation → Annotation → Prop
  | equal {t u : Annotation} (h : t.normal.same u.normal = true) : Satisfies t u
  | anything {t u : Annotation} (h : u.normal.same any = true) : Satisfies t u
  | subclass {t u : Annotation} (h : t.root.isSubclass u.normal = true) : Satisfies t u
  | bare {t u : Annotation} (hfits : t.Fits u) (h : u.args = []) : Satisfies t u
  | result {t u r s : Annotation} (hlevel : t.ComesDownTo u r s) (h : Satisfies r s) :
      Satisfies t u
  | exact {t u : Annotation} (hfits : t.Fits u) (hslot : ¬u.IsWrapper)
      (h : sameArgs t.args u.args = true) : Satisfies t u

/-- A slot takes an annotation whatever its arguments are. -/
inductive IsCoveredBy (t u : Annotation) : Prop
  | anything (h : u.normal.same any = true)
  | subclass (h : t.root.isSubclass u.normal = true)
  | bare (hfits : t.Fits u) (h : u.args = [])

/-- Two annotations are equal, or one fits the other and their arguments are equal. -/
def AgreesWith (t u : Annotation) : Prop :=
  t.normal.same u.normal = true ∨ (t.Fits u ∧ sameArgs t.args u.args = true)

private theorem isAssignable_of_satisfies (h : t.Satisfies u) : t.isAssignable u = true := by
  induction h with
  | equal h => rw [isAssignable, if_pos (by rw [h, Bool.true_or])]
  | anything h => rw [isAssignable, if_pos (by rw [h, Bool.or_true])]
  | @subclass t u h =>
    obtain ⟨c, d, hc, hd, hcd⟩ := (isSubclass_iff _ _).mp h
    have hu : u.origin? = none := origin?_of_normal_eq_cls hd
    rw [isAssignable]
    split
    · rfl
    · cases ht : t.origin? with
      | none => simpa only [root, ht, Option.getD_none, hu] using h
      | some o => simpa only [root, ht, Option.getD_some, hu] using h
  | bare hfits h =>
    obtain ⟨o, p, ht, hu, hfit⟩ := hfits
    rw [isAssignable]
    split
    · rfl
    · simp [ht, hu, hfit, h]
  | result hlevel h ih =>
    obtain ⟨⟨o, p, ht, hu, hfit⟩, ⟨p', hu', hp⟩, hr, hs⟩ := hlevel
    obtain rfl : p = p' := Option.some.inj (hu.symm.trans hu')
    rw [isAssignable]
    split
    · rfl
    · simp only [ht, hu]
      rw [if_neg (by simpa [or_iff_not_imp_left] using hfit), if_pos hp]
      split
      · rfl
      · split
        next hr' hs' =>
          rwa [Option.some.inj (hr'.symm.trans hr), Option.some.inj (hs'.symm.trans hs)]
        next hne => exact (hne _ _ hr hs).elim
  | exact hfits hslot h =>
    obtain ⟨o, p, ht, hu, hfit⟩ := hfits
    have hp : isDeferred p = false := Bool.eq_false_iff.mpr fun hp => hslot ⟨p, hu, hp⟩
    rw [isAssignable]
    split
    · rfl
    · simp [ht, hu, hfit, hp, h]

private theorem satisfies_of_isAssignable (h : t.isAssignable u = true) : t.Satisfies u := by
  induction t using partsInduction generalizing u with
  | step t ih =>
    rw [isAssignable] at h
    split at h
    next heq =>
      rcases Bool.or_eq_true_iff.mp heq with heq | heq
      · exact .equal heq
      · exact .anything heq
    next =>
      split at h
      next ht hu => exact .subclass (by rwa [root, ht, Option.getD_none])
      next o ht hu => exact .subclass (by rwa [root, ht, Option.getD_some])
      next => cases h
      next o p ht hu =>
        split at h
        · cases h
        next hfit =>
          have hfits : t.Fits u := ⟨o, p, ht, hu, by simpa [or_iff_not_imp_left] using hfit⟩
          split at h
          next hargs => exact .bare hfits (List.isEmpty_iff.mp hargs)
          next hargs =>
            split at h
            next hp =>
              split at h
              next r s hr hs =>
                exact .result ⟨hfits, ⟨p, hu, hp⟩, hr, hs⟩ (ih r (mem_parts_of_result? hr) h)
              next => cases h
            next hp =>
              refine .exact hfits ?_ h
              rintro ⟨p', hu', hp'⟩
              obtain rfl : p = p' := Option.some.inj (hu.symm.trans hu')
              exact hp hp'

/-- **Assignability is satisfaction by the rules.** -/
theorem isAssignable_iff (t u : Annotation) : t.isAssignable u = true ↔ t.Satisfies u :=
  ⟨satisfies_of_isAssignable, isAssignable_of_satisfies⟩

/-! ### Slots and wrappers -/

theorem not_isWrapper_union (spelling : Spelling) (ts : List Annotation) :
    ¬(union spelling ts).IsWrapper := by
  rintro ⟨o, ho, hdeferred⟩
  cases spelling <;> cases ho <;> cases hdeferred

/-- A wrapper is satisfied by what fits it, if it has no arguments or the results satisfy each
other. -/
theorem satisfies_iff_of_isWrapper (hu : u.IsWrapper) :
    t.Satisfies u ↔
      t.Fits u ∧ (u.args = [] ∨ ∃ r s, t.ComesDownTo u r s ∧ r.Satisfies s) := by
  have hnormal {c : Class} : u.normal ≠ .cls c := by
    obtain ⟨p, hp, -⟩ := hu
    exact normal_ne_cls_of_origin? hp
  have hfits {c : Class} (ht : t.origin? = some (.cls c)) (hu : u.origin? = some (.cls c)) :
      t.Fits u :=
    ⟨.cls c, .cls c, ht, hu, .inl (same_cls_iff.mpr rfl)⟩
  constructor
  · intro h
    cases h with
    | equal h =>
      cases u with
      | bare c =>
        obtain rfl : t = .bare c := by cases t <;> cases (same_iff _ _).mp h; rfl
        exact ⟨hfits rfl rfl, .inl rfl⟩
      | generic spelling c us =>
        obtain ⟨ts, rfl, hargs⟩ : ∃ ts, t = .generic spelling c ts ∧
            List.Forall₂ (fun x y => x.same y = true) ts us := by
          cases t <;> cases (same_iff _ _).mp h
          exact ⟨_, rfl, ‹_›⟩
        refine ⟨hfits rfl rfl, ?_⟩
        cases hs : us.getLast? with
        | none => exact .inl (List.getLast?_eq_none_iff.mp hs)
        | some s =>
          obtain ⟨r, hr, hrs⟩ := exists_getLast?_of_forall₂ hargs.flip hs
          exact .inr ⟨r, s, ⟨hfits rfl rfl, hu, hr, hs⟩, .equal (same_normal hrs)⟩
      | union spelling us => exact absurd hu (not_isWrapper_union spelling us)
      | _ => obtain ⟨p, ⟨⟩, ⟨⟩⟩ := hu
    | anything h => exact absurd (same_cls_iff.mp h) hnormal
    | subclass h =>
      obtain ⟨c, d, -, hd, -⟩ := (isSubclass_iff _ _).mp h
      exact absurd hd hnormal
    | bare hfits h => exact ⟨hfits, .inl h⟩
    | result hlevel h => exact ⟨hlevel.fits, .inr ⟨_, _, hlevel, h⟩⟩
    | exact hfits hslot h => exact absurd hu hslot
  · rintro ⟨hfits, h | ⟨r, s, hlevel, h⟩⟩
    · exact .bare hfits h
    · exact .result hlevel h

/-- Of two annotations that satisfy each other, so do the results that their comparison comes down
to. -/
theorem Satisfies.results (h : t.Satisfies u) (hlevel : t.ComesDownTo u r s) : r.Satisfies s := by
  obtain ⟨-, hargs | ⟨r', s', hlevel', h⟩⟩ := (satisfies_iff_of_isWrapper hlevel.isWrapper).mp h
  · exact absurd hargs (ne_nil_of_result? hlevel.right)
  · obtain rfl := Option.some.inj (hlevel'.left.symm.trans hlevel.left)
    obtain rfl := Option.some.inj (hlevel'.right.symm.trans hlevel.right)
    exact h

/-- All other slots are satisfied by what they cover and by what they agree with. -/
theorem satisfies_iff_of_not_isWrapper (hu : ¬u.IsWrapper) :
    t.Satisfies u ↔ t.IsCoveredBy u ∨ t.AgreesWith u := by
  constructor
  · intro h
    cases h with
    | equal h => exact .inr (.inl h)
    | anything h => exact .inl (.anything h)
    | subclass h => exact .inl (.subclass h)
    | bare hfits h => exact .inl (.bare hfits h)
    | result hlevel h => exact absurd hlevel.isWrapper hu
    | exact hfits hslot h => exact .inr (.inr ⟨hfits, h⟩)
  · rintro ((h | h | ⟨hfits, h⟩) | (h | ⟨hfits, h⟩))
    · exact .anything h
    · exact .subclass h
    · exact .bare hfits h
    · exact .equal h
    · exact .exact hfits hu h

/-! ### The levels below -/

theorem satisfies_iff_of_comesDownTo (hlevel : t.ComesDownTo u r s) :
    t.Satisfies u ↔ r.Satisfies s :=
  ⟨fun h => h.results hlevel, .result hlevel⟩

/-- Without results to compare, a wrapper is satisfied by what fits it only if it has no
arguments. -/
theorem satisfies_iff_of_not_comesDownTo (hu : u.IsWrapper)
    (hlevel : ¬∃ r s, t.ComesDownTo u r s) : t.Satisfies u ↔ t.Fits u ∧ u.args = [] := by
  rw [satisfies_iff_of_isWrapper hu]
  refine and_congr_right fun _ => or_iff_left ?_
  rintro ⟨r, s, h, -⟩
  exact hlevel ⟨r, s, h⟩

theorem atSomeLevel_iff_of_comesDownTo {P : Annotation → Annotation → Prop} (hP : ¬P t u)
    (hlevel : t.ComesDownTo u r s) : AtSomeLevel P t u ↔ AtSomeLevel P r s := by
  constructor
  · rintro (h | ⟨hlevel', h⟩)
    · exact absurd h hP
    · obtain rfl := Option.some.inj (hlevel.left.symm.trans hlevel'.left)
      obtain rfl := Option.some.inj (hlevel.right.symm.trans hlevel'.right)
      exact h
  · exact .deeper hlevel

theorem atSomeLevel_iff_of_not_comesDownTo {P : Annotation → Annotation → Prop}
    (hlevel : ¬∃ r s, t.ComesDownTo u r s) : AtSomeLevel P t u ↔ P t u := by
  constructor
  · rintro (h | ⟨hlevel', -⟩)
    · exact h
    · exact absurd ⟨_, _, hlevel'⟩ hlevel
  · exact .here

theorem not_comesDownTo_of_not_isWrapper (hu : ¬u.IsWrapper) : ¬∃ r s, t.ComesDownTo u r s := by
  rintro ⟨r, s, hlevel⟩
  exact hu hlevel.isWrapper

/-- A slot without a value and the slot of its class are the same slot. -/
theorem isAssignable_normal_right (t u : Annotation) :
    t.isAssignable u.normal = t.isAssignable u := by
  cases u with
  | absent =>
    rw [isAssignable]
    conv_rhs => rw [isAssignable]
    rfl
  | _ => rfl

end Annotation

end HandlerBundle
