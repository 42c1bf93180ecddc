import HandlerBundle.Proofs.Annotation.Spelling
import Mathlib.Data.Set.Basic

/-!
# Transitivity of assignability

Over classes whose subclass relation is transitive, assignability mostly is transitive too. A slot
that wraps a deferred result only compares the results, while the slots of other generics compare
all arguments exactly. So a chain fails to close where a wrapper is widened to a generic that is no
wrapper: the chain may change the result on its way through the wrappers, and the last slot then
sees that it did. Nowhere else does it fail.

## Main definitions

* `Annotation.IsClassTable` — classes over which the subclass relation is reflexive and transitive.
* `Annotation.IsOver` — the annotations put together from the classes of a table.
* `Annotation.LeavesWrapper` — a wrapper meets a generic that is none and has other arguments.

## Main results

* `Annotation.Fits.trans` — fitting is transitive over a table.
* `Annotation.isAssignable_trans_iff` — when a chain of two closes.
-/

namespace HandlerBundle

namespace Annotation

variable {table : Set Class} {t u v r s : Annotation}

/-! ### Annotations over a table of classes -/

/-- A table of classes over which the subclass relation is reflexive and transitive. Awaitables are
in it, since the wrappers are told by them; the class that everything satisfies is not. -/
structure IsClassTable (table : Set Class) : Prop where
  awaitable_mem : awaitable ∈ table
  any_notMem : .known .any ∉ table
  refl : ∀ c ∈ table, c.isSubclass c = true
  trans : ∀ c ∈ table, ∀ d ∈ table, ∀ e ∈ table,
    c.isSubclass d = true → d.isSubclass e = true → c.isSubclass e = true

/-- The annotations put together from the classes of a table, aliases of them and generics over
them. There are no unions, choices or annotated ones among them, at any depth. -/
inductive IsOver (table : Set Class) : Annotation → Prop
  | absent (h : .known .noneType ∈ table) : IsOver table .absent
  | cls {c : Class} (h : c ∈ table) : IsOver table (.cls c)
  | form (f : NamedForm) : IsOver table (.form f)
  | bare {c : Class} (h : c ∈ table) : IsOver table (.bare c)
  | generic {spelling : Spelling} {c : Class} {ts : List Annotation} (h : c ∈ table)
      (hargs : ∀ t ∈ ts, IsOver table t) : IsOver table (.generic spelling c ts)
  | params {ts : List Annotation} (h : ∀ t ∈ ts, IsOver table t) : IsOver table (.params ts)
  | forward (name : String) : IsOver table (.forward name)
  | value (c : Constant) : IsOver table (.value c)

namespace IsOver

theorem not_isUnion (h : t.IsOver table) : ¬t.IsUnion := by
  rintro ⟨spelling, ts, rfl⟩
  cases h

theorem normal (h : t.IsOver table) : t.normal.IsOver table := by
  cases t with
  | absent =>
    cases h with
    | absent h => exact .cls h
  | _ => exact h

theorem mem_of_origin? {c : Class} (h : t.IsOver table) (ho : t.origin? = some (.cls c)) :
    c ∈ table := by
  cases h <;> cases ho <;> assumption

theorem mem_of_normal {c : Class} (h : t.IsOver table) (hc : t.normal = .cls c) : c ∈ table := by
  have hnormal := h.normal
  rw [hc] at hnormal
  cases hnormal
  assumption

theorem mem_of_root {c : Class} (h : t.IsOver table) (hroot : t.root = .cls c) : c ∈ table := by
  cases h <;> cases hroot <;> assumption

theorem result (h : t.IsOver table) (hr : t.result? = some r) : r.IsOver table := by
  cases h with
  | generic _ hargs => exact hargs r (List.mem_of_getLast? hr)
  | _ => cases hr

/-- Over a table, what is equal has equal arguments. -/
theorem sameArgs_of_same (h : t.IsOver table) (hsame : t.normal.same u.normal = true) :
    sameArgs t.args u.args = true := by
  rw [← args_normal u]
  generalize u.normal = u' at hsame ⊢
  cases h with
  | generic _ _ =>
    cases (same_iff _ _).mp hsame with
    | generic _ _ hargs => exact (sameArgs_iff _ _).mpr (hargs.imp fun _ _ => same_normal)
  | _ =>
    cases (same_iff _ _).mp hsame
    exact (sameArgs_iff _ _).mpr .nil

theorem spelling_steady (ht : t.IsOver table) (hu : u.IsOver table) :
    ¬AtSomeLevel SpellingMatters t u := by
  intro h
  induction h with
  | here h =>
    cases h with
    | unionAsClass | unwritableUnion | choice => cases ht
    | classAsUnion => cases hu
  | deeper hlevel _ ih => exact ih (ht.result hlevel.left) (hu.result hlevel.right)

end IsOver

/-! ### Fitting over a table -/

/-- Over a table, what fits is built over a class that is counted under the other's. -/
theorem IsOver.exists_of_fits (htable : IsClassTable table) (ht : t.IsOver table)
    (h : t.Fits u) :
    ∃ c d, t.origin? = some (.cls c) ∧ u.origin? = some (.cls d) ∧ c.isSubclass d = true := by
  obtain ⟨c, d, ho, hp, rfl | hcd⟩ | ⟨f, ho, -⟩ := h.over
  · exact ⟨c, c, ho, hp, htable.refl c (ht.mem_of_origin? ho)⟩
  · exact ⟨c, d, ho, hp, hcd⟩
  · cases ht <;> cases ho

theorem Fits.trans (htable : IsClassTable table) (ht : t.IsOver table) (hu : u.IsOver table)
    (hv : v.IsOver table) (htu : t.Fits u) (huv : u.Fits v) : t.Fits v := by
  obtain ⟨c, d, hc, hd, hcd⟩ := ht.exists_of_fits htable htu
  obtain ⟨d', e, hd', he, hde⟩ := hu.exists_of_fits htable huv
  cases hd.symm.trans hd'
  have hce := htable.trans c (ht.mem_of_origin? hc) d (hu.mem_of_origin? hd) e
    (hv.mem_of_origin? he) hcd hde
  exact ⟨.cls c, .cls e, hc, he, .inr hce⟩

/-- Over a table, only wrappers fit a wrapper. -/
theorem Fits.isWrapper (htable : IsClassTable table) (ht : t.IsOver table) (hu : u.IsOver table)
    (h : t.Fits u) (hwrapper : u.IsWrapper) : t.IsWrapper := by
  obtain ⟨c, d, hc, hd, hcd⟩ := ht.exists_of_fits htable h
  obtain ⟨p, hp, hdeferred⟩ := hwrapper
  cases hd.symm.trans hp
  exact ⟨.cls c, hc, htable.trans c (ht.mem_of_origin? hc) d (hu.mem_of_origin? hd) awaitable
    htable.awaitable_mem hcd hdeferred⟩

/-- What satisfies a generic or an alias fits it. -/
theorem Satisfies.fits {p : Annotation} (ht : t.IsOver table) (h : t.Satisfies u)
    (hu : u.origin? = some p) : t.Fits u := by
  cases h with
  | equal h =>
    have ho : t.origin? = some p := by
      rw [← origin?_normal t, ← Alike.origin?_eq (.inr h) ht.normal.not_isUnion, origin?_normal, hu]
    obtain ⟨c, rfl⟩ | ⟨f, rfl⟩ := origin?_cases hu
    · exact ⟨_, _, ho, hu, .inl (same_cls_iff.mpr rfl)⟩
    · cases ht <;> cases ho
  | anything h => exact absurd (same_cls_iff.mp h) (normal_ne_cls_of_origin? hu)
  | subclass h =>
    obtain ⟨c, d, -, hd, -⟩ := (isSubclass_iff _ _).mp h
    exact absurd hd (normal_ne_cls_of_origin? hu)
  | bare hfits | exact hfits => exact hfits
  | result hlevel => exact hlevel.fits

/-- What satisfies an annotation is built over a class that is counted under the other's. -/
theorem Satisfies.root_isSubclass {d : Class} (htable : IsClassTable table)
    (ht : t.IsOver table) (hu : u.IsOver table) (h : t.Satisfies u) (hroot : u.root = .cls d) :
    ∃ c, t.root = .cls c ∧ c.isSubclass d = true := by
  cases ho : u.origin? with
  | some p =>
    obtain ⟨c, d', hc, hd, hcd⟩ := ht.exists_of_fits htable (h.fits ht ho)
    rw [root, hd, Option.getD_some] at hroot
    cases hroot
    exact ⟨c, by rw [root, hc, Option.getD_some], hcd⟩
  | none =>
    have hd := hu.mem_of_root hroot
    rw [root, ho, Option.getD_none] at hroot
    cases h with
    | equal h =>
      rw [hroot, same_cls_iff] at h
      exact ⟨d, by rw [root, origin?_of_normal_eq_cls h, Option.getD_none, h], htable.refl d hd⟩
    | anything h =>
      rw [hroot] at h
      cases same_cls_iff.mp h
      exact absurd hd htable.any_notMem
    | subclass h =>
      obtain ⟨c, d', hc, hd', hcd⟩ := (isSubclass_iff _ _).mp h
      cases hroot.symm.trans hd'
      exact ⟨c, hc, hcd⟩
    | bare hfits | exact hfits =>
      obtain ⟨_, p, -, hp, -⟩ := hfits
      cases ho.symm.trans hp
    | result hlevel =>
      obtain ⟨p, hp, -⟩ := hlevel.isWrapper
      cases ho.symm.trans hp

/-! ### Chains of two -/

/-- A wrapper meets a generic that is no wrapper, though it is counted under it, and whose arguments
are others. -/
structure LeavesWrapper (t v : Annotation) : Prop where
  wrapper : t.IsWrapper
  fits : t.Fits v
  slot : ¬v.IsWrapper
  slot_args : v.args ≠ []
  args : ¬sameArgs t.args v.args = true

theorem sameArgs_trans {ts us vs : List Annotation} (h : sameArgs ts us = true)
    (h' : sameArgs us vs = true) : sameArgs ts vs = true := by
  rw [sameArgs_iff] at h h' ⊢
  exact forall₂_trans_of_mem (fun _ _ _ _ => same_trans) h h'

/-- A slot with arguments that is no wrapper compares all of them. -/
theorem Satisfies.sameArgs {p : Annotation} (ht : t.IsOver table) (hslot : ¬u.IsWrapper)
    (hu : u.origin? = some p) (hargs : u.args ≠ []) (h : t.Satisfies u) :
    sameArgs t.args u.args = true := by
  rcases (satisfies_iff_of_not_isWrapper hslot).mp h with (h | h | ⟨-, h⟩) | (h | ⟨-, h⟩)
  · exact absurd (same_cls_iff.mp h) (normal_ne_cls_of_origin? hu)
  · obtain ⟨c, d, -, hd, -⟩ := (isSubclass_iff _ _).mp h
    exact absurd hd (normal_ne_cls_of_origin? hu)
  · exact absurd h hargs
  · exact ht.sameArgs_of_same h
  · exact h

/-- A chain of two whose last slot is no wrapper closes, unless it leaves the wrappers. -/
theorem Satisfies.trans_of_not_isWrapper (htable : IsClassTable table) (ht : t.IsOver table)
    (hu : u.IsOver table) (hv : v.IsOver table) (hslot : ¬v.IsWrapper) (htu : t.Satisfies u)
    (huv : u.Satisfies v) (hleaves : ¬t.LeavesWrapper v) : t.Satisfies v := by
  rcases (satisfies_iff_of_not_isWrapper hslot).mp huv with
    (h | h | ⟨hfits, h⟩) | (h | ⟨hfits, h⟩)
  · exact .anything h
  · obtain ⟨d, e, hd, he, hde⟩ := (isSubclass_iff _ _).mp h
    obtain ⟨c, hc, hcd⟩ := htu.root_isSubclass htable ht hu hd
    have hce := htable.trans c (ht.mem_of_root hc) d (hu.mem_of_root hd) e (hv.mem_of_normal he)
      hcd hde
    exact .subclass ((isSubclass_iff _ _).mpr ⟨c, e, hc, he, hce⟩)
  · obtain ⟨o, p, ho, -, -⟩ := id hfits
    exact .bare ((htu.fits ht ho).trans htable ht hu hv hfits) h
  · rw [← isAssignable_iff, ← isAssignable_normal_right, isAssignable_iff] at htu ⊢
    exact htu.congr (.refl t) (.inr h) (ht.spelling_steady hu.normal)
  · obtain ⟨o, p, ho, -, -⟩ := id hfits
    have htu' := htu.fits ht ho
    have htv := htu'.trans htable ht hu hv hfits
    by_cases hvargs : v.args = []
    · exact .bare htv hvargs
    refine .exact htv hslot (by_contra fun hargs => ?_)
    -- the arguments are lost between the first two, so the middle one is a wrapper
    have hwrapper : u.IsWrapper := by
      by_contra hu'
      have huargs : u.args ≠ [] := by
        intro hnil
        rw [hnil, sameArgs_iff, List.forall₂_nil_left_iff] at h
        exact hvargs h
      exact hargs (sameArgs_trans (htu.sameArgs ht hu' ho huargs) h)
    exact hleaves ⟨htu'.isWrapper htable ht hu hwrapper, htv, hslot, hvargs, hargs⟩

/-- **When a chain of two closes.** Over a class table, what satisfies a slot that satisfies a wider
one satisfies the wider one too, exactly if it leaves the wrappers of deferred results at no
level. -/
theorem isAssignable_trans_iff (htable : IsClassTable table) (ht : t.IsOver table)
    (hu : u.IsOver table) (hv : v.IsOver table) (htu : t.isAssignable u = true)
    (huv : u.isAssignable v = true) :
    t.isAssignable v = true ↔ ¬AtSomeLevel LeavesWrapper t v := by
  rw [isAssignable_iff] at htu huv ⊢
  induction t using partsInduction generalizing u v with
  | step t ih =>
    by_cases hslot : v.IsWrapper
    · obtain ⟨hfits, huv⟩ := (satisfies_iff_of_isWrapper hslot).mp huv
      obtain ⟨hfits', htu⟩ :=
        (satisfies_iff_of_isWrapper (hfits.isWrapper htable hu hv hslot)).mp htu
      have htv := hfits'.trans htable ht hu hv hfits
      rcases huv with hargs | ⟨q, s, hlevel, hqs⟩
      · refine iff_of_true (.bare htv hargs) ?_
        rintro (h | ⟨hlevel, -⟩)
        · exact h.slot hslot
        · exact ne_nil_of_result? hlevel.right hargs
      · obtain ⟨r, q', hlevel', hrq⟩ := htu.resolve_left (ne_nil_of_result? hlevel.left)
        obtain rfl := Option.some.inj (hlevel.left.symm.trans hlevel'.right)
        have hlevel'' : t.ComesDownTo v r s := ⟨htv, hslot, hlevel'.left, hlevel.right⟩
        rw [satisfies_iff_of_comesDownTo hlevel'',
          atSomeLevel_iff_of_comesDownTo (fun h => h.slot hslot) hlevel'']
        exact ih r (mem_parts_of_result? hlevel'.left) (ht.result hlevel'.left)
          (hu.result hlevel.left) (hv.result hlevel.right) hrq hqs
    · rw [atSomeLevel_iff_of_not_comesDownTo (not_comesDownTo_of_not_isWrapper hslot)]
      refine ⟨fun h hleaves => ?_, htu.trans_of_not_isWrapper htable ht hu hv hslot huv⟩
      obtain ⟨o, p, -, hp, -⟩ := hleaves.fits
      exact hleaves.args (h.sameArgs ht hslot hp hleaves.slot_args)

/-! ### Futures of numbers -/

/-- Futures with what they are counted under, and the classes of their results. -/
def futureClasses : List Class :=
  [awaitable, .known .future, .known .iterable, .known .int, .known .bool, .known .object]

/-- A generic of known classes. -/
def genericOf (c k : KnownClass) : Annotation :=
  .generic .direct (.known c) [.cls (.known k)]

theorem isClassTable_futureClasses : IsClassTable {c | c ∈ futureClasses} where
  awaitable_mem := List.mem_cons_self
  any_notMem := by simp [futureClasses, awaitable]
  refl := show ∀ c ∈ futureClasses, c.isSubclass c = true by decide
  trans := show ∀ c ∈ futureClasses, ∀ d ∈ futureClasses, ∀ e ∈ futureClasses,
    c.isSubclass d = true → d.isSubclass e = true → c.isSubclass e = true by decide

theorem isOver_genericOf {c k : KnownClass} (hc : .known c ∈ futureClasses)
    (hk : .known k ∈ futureClasses) : (genericOf c k).IsOver {c | c ∈ futureClasses} :=
  .generic hc fun _ ht => List.mem_singleton.mp ht ▸ .cls hk

/-- A future of truth values is an awaitable of numbers, since it is a future of numbers. -/
theorem isAssignable_trans_iff_truthFuture :
    (genericOf .future .bool).isAssignable (genericOf .future .int) = true ∧
      (genericOf .future .int).isAssignable (genericOf .awaitable .int) = true ∧
      ((genericOf .future .bool).isAssignable (genericOf .awaitable .int) = true ↔
        ¬AtSomeLevel LeavesWrapper (genericOf .future .bool) (genericOf .awaitable .int)) :=
  have htu : (genericOf .future .bool).isAssignable (genericOf .future .int) = true := by cbv
  have huv : (genericOf .future .int).isAssignable (genericOf .awaitable .int) = true := by cbv
  ⟨htu, huv, isAssignable_trans_iff isClassTable_futureClasses
    (isOver_genericOf (by decide) (by decide)) (isOver_genericOf (by decide) (by decide))
    (isOver_genericOf (by decide) (by decide)) htu huv⟩

/-- A future of truth values is no iterable of numbers, though it is a future of numbers and these
are. -/
theorem isAssignable_not_trans_truthFuture :
    IsClassTable {c | c ∈ futureClasses} ∧
      (∀ t ∈ [genericOf .future .bool, genericOf .future .int, genericOf .iterable .int],
        t.IsOver {c | c ∈ futureClasses}) ∧
      (genericOf .future .bool).isAssignable (genericOf .future .int) = true ∧
      (genericOf .future .int).isAssignable (genericOf .iterable .int) = true ∧
      (genericOf .future .bool).isAssignable (genericOf .iterable .int) = false := by
  refine ⟨isClassTable_futureClasses, ?_, by cbv, by cbv, by cbv⟩
  simp only [List.forall_mem_cons, List.not_mem_nil, false_imp_iff, implies_true, and_true]
  exact ⟨isOver_genericOf (by decide) (by decide), isOver_genericOf (by decide) (by decide),
    isOver_genericOf (by decide) (by decide)⟩

end Annotation

end HandlerBundle
