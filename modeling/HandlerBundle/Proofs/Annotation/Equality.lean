import HandlerBundle.Annotation.Basic
import Mathlib.Data.List.Forall2

/-!
# Equality of annotations

Two annotations are equal by their form: generics by spelling, class and arguments, unions of any
spelling by their members in any order, choices by the constants that they offer, and constants by
value. This equality is symmetric and transitive. It is not reflexive, since a number that is none
equals nothing, not even itself.

## Main definitions

* `Annotation.parts` — the annotations that an annotation is put together from, over which
  `Annotation.partsInduction` is the induction.
* `Annotation.EqualBy` — the ways in which two annotations are equal, one for each form.

## Main results

* `Annotation.same_iff` — two annotations are equal exactly in one of these ways.
* `Annotation.same_symm`, `Annotation.same_trans`.
-/

namespace HandlerBundle

/-! ### Constants -/

namespace Binary64

/-- A pattern that stands for zero, of either sign. -/
def IsZero (x : Binary64) : Prop :=
  ∃ negative exponent, x.view = .finite negative 0 exponent

/-- Two patterns stand for the same value if both stand for zero, or if they are the same pattern
and it stands for a number. -/
theorem same_iff (x y : Binary64) :
    x.same y = true ↔ (x.IsZero ∧ y.IsZero) ∨ (x = y ∧ x.view ≠ .notANumber) := by
  unfold same IsZero
  split
  next hx => simp [hx]
  next hy hx =>
    simp only [hy, reduceCtorEq, exists_false, and_false, false_or, false_iff, not_and, not_not,
      Bool.false_eq_true]
    rintro rfl
    exact hy
  next b e c f hx hy => simp [hx, hy]
  next hx hy hzero =>
    rw [beq_iff_eq, ← Binary64.mk.injEq]
    constructor
    · intro h
      exact .inr ⟨h, hx⟩
    · rintro (⟨⟨b, e, hb⟩, c, f, hc⟩ | ⟨h, -⟩)
      · exact (hzero b e c f hb hc).elim
      · exact h

theorem same_symm {x y : Binary64} (h : x.same y = true) : y.same x = true := by
  rw [same_iff] at h ⊢
  rcases h with ⟨hx, hy⟩ | ⟨rfl, hx⟩
  · exact .inl ⟨hy, hx⟩
  · exact .inr ⟨rfl, hx⟩

theorem same_trans {x y z : Binary64} (hxy : x.same y = true) (hyz : y.same z = true) :
    x.same z = true := by
  rw [same_iff] at hxy hyz ⊢
  rcases hxy with ⟨hx, hy⟩ | ⟨rfl, hx⟩
  · rcases hyz with ⟨-, hz⟩ | ⟨rfl, -⟩
    · exact .inl ⟨hx, hz⟩
    · exact .inl ⟨hx, hy⟩
  · exact hyz

end Binary64


namespace Constant

/-- Two constants are equal as values if they equal one integer, if they are equal numbers that are
no integers, or if they are the same and no numbers. -/
theorem same_iff (a b : Constant) :
    a.same b = true ↔
      (∃ n, a.integer? = some n ∧ b.integer? = some n) ∨
        (a.integer? = Option.none ∧ b.integer? = Option.none ∧
          ((∃ x y, a = .float x ∧ b = .float y ∧ x.same y = true) ∨
            (a = b ∧ ∀ x, a ≠ .float x))) := by
  unfold same
  cases ha : a.integer? <;> cases hb : b.integer?
  case none.none =>
    simp only [reduceCtorEq, false_and, exists_false, true_and, false_or]
    split
    next x y => simp
    next hfloat =>
      rw [beq_iff_eq]
      constructor
      · rintro rfl
        exact .inr ⟨rfl, fun x hx => hfloat x x hx hx⟩
      · rintro (⟨x, y, hx, hy, -⟩ | ⟨h, -⟩)
        · exact (hfloat x y hx hy).elim
        · exact h
  case some.some m n =>
    simp only [beq_iff_eq, Option.some.injEq, reduceCtorEq, false_and, or_false]
    exact ⟨fun h => ⟨m, rfl, h.symm⟩, fun ⟨k, hm, hn⟩ => hm.trans hn.symm⟩
  all_goals simp

theorem same_symm {a b : Constant} (h : a.same b = true) : b.same a = true := by
  rw [same_iff] at h ⊢
  rcases h with ⟨n, ha, hb⟩ | ⟨ha, hb, ⟨x, y, rfl, rfl, h⟩ | ⟨rfl, hfloat⟩⟩
  · exact .inl ⟨n, hb, ha⟩
  · exact .inr ⟨hb, ha, .inl ⟨y, x, rfl, rfl, Binary64.same_symm h⟩⟩
  · exact .inr ⟨hb, ha, .inr ⟨rfl, hfloat⟩⟩

theorem same_trans {a b c : Constant} (hab : a.same b = true) (hbc : b.same c = true) :
    a.same c = true := by
  rw [same_iff] at hab hbc ⊢
  rcases hab with ⟨n, ha, hb⟩ | ⟨ha, hb, ⟨x, y, rfl, rfl, hxy⟩ | ⟨rfl, -⟩⟩
  · rcases hbc with ⟨m, hb', hc⟩ | ⟨hb', -⟩
    · obtain rfl : n = m := Option.some.inj (hb.symm.trans hb')
      exact .inl ⟨n, ha, hc⟩
    · exact absurd (hb.symm.trans hb') (Option.some_ne_none n)
  · rcases hbc with ⟨m, hb', -⟩ | ⟨-, hc, ⟨y', z, hy, rfl, hyz⟩ | ⟨-, hfloat⟩⟩
    · exact absurd (hb'.symm.trans hb) (Option.some_ne_none m)
    · obtain rfl : y = y' := Constant.float.inj hy
      exact .inr ⟨ha, hc, .inl ⟨x, z, rfl, rfl, Binary64.same_trans hxy hyz⟩⟩
    · exact absurd rfl (hfloat y)
  · exact hbc

end Constant

namespace Annotation

variable {t u v : Annotation} {ts us vs : List Annotation}

/-! ### Parts and induction -/

/-- The annotations that an annotation is put together from. -/
def parts : Annotation → List Annotation
  | .generic _ _ ts | .union _ ts | .params ts => ts
  | .annotated t _ => [t]
  | _ => []

theorem sizeOf_lt_of_mem_parts (h : u ∈ t.parts) : sizeOf u < sizeOf t := by
  cases t with
  | generic _ _ ts | union _ ts | params ts =>
    have := List.sizeOf_lt_of_mem (show u ∈ ts from h)
    simp only [generic.sizeOf_spec, union.sizeOf_spec, params.sizeOf_spec]
    omega
  | annotated t note =>
    obtain rfl : u = t := List.mem_singleton.mp h
    simp only [annotated.sizeOf_spec]
    omega
  | _ => exact absurd h List.not_mem_nil

/-- What holds of an annotation once it holds of its parts holds of all annotations. -/
@[elab_as_elim]
theorem partsInduction {motive : Annotation → Prop}
    (step : ∀ t, (∀ u ∈ t.parts, motive u) → motive t) (t : Annotation) : motive t :=
  step t fun u _ => partsInduction step u
termination_by sizeOf t
decreasing_by exact sizeOf_lt_of_mem_parts ‹_›

/-! ### The ways to be equal -/

theorem sameList_iff : ∀ ts us : List Annotation,
    sameList ts us = true ↔ List.Forall₂ (fun t u => t.same u = true) ts us
  | [], [] => by simp [sameList]
  | [], _ :: _ => by simp [sameList]
  | _ :: _, [] => by simp [sameList]
  | t :: ts, u :: us => by
    rw [sameList, Bool.and_eq_true, sameList_iff ts us, List.forall₂_cons]

theorem eachIn_iff (us : List Annotation) : ∀ ts : List Annotation,
    eachIn ts us = true ↔ ∀ t ∈ ts, ∃ u ∈ us, t.same u = true
  | [] => by simp [eachIn]
  | t :: ts => by
    rw [eachIn, Bool.and_eq_true, List.any_eq_true, eachIn_iff us ts, List.forall_mem_cons]

theorem someSame_iff (u : Annotation) : ∀ ts : List Annotation,
    someSame ts u = true ↔ ∃ t ∈ ts, t.same u = true
  | [] => by simp [someSame]
  | t :: ts => by
    rw [someSame, Bool.or_eq_true, someSame_iff u ts, List.exists_mem_cons_iff]

/-- The ways in which two annotations are equal, one for each form. The spelling of a union does not
count, nor does the order of its members or of the constants of a choice. -/
inductive EqualBy : Annotation → Annotation → Prop
  | absent : EqualBy .absent .absent
  | cls (c : Class) : EqualBy (.cls c) (.cls c)
  | form (f : NamedForm) : EqualBy (.form f) (.form f)
  | bare (c : Class) : EqualBy (.bare c) (.bare c)
  | generic (s : Spelling) (c : Class) {ts us : List Annotation}
      (h : List.Forall₂ (fun t u => t.same u = true) ts us) :
      EqualBy (.generic s c ts) (.generic s c us)
  | union (s r : Spelling) {ts us : List Annotation} (hleft : ∀ t ∈ ts, ∃ u ∈ us, t.same u = true)
      (hright : ∀ u ∈ us, ∃ t ∈ ts, t.same u = true) : EqualBy (.union s ts) (.union r us)
  | literal {vs ws : List Constant} (h : ∀ c, c ∈ vs ↔ c ∈ ws) :
      EqualBy (.literal vs) (.literal ws)
  | annotated (note : String) {t u : Annotation} (h : t.same u = true) :
      EqualBy (.annotated t note) (.annotated u note)
  | params {ts us : List Annotation} (h : List.Forall₂ (fun t u => t.same u = true) ts us) :
      EqualBy (.params ts) (.params us)
  | forward (name : String) : EqualBy (.forward name) (.forward name)
  | value {c d : Constant} (h : c.same d = true) : EqualBy (.value c) (.value d)

/-- **Two annotations are equal exactly in one of the ways.** -/
theorem same_iff (t u : Annotation) : t.same u = true ↔ EqualBy t u := by
  constructor
  · intro h
    cases t <;> cases u <;>
      simp only [same, Bool.and_eq_true, beq_iff_eq, sameList_iff, eachIn_iff, List.all_eq_true,
        someSame_iff, List.contains_iff_mem, Bool.false_eq_true] at h
    · exact .absent
    · exact h ▸ .cls _
    · exact h ▸ .form _
    · exact h ▸ .bare _
    · obtain ⟨⟨rfl, rfl⟩, h⟩ := h
      exact .generic _ _ h
    · exact .union _ _ h.1 h.2
    · exact .literal fun c => ⟨h.1 c, h.2 c⟩
    · obtain ⟨rfl, h⟩ := h
      exact .annotated _ h
    · exact .params h
    · exact h ▸ .forward _
    · exact .value h
  · rintro (_ | _ | _ | _ | ⟨s, c, h⟩ | ⟨s, r, hleft, hright⟩ | h | ⟨note, h⟩ | h | _ | h)
    case generic => simp [same, sameList_iff, h]
    case union =>
      rw [same, Bool.and_eq_true, eachIn_iff, List.all_eq_true]
      exact ⟨hleft, fun u hu => (someSame_iff u _).mpr (hright u hu)⟩
    case literal => simp [same, h]
    case params => rw [same, sameList_iff]; exact h
    all_goals simp [same, *]

theorem same_symm (h : t.same u = true) : u.same t = true := by
  induction t using partsInduction generalizing u with
  | step t ih =>
    have hall {ts us : List Annotation} (hts : ∀ x ∈ ts, x ∈ t.parts)
        (h : List.Forall₂ (fun x y => x.same y = true) ts us) :
        List.Forall₂ (fun x y => x.same y = true) us ts := by
      have hboth := (List.forall₂_and_left ts us).mpr ⟨hts, h⟩
      exact (hboth.imp fun x y hxy => ih x hxy.1 hxy.2).flip
    rw [same_iff] at h ⊢
    cases h with
    | generic s c h => exact .generic s c (hall (fun _ hx => hx) h)
    | union s r hleft hright =>
      refine .union r s (fun y hy => ?_) fun x hx => ?_
      · obtain ⟨x, hx, hxy⟩ := hright y hy
        exact ⟨x, hx, ih x hx hxy⟩
      · obtain ⟨y, hy, hxy⟩ := hleft x hx
        exact ⟨y, hy, ih x hx hxy⟩
    | literal h => exact .literal fun c => (h c).symm
    | annotated note h => exact .annotated note (ih _ List.mem_cons_self h)
    | params h => exact .params (hall (fun _ hx => hx) h)
    | value h => exact .value (Constant.same_symm h)
    | _ => constructor

theorem forall₂_trans_of_mem {R : Annotation → Annotation → Prop}
    (hR : ∀ x ∈ ts, ∀ y z, R x y → R y z → R x z) (h : List.Forall₂ R ts us)
    (h' : List.Forall₂ R us vs) : List.Forall₂ R ts vs := by
  induction h generalizing vs with
  | nil => exact h'
  | cons hxy _ ih =>
    obtain ⟨hhead, htail⟩ := List.forall_mem_cons.mp hR
    cases h' with
    | cons hyz h' => exact .cons (hhead _ _ hxy hyz) (ih htail h')

theorem same_trans (htu : t.same u = true) (huv : u.same v = true) : t.same v = true := by
  induction t using partsInduction generalizing u v with
  | step t ih =>
    have hparts : ∀ x ∈ t.parts, ∀ y z, x.same y = true → y.same z = true → x.same z = true :=
      fun x hx _ _ => ih x hx
    rw [same_iff] at htu huv ⊢
    cases htu with
    | generic s c h =>
      cases huv with
      | generic _ _ h' => exact .generic s c (forall₂_trans_of_mem hparts h h')
    | union s r hleft hright =>
      cases huv with
      | union _ r' hleft' hright' =>
        refine .union s r' (fun x hx => ?_) fun z hz => ?_
        · obtain ⟨y, hy, hxy⟩ := hleft x hx
          obtain ⟨z, hz, hyz⟩ := hleft' y hy
          exact ⟨z, hz, ih x hx hxy hyz⟩
        · obtain ⟨y, hy, hyz⟩ := hright' z hz
          obtain ⟨x, hx, hxy⟩ := hright y hy
          exact ⟨x, hx, ih x hx hxy hyz⟩
    | literal h => cases huv with | literal h' => exact .literal fun c => (h c).trans (h' c)
    | annotated note h =>
      cases huv with
      | annotated _ h' => exact .annotated note (ih _ List.mem_cons_self h h')
    | params h => cases huv with | params h' => exact .params (forall₂_trans_of_mem hparts h h')
    | value h => cases huv with | value h' => exact .value (Constant.same_trans h h')
    | _ => exact huv

/-! ### What equality keeps -/

theorem same_cls_iff {c : Class} : t.same (.cls c) = true ↔ t = .cls c := by
  rw [same_iff]
  constructor
  · rintro ⟨_⟩
    rfl
  · rintro rfl
    exact .cls c

theorem same_normal (h : t.same u = true) : t.normal.same u.normal = true := by
  cases (same_iff t u).mp h with
  | absent => exact same_cls_iff.mpr rfl
  | _ => exact h

theorem exists_getLast?_of_forall₂ {R : Annotation → Annotation → Prop}
    (h : List.Forall₂ R ts us) (ht : ts.getLast? = some t) : ∃ u, us.getLast? = some u ∧ R t u := by
  induction h with
  | nil => cases ht
  | cons hxy h ih =>
    cases h with
    | nil => exact ⟨_, rfl, Option.some.inj ht ▸ hxy⟩
    | cons => exact ih ht

theorem exists_mem_of_forall₂ {R : Annotation → Annotation → Prop} (h : List.Forall₂ R ts us)
    (ht : t ∈ ts) : ∃ u ∈ us, R t u := by
  induction h with
  | nil => cases ht
  | cons hxy h ih =>
    rcases List.mem_cons.mp ht with rfl | ht
    · exact ⟨_, List.mem_cons_self, hxy⟩
    · obtain ⟨u, hu, h⟩ := ih ht
      exact ⟨u, List.mem_cons_of_mem _ hu, h⟩

end Annotation

end HandlerBundle
