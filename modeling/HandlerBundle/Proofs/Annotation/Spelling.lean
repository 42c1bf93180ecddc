import HandlerBundle.Proofs.Annotation.Assignable

/-!
# Spellings of one annotation

Equal annotations can be spelled differently: a union with bars or through its alias, its members
and the constants of a choice in any order. Whether one annotation satisfies another mostly does not
depend on it. It does at a level where a union meets a slot that is a class, or its alias, and the
union's own class is counted under it, since only a union spelled with bars is built over that
class; and where two choices offer constants of different types that are equal by value, since the
constants are then compared in their order.

## Main definitions

* `Annotation.Alike` — the same annotation, or an equal one.
* `Annotation.SpellingMatters` — the pairs of annotations whose comparison looks at their spelling.

## Main results

* `Annotation.Satisfies.congr` — the rules do not tell spellings apart where these do not matter.
* `Annotation.isAssignable_congr` — equal annotations are interchangeable at all other levels.
* `Annotation.isAssignable_union_cls_iff` — which classes take a union, by its spelling.
-/

namespace HandlerBundle

namespace Annotation

variable {t t' u u' r s : Annotation} {ts ts' us us' : List Annotation}

/-! ### Annotations that are alike -/

/-- The same annotation, or an equal one. -/
def Alike (t u : Annotation) : Prop :=
  t = u ∨ t.same u = true

namespace Alike

theorem refl (t : Annotation) : t.Alike t := .inl rfl

theorem symm (h : t.Alike u) : u.Alike t :=
  h.imp Eq.symm same_symm

/-- What is alike is equal to the same annotations. -/
theorem same (ht : t.Alike t') (hu : u.Alike u') (h : t.same u = true) : t'.same u' = true := by
  have h' : t'.same u = true := by
    rcases ht with rfl | ht
    · exact h
    · exact same_trans (same_symm ht) h
  rcases hu with rfl | hu
  · exact h'
  · exact same_trans h' hu

theorem normal (h : t.Alike u) : t.normal.Alike u.normal := by
  rcases h with rfl | h
  · exact refl _
  · exact .inr (same_normal h)

end Alike

/-! ### What likeness keeps -/

/-- The class that an annotation is, stands for, or is a generic over. -/
def class? : Annotation → Option Class
  | .absent => some (.known .noneType)
  | .cls c | .bare c | .generic _ c _ => some c
  | _ => none

/-- The class that an annotation is an alias of or a generic over. -/
def head? : Annotation → Option Class
  | .bare c | .generic _ c _ => some c
  | _ => none

/-- An annotation is a union, of either spelling. -/
def IsUnion (t : Annotation) : Prop :=
  ∃ spelling ts, t = .union spelling ts

/-- An annotation is a choice of constants. -/
def IsChoice (t : Annotation) : Prop :=
  ∃ vs, t = .literal vs

theorem class?_of_normal_eq_cls {c : Class} (h : t.normal = .cls c) : t.class? = some c := by
  cases t <;> cases h <;> rfl

namespace Alike

theorem of_union {spelling : Spelling} (h : (union spelling ts).Alike u) :
    ∃ r us, u = .union r us ∧ (.absent ∈ ts → .absent ∈ us) ∧ (ts = [] → us = []) := by
  rcases h with rfl | h
  · exact ⟨spelling, ts, rfl, id, id⟩
  · cases (same_iff _ _).mp h with
    | @union _ r _ us hleft hright =>
      refine ⟨r, us, rfl, fun habsent => ?_, fun hnil => ?_⟩
      · obtain ⟨u, hu, h⟩ := hleft _ habsent
        cases (same_iff _ _).mp h
        exact hu
      · refine List.eq_nil_iff_forall_not_mem.mpr fun u hu => ?_
        obtain ⟨t, ht, -⟩ := hright u hu
        exact List.not_mem_nil (hnil ▸ ht)

theorem of_literal {vs : List Constant} (h : (literal vs).Alike u) :
    ∃ ws, u = .literal ws ∧ ∀ c, c ∈ vs ↔ c ∈ ws := by
  rcases h with rfl | h
  · exact ⟨vs, rfl, fun _ => Iff.rfl⟩
  · cases (same_iff _ _).mp h with
    | literal hmem => exact ⟨_, rfl, hmem⟩

theorem of_cls {c : Class} (h : (cls c).Alike u) : u = .cls c := by
  rcases h with rfl | h
  · rfl
  · exact same_cls_iff.mp (same_symm h)

theorem class?_eq (h : t.Alike u) : u.class? = t.class? := by
  rcases h with rfl | h
  · rfl
  · cases (same_iff _ _).mp h <;> rfl

theorem head?_eq (h : t.Alike u) : u.head? = t.head? := by
  rcases h with rfl | h
  · rfl
  · cases (same_iff _ _).mp h <;> rfl

/-- Unions apart, what is alike is built over the same. -/
theorem origin?_eq (h : t.Alike u) (ht : ¬t.IsUnion) : u.origin? = t.origin? := by
  rcases h with rfl | h
  · rfl
  · cases (same_iff _ _).mp h with
    | @union spelling _ ts => exact absurd ⟨spelling, ts, rfl⟩ ht
    | _ => rfl

/-- Unions and choices apart, what is alike has like arguments, place by place. -/
theorem args (h : t.Alike u) (hunion : ¬t.IsUnion) (hchoice : ¬t.IsChoice) :
    List.Forall₂ Alike t.args u.args := by
  rcases h with rfl | h
  · exact List.forall₂_same.mpr fun _ _ => refl _
  · cases (same_iff _ _).mp h with
    | generic _ _ hargs => exact hargs.imp fun _ _ => .inr
    | @union spelling _ ts => exact absurd ⟨spelling, ts, rfl⟩ hunion
    | @literal vs => exact absurd ⟨vs, rfl⟩ hchoice
    | annotated _ ht => exact .cons (.inr ht) (.cons (refl _) .nil)
    | _ => exact .nil

theorem args_eq_nil (h : t.Alike u) (ht : t.args = []) : u.args = [] := by
  by_cases hunion : t.IsUnion
  · obtain ⟨spelling, ts, rfl⟩ := hunion
    obtain ⟨r, us, rfl, -, hnil⟩ := h.of_union
    exact hnil ht
  by_cases hchoice : t.IsChoice
  · obtain ⟨vs, rfl⟩ := hchoice
    obtain ⟨ws, rfl, hmem⟩ := h.of_literal
    obtain rfl : vs = [] := List.map_eq_nil_iff.mp ht
    obtain rfl : ws = [] :=
      List.eq_nil_iff_forall_not_mem.mpr fun c hc => List.not_mem_nil ((hmem c).mpr hc)
    rfl
  · have hargs := h.args hunion hchoice
    rw [ht] at hargs
    exact List.forall₂_nil_left_iff.mp hargs

theorem result? (h : t.Alike u) (ht : t.result? = some r) :
    ∃ s, u.result? = some s ∧ r.Alike s := by
  rcases h with rfl | h
  · exact ⟨r, ht, refl r⟩
  · obtain ⟨spelling, c, ts, rfl, hr⟩ := result?_eq_some ht
    cases (same_iff _ _).mp h with
    | generic _ _ hargs =>
      obtain ⟨s, hs, hrs⟩ := exists_getLast?_of_forall₂ hargs hr
      exact ⟨s, hs, .inr hrs⟩

end Alike

theorem sameArgs_iff (ts us : List Annotation) :
    sameArgs ts us = true ↔
      List.Forall₂ (fun t u => t.normal.same u.normal = true) ts us := by
  rw [sameArgs, sameList_iff, List.forall₂_map_left_iff, List.forall₂_map_right_iff]

theorem sameArgs_congr (hts : List.Forall₂ Alike ts ts') (hus : List.Forall₂ Alike us us')
    (h : sameArgs ts us = true) : sameArgs ts' us' = true := by
  rw [sameArgs_iff] at h ⊢
  induction h generalizing ts' us' with
  | nil =>
    cases hts
    cases hus
    exact .nil
  | cons h _ ih =>
    cases hts with
    | cons ht hts =>
      cases hus with
      | cons hu hus => exact .cons (ht.normal.same hu.normal h) (ih hts hus)

/-! ### Where spelling matters -/

/-- The class that unions spelled with bars are built over. -/
def unionClass : Class := .known .unionType

/-- Two annotations are compared by more than what their equality keeps. -/
inductive SpellingMatters : Annotation → Annotation → Prop
  /-- A union meets a class, or its alias, that the class of unions is counted under. -/
  | unionAsClass {spelling : Spelling} {ts : List Annotation} {u : Annotation} {d : Class}
      (hu : u.class? = some d) (hd : unionClass.isSubclass d = true) :
      SpellingMatters (.union spelling ts) u
  /-- A generic over a class that is counted under the class of unions meets a union. There is no
  such class. -/
  | classAsUnion {spelling : Spelling} {us : List Annotation} {t : Annotation} {c : Class}
      (ht : t.head? = some c) (hc : c.isSubclass unionClass = true) :
      SpellingMatters t (.union spelling us)
  /-- Two unions meet that cannot be written: one has the absent value itself for a member, where
  there would be its class, or the slot has no members. -/
  | unwritableUnion {spelling spelling' : Spelling} {ts us : List Annotation}
      (h : .absent ∈ ts ∨ .absent ∈ us ∨ us = []) :
      SpellingMatters (.union spelling ts) (.union spelling' us)
  /-- Two choices meet that offer constants which are different but equal by value. -/
  | choice {vs ws : List Constant} {c d : Constant} (hc : c ∈ vs) (hd : d ∈ ws)
      (hsame : c.same d = true) (hne : c ≠ d) : SpellingMatters (.literal vs) (.literal ws)

theorem SpellingMatters.congr (h : SpellingMatters t u) (ht : t.Alike t') (hu : u.Alike u') :
    SpellingMatters t' u' := by
  cases h with
  | unionAsClass hclass hd =>
    obtain ⟨_, _, rfl, -⟩ := ht.of_union
    exact .unionAsClass (hu.class?_eq.trans hclass) hd
  | classAsUnion hhead hc =>
    obtain ⟨_, _, rfl, -⟩ := hu.of_union
    exact .classAsUnion (ht.head?_eq.trans hhead) hc
  | unwritableUnion h =>
    obtain ⟨_, _, rfl, habsent, -⟩ := ht.of_union
    obtain ⟨_, _, rfl, habsent', hnil⟩ := hu.of_union
    exact .unwritableUnion (h.imp habsent (Or.imp habsent' hnil))
  | choice hc hd hsame hne =>
    obtain ⟨_, rfl, hvs⟩ := ht.of_literal
    obtain ⟨_, rfl, hws⟩ := hu.of_literal
    exact .choice ((hvs _).mp hc) ((hws _).mp hd) hsame hne

/-- What fits is built over classes, or over the same form. -/
theorem Fits.over (h : t.Fits u) :
    (∃ c d, t.origin? = some (.cls c) ∧ u.origin? = some (.cls d) ∧
      (c = d ∨ c.isSubclass d = true)) ∨
    ∃ f, t.origin? = some (.form f) ∧ u.origin? = some (.form f) := by
  obtain ⟨o, p, ho, hp, hfit | hfit⟩ := h
  · obtain ⟨c, rfl⟩ | ⟨f, rfl⟩ := origin?_cases ho
    · cases (same_iff _ _).mp hfit
      exact .inl ⟨c, c, ho, hp, .inl rfl⟩
    · cases (same_iff _ _).mp hfit
      exact .inr ⟨f, ho, hp⟩
  · obtain ⟨c, d, rfl, rfl, hcd⟩ := (isSubclass_iff _ _).mp hfit
    exact .inl ⟨c, d, ho, hp, .inr hcd⟩

/-- Where the spelling does not matter, a union fits unions only, and only unions fit it. -/
theorem Fits.isUnion_iff (h : t.Fits u) (hsteady : ¬SpellingMatters t u) :
    t.IsUnion ↔ u.IsUnion := by
  obtain ⟨c, d, ht, hu, hcd⟩ | ⟨f, ht, hu⟩ := h.over
  · constructor
    · rintro ⟨spelling, ts, rfl⟩
      obtain rfl : unionClass = c := by cases spelling <;> cases ht; rfl
      have hd : unionClass.isSubclass d = true := by
        rcases hcd with rfl | hcd
        · rfl
        · exact hcd
      cases u with
      | union r us => exact ⟨r, us, rfl⟩
      | bare | generic => cases hu; exact absurd (.unionAsClass rfl hd) hsteady
      | annotated => cases hu; cases hd
      | _ => cases hu
    · rintro ⟨spelling, us, rfl⟩
      obtain rfl : unionClass = d := by cases spelling <;> cases hu; rfl
      have hc : c.isSubclass unionClass = true := by
        rcases hcd with rfl | hcd
        · rfl
        · exact hcd
      cases t with
      | union r ts => exact ⟨r, ts, rfl⟩
      | bare | generic => cases ht; exact absurd (.classAsUnion rfl hc) hsteady
      | annotated => cases ht; cases hc
      | _ => cases ht
  · cases t with
    | union spelling ts =>
      cases u with
      | union spelling' us => exact ⟨fun _ => ⟨_, _, rfl⟩, fun _ => ⟨_, _, rfl⟩⟩
      | literal => cases spelling <;> cases ht; simp [origin?] at hu
      | _ => cases hu
    | literal =>
      cases u with
      | union spelling us => cases spelling <;> cases hu; simp [origin?] at ht
      | literal => simp [IsUnion]
      | _ => cases hu
    | _ => cases ht

/-- Unions apart, a choice fits choices only, and only choices fit it. -/
theorem Fits.isChoice_iff (h : t.Fits u) (ht : ¬t.IsUnion) (hu : ¬u.IsUnion) :
    t.IsChoice ↔ u.IsChoice := by
  obtain ⟨c, d, ho, hp, -⟩ | ⟨f, ho, hp⟩ := h.over
  · constructor
    · rintro ⟨vs, rfl⟩
      cases ho
    · rintro ⟨ws, rfl⟩
      cases hp
  · have hchoice {x : Annotation} (hx : ¬x.IsUnion) (ho : x.origin? = some (.form f)) :
        x.IsChoice := by
      cases x with
      | literal vs => exact ⟨vs, rfl⟩
      | union spelling ts => exact absurd ⟨spelling, ts, rfl⟩ hx
      | _ => cases ho
    exact ⟨fun _ => hchoice hu hp, fun _ => hchoice ht ho⟩

theorem Fits.congr (h : t.Fits u) (ht : t.Alike t') (hu : u.Alike u') (htunion : ¬t.IsUnion)
    (huunion : ¬u.IsUnion) : t'.Fits u' := by
  obtain ⟨o, p, ho, hp, hfit⟩ := h
  exact ⟨o, p, (ht.origin?_eq htunion).trans ho, (hu.origin?_eq huunion).trans hp, hfit⟩

theorem IsWrapper.not_isUnion (h : t.IsWrapper) : ¬t.IsUnion := by
  rintro ⟨spelling, ts, rfl⟩
  exact not_isWrapper_union spelling ts h

theorem IsWrapper.congr (h : t.IsWrapper) (ht : t.Alike t') : t'.IsWrapper := by
  obtain ⟨o, ho, hdeferred⟩ := id h
  exact ⟨o, (ht.origin?_eq h.not_isUnion).trans ho, hdeferred⟩

theorem not_isUnion_of_result? (h : t.result? = some r) : ¬t.IsUnion := by
  rintro ⟨spelling, ts, rfl⟩
  cases h

/-- What is alike comes down to what is alike. -/
theorem ComesDownTo.congr (h : t.ComesDownTo u r s) (ht : t.Alike t') (hu : u.Alike u') :
    ∃ r' s', t'.ComesDownTo u' r' s' ∧ r.Alike r' ∧ s.Alike s' := by
  obtain ⟨r', hr', hrr⟩ := ht.result? h.left
  obtain ⟨s', hs', hss⟩ := hu.result? h.right
  have hfits := h.fits.congr ht hu (not_isUnion_of_result? h.left) (not_isUnion_of_result? h.right)
  exact ⟨r', s', ⟨hfits, h.isWrapper.congr hu, hr', hs'⟩, hrr, hss⟩

theorem AtSomeLevel.congr {P : Annotation → Annotation → Prop}
    (hP : ∀ {t t' u u'}, P t u → t.Alike t' → u.Alike u' → P t' u') (h : AtSomeLevel P t u)
    (ht : t.Alike t') (hu : u.Alike u') : AtSomeLevel P t' u' := by
  induction h generalizing t' u' with
  | here h => exact .here (hP h ht hu)
  | deeper hlevel _ ih =>
    obtain ⟨r', s', hlevel', hr, hs⟩ := hlevel.congr ht hu
    exact .deeper hlevel' (ih hr hs)

/-! ### Equal annotations -/

/-- Unions whose arguments agree are equal, unless they cannot be written. -/
theorem same_union_of_sameArgs {spelling spelling' : Spelling}
    (hsteady : ¬SpellingMatters (.union spelling ts) (.union spelling' us))
    (h : sameArgs ts us = true) : (union spelling ts).same (union spelling' us) = true := by
  have hnormal (xs : List Annotation) (habsent : .absent ∉ xs) : xs.map normal = xs := by
    refine (List.map_congr_left fun x hx => ?_).trans (List.map_id xs)
    cases x with
    | absent => exact absurd hx habsent
    | _ => rfl
  have hts : ts.map normal = ts := hnormal ts fun h => hsteady (.unwritableUnion (.inl h))
  have hus : us.map normal = us := hnormal us fun h => hsteady (.unwritableUnion (.inr (.inl h)))
  rw [sameArgs, hts, hus, sameList_iff] at h
  rw [same_iff]
  refine .union _ _ (fun t ht => ?_) fun u hu => ?_
  · exact exists_mem_of_forall₂ h ht
  · obtain ⟨t, ht, h⟩ := exists_mem_of_forall₂ h.flip hu
    exact ⟨t, ht, h⟩

theorem eq_or_same_of_ofConstant {c d : Constant}
    (h : (ofConstant c).normal.same (ofConstant d).normal = true) : c = d ∨ c.same d = true := by
  cases c <;> cases d <;> cases (same_iff _ _).mp h <;>
    first
    | exact .inl rfl
    | exact .inr ‹_›

/-- Choices whose arguments agree are equal, unless constants of theirs are equal by value only. -/
theorem same_literal_of_sameArgs {vs ws : List Constant}
    (hsteady : ¬SpellingMatters (.literal vs) (.literal ws))
    (h : sameArgs (vs.map ofConstant) (ws.map ofConstant) = true) :
    (literal vs).same (literal ws) = true := by
  have hall : ∀ c ∈ vs, ∀ d ∈ ws, c.same d = true → c = d := fun c hc d hd hsame =>
    by_contra fun hne => hsteady (.choice hc hd hsame hne)
  have heq : vs = ws := by
    rw [sameArgs_iff, List.forall₂_map_left_iff, List.forall₂_map_right_iff] at h
    clear hsteady
    induction h with
    | nil => rfl
    | cons h _ ih =>
      obtain ⟨hhead, htail⟩ := List.forall_mem_cons.mp hall
      rw [ih fun c hc d hd => htail c hc d (List.mem_cons_of_mem _ hd)]
      rcases eq_or_same_of_ofConstant h with rfl | h
      · rfl
      · rw [hhead _ List.mem_cons_self h]
  rw [same_iff, heq]
  exact .literal fun _ => Iff.rfl

/-- **Equal annotations satisfy the same slots**, and are satisfied by the same, where the spelling
does not matter at any level. -/
theorem Satisfies.congr (h : t.Satisfies u) (ht : t.Alike t') (hu : u.Alike u')
    (hsteady : ¬AtSomeLevel SpellingMatters t u) : t'.Satisfies u' := by
  induction h generalizing t' u' with
  | equal h => exact .equal (ht.normal.same hu.normal h)
  | anything h => exact .anything (hu.normal.same (.refl any) h)
  | @subclass t u h =>
    obtain ⟨c, d, hroot, hd, hcd⟩ := (isSubclass_iff _ _).mp h
    have hu' : u'.normal = .cls d := (hd ▸ hu.normal).of_cls
    refine .subclass ((isSubclass_iff _ _).mpr ⟨c, d, ?_, hu', hcd⟩)
    by_cases htunion : t.IsUnion
    · obtain ⟨spelling, ts, rfl⟩ := htunion
      obtain rfl : unionClass = c := by cases spelling <;> cases hroot; rfl
      exact absurd (.here (.unionAsClass (class?_of_normal_eq_cls hd) hcd)) hsteady
    · rw [root] at hroot ⊢
      rw [ht.origin?_eq htunion]
      cases ho : t.origin? with
      | some o => rwa [ho] at hroot
      | none =>
        rw [ho] at hroot
        exact (hroot ▸ ht.normal : (cls c).Alike t'.normal).of_cls
  | @bare t u hfits h =>
    have hiff := hfits.isUnion_iff fun h => hsteady (.here h)
    by_cases htunion : t.IsUnion
    · obtain ⟨_, us, rfl⟩ := hiff.mp htunion
      obtain ⟨_, ts, rfl⟩ := htunion
      exact absurd (.here (.unwritableUnion (.inr (.inr h)))) hsteady
    · exact .bare (hfits.congr ht hu htunion (mt hiff.mpr htunion)) (hu.args_eq_nil h)
  | result hlevel h ih =>
    obtain ⟨r', s', hlevel', hr, hs⟩ := hlevel.congr ht hu
    exact .result hlevel' (ih hr hs fun h => hsteady (.deeper hlevel h))
  | @exact t u hfits hslot h =>
    have hsteady : ¬SpellingMatters t u := fun h => hsteady (.here h)
    have hiff := hfits.isUnion_iff hsteady
    by_cases htunion : t.IsUnion
    · obtain ⟨_, us, rfl⟩ := hiff.mp htunion
      obtain ⟨_, ts, rfl⟩ := htunion
      exact .equal (same_normal (ht.same hu (same_union_of_sameArgs hsteady h)))
    have huunion := mt hiff.mpr htunion
    by_cases htchoice : t.IsChoice
    · obtain ⟨ws, rfl⟩ := (hfits.isChoice_iff htunion huunion).mp htchoice
      obtain ⟨vs, rfl⟩ := htchoice
      exact .equal (same_normal (ht.same hu (same_literal_of_sameArgs hsteady h)))
    · have huchoice := mt (hfits.isChoice_iff htunion huunion).mpr htchoice
      refine .exact (hfits.congr ht hu htunion huunion) (fun h => hslot (h.congr hu.symm)) ?_
      exact sameArgs_congr (ht.args htunion htchoice) (hu.args huunion huchoice) h

/-- **Equal annotations are interchangeable**, as values and as slots, where the spelling does not
matter at any level. -/
theorem isAssignable_congr (ht : t.same t' = true) (hu : u.same u' = true)
    (hsteady : ¬AtSomeLevel SpellingMatters t u) : t.isAssignable u = t'.isAssignable u' := by
  have hsteady' : ¬AtSomeLevel SpellingMatters t' u' := fun h =>
    hsteady (h.congr SpellingMatters.congr ( Alike.symm (.inr ht)) ( Alike.symm (.inr hu)))
  rw [Bool.eq_iff_iff, isAssignable_iff, isAssignable_iff]
  exact ⟨fun h => h.congr (.inr ht) (.inr hu) hsteady,
    fun h => h.congr ( Alike.symm (.inr ht)) ( Alike.symm (.inr hu)) hsteady'⟩

/-- A class takes a union exactly if it takes the union's own class and the union is spelled with
bars. -/
theorem isAssignable_union_cls_iff (spelling : Spelling) (ts : List Annotation) {d : Class}
    (hd : d ≠ .known .any) :
    (union spelling ts).isAssignable (.cls d) = true ↔
      spelling = .direct ∧ unionClass.isSubclass d = true := by
  have hslot : ¬(cls d).IsWrapper := by
    rintro ⟨_, ⟨⟩, -⟩
  rw [isAssignable_iff, satisfies_iff_of_not_isWrapper hslot]
  constructor
  · rintro ((h | h | ⟨⟨_, _, _, ⟨⟩, _⟩, _⟩) | (h | ⟨⟨_, _, _, ⟨⟩, _⟩, _⟩))
    · cases same_cls_iff.mp h
      exact absurd rfl hd
    · cases spelling with
      | direct => exact ⟨rfl, h⟩
      | aliased => cases h
    · cases same_cls_iff.mp h
  · rintro ⟨rfl, h⟩
    exact .inl (.subclass h)

example :
    let members : List Annotation := [.cls (.known .int), .cls (.known .str)]
    (union .aliased members).isAssignable (.cls (.known .object)) = false ∧
      (union .direct members).isAssignable (.cls (.known .object)) = true := by
  cbv

/-! ### An optional number in two spellings -/

/-- An optional number, spelled through the alias of unions. -/
def numberOrNone : Annotation := .union .aliased [.cls (.known .int), noneType]

/-- An optional number, spelled with bars and in the other order. -/
def noneOrNumber : Annotation := .union .direct [noneType, .cls (.known .int)]

/-- A future of the given annotation. -/
def futureOf (t : Annotation) : Annotation := .generic .direct (.known .future) [t]

/-- The two levels at which a future meets a deferred slot compare two generics and two unions that
can be written. -/
theorem spelling_steady_numberOrNone :
    ¬AtSomeLevel SpellingMatters (futureOf numberOrNone) (deferred noneOrNumber) := by
  rintro (⟨⟨⟩⟩ | ⟨hlevel, h⟩)
  cases hlevel.left
  cases hlevel.right
  cases h with
  | deeper hlevel => cases hlevel.left
  | here h =>
    cases h with
    | unionAsClass h => cases h
    | classAsUnion h => cases h
    | unwritableUnion h => simp [noneType] at h

theorem isAssignable_congr_optionalNumber :
    (futureOf numberOrNone).same (futureOf noneOrNumber) = true ∧
      (deferred noneOrNumber).same (deferred numberOrNone) = true ∧
      ¬AtSomeLevel SpellingMatters (futureOf numberOrNone) (deferred noneOrNumber) ∧
      (futureOf numberOrNone).isAssignable (deferred noneOrNumber) =
        (futureOf noneOrNumber).isAssignable (deferred numberOrNone) :=
  have ht : (futureOf numberOrNone).same (futureOf noneOrNumber) = true := by cbv
  have hu : (deferred noneOrNumber).same (deferred numberOrNone) = true := by cbv
  have hsteady := spelling_steady_numberOrNone
  ⟨ht, hu, hsteady, isAssignable_congr ht hu hsteady⟩

end Annotation

end HandlerBundle
