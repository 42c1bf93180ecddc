import HandlerBundle.Proofs.Annotation.Assignable

/-!
# The absent value and its class

The absent value stands for its class. A comparison writes the class out for it at each level, and
in the arguments that it compares, but no deeper: below them the absent value and its class are
different annotations. So an annotation satisfies a slot exactly if it does with the class written
out everywhere, and if at no level the two agree only once it is.

## Main definitions

* `Annotation.spelledOut` — an annotation with the class for each absent value.
* `Annotation.AgreesOnlySpelledOut` — the pairs whose comparison tells the absent value from its
  class.

## Main results

* `Annotation.isAssignable_iff_spelledOut` — what writing the class out changes.
* `Annotation.isAssignable_eq_of_spelledOut_eq` — elsewhere the absent value and its class are
  interchangeable.
-/

namespace HandlerBundle

namespace Annotation

variable {t t' u u' r s : Annotation} {ts us : List Annotation}

/-- An annotation with the class written out for each absent value in it, the offers of a choice
apart. -/
def spelledOut : Annotation → Annotation
  | .absent => noneType
  | .generic spelling c ts => .generic spelling c (ts.map spelledOut)
  | .union spelling ts => .union spelling (ts.map spelledOut)
  | .annotated t note => .annotated t.spelledOut note
  | .params ts => .params (ts.map spelledOut)
  | t => t

/-! ### What writing the class out keeps -/

@[simp] theorem spelledOut_normal (t : Annotation) : t.normal.spelledOut = t.spelledOut := by
  cases t <;> simp [normal, noneType, spelledOut]

@[simp] theorem normal_spelledOut (t : Annotation) : t.spelledOut.normal = t.spelledOut := by
  cases t <;> simp [normal, noneType, spelledOut]

@[simp] theorem origin?_spelledOut (t : Annotation) : t.spelledOut.origin? = t.origin? := by
  cases t with
  | union spelling => cases spelling <;> simp [origin?, spelledOut]
  | _ => simp [origin?, noneType, spelledOut]

@[simp] theorem args_spelledOut_eq_nil_iff (t : Annotation) :
    t.spelledOut.args = [] ↔ t.args = [] := by
  cases t <;> simp [args, noneType, spelledOut]

@[simp] theorem result?_spelledOut (t : Annotation) :
    t.spelledOut.result? = t.result?.map spelledOut := by
  cases t <;> simp [result?, noneType, spelledOut]

theorem spelledOut_eq_cls_iff {c : Class} : t.spelledOut = .cls c ↔ t.normal = .cls c := by
  cases t <;> simp [normal, noneType, spelledOut]

theorem map_normal_args_spelledOut (t : Annotation) :
    t.spelledOut.args.map normal = t.args.map spelledOut := by
  cases t with
  | literal vs =>
    simp only [spelledOut, args, List.map_map]
    refine List.map_congr_left fun c _ => ?_
    cases c <;> simp [ofConstant, normal, spelledOut]
  | annotated t note =>
    simp only [spelledOut, args, List.map_cons, List.map_nil, normal_spelledOut]
    rfl
  | _ => simp [args, noneType, spelledOut]

@[simp] theorem fits_spelledOut_iff : t.spelledOut.Fits u.spelledOut ↔ t.Fits u := by
  simp only [Fits, origin?_spelledOut]

@[simp] theorem isWrapper_spelledOut_iff : u.spelledOut.IsWrapper ↔ u.IsWrapper := by
  simp only [IsWrapper, origin?_spelledOut]

theorem comesDownTo_spelledOut_iff :
    t.spelledOut.ComesDownTo u.spelledOut r s ↔
      ∃ r' s', t.ComesDownTo u r' s' ∧ r'.spelledOut = r ∧ s'.spelledOut = s := by
  constructor
  · rintro ⟨hfits, hwrapper, hr, hs⟩
    rw [result?_spelledOut, Option.map_eq_some_iff] at hr hs
    obtain ⟨r', hr', rfl⟩ := hr
    obtain ⟨s', hs', rfl⟩ := hs
    have hlevel : t.ComesDownTo u r' s' :=
      ⟨fits_spelledOut_iff.mp hfits, isWrapper_spelledOut_iff.mp hwrapper, hr', hs'⟩
    exact ⟨r', s', hlevel, rfl, rfl⟩
  · rintro ⟨r', s', ⟨hfits, hwrapper, hr, hs⟩, rfl, rfl⟩
    refine ⟨fits_spelledOut_iff.mpr hfits, isWrapper_spelledOut_iff.mpr hwrapper, ?_, ?_⟩
    · rw [result?_spelledOut, hr, Option.map_some]
    · rw [result?_spelledOut, hs, Option.map_some]

theorem root_spelledOut_eq_cls_iff {c : Class} : t.spelledOut.root = .cls c ↔ t.root = .cls c := by
  rw [root, root, origin?_spelledOut]
  cases t.origin? with
  | none => rw [Option.getD_none, Option.getD_none, normal_spelledOut, spelledOut_eq_cls_iff]
  | some o => rfl

/-- What covers an annotation does not look inside it. -/
theorem isCoveredBy_spelledOut_iff : t.spelledOut.IsCoveredBy u.spelledOut ↔ t.IsCoveredBy u := by
  have hany : u.spelledOut.normal.same any = true ↔ u.normal.same any = true := by
    rw [normal_spelledOut, any, same_cls_iff, same_cls_iff, spelledOut_eq_cls_iff]
  have hsubclass : t.spelledOut.root.isSubclass u.spelledOut.normal = true ↔
      t.root.isSubclass u.normal = true := by
    simp only [isSubclass_iff, root_spelledOut_eq_cls_iff, normal_spelledOut,
      spelledOut_eq_cls_iff]
  constructor
  · rintro (h | h | ⟨hfits, h⟩)
    · exact .anything (hany.mp h)
    · exact .subclass (hsubclass.mp h)
    · exact .bare (fits_spelledOut_iff.mp hfits) ((args_spelledOut_eq_nil_iff u).mp h)
  · rintro (h | h | ⟨hfits, h⟩)
    · exact .anything (hany.mpr h)
    · exact .subclass (hsubclass.mpr h)
    · exact .bare (fits_spelledOut_iff.mpr hfits) ((args_spelledOut_eq_nil_iff u).mpr h)

/-! ### Equality with the class written out -/

theorem forall₂_map_spelledOut (hparts : ∀ x ∈ ts, ∀ y, x.same y = true →
      x.spelledOut.same y.spelledOut = true)
    (h : List.Forall₂ (fun x y => x.same y = true) ts us) :
    List.Forall₂ (fun x y => x.same y = true) (ts.map spelledOut) (us.map spelledOut) := by
  rw [List.forall₂_map_left_iff, List.forall₂_map_right_iff]
  have hboth := (List.forall₂_and_left ts us).mpr ⟨hparts, h⟩
  exact hboth.imp fun x y hxy => hxy.1 y hxy.2

/-- What is equal stays equal with the class written out. -/
theorem same_spelledOut (hsame : t.same u = true) : t.spelledOut.same u.spelledOut = true := by
  induction t using partsInduction generalizing u with
  | step t ih =>
    have hparts : ∀ x ∈ t.parts, ∀ y, x.same y = true → x.spelledOut.same y.spelledOut = true :=
      fun x hx _ h => ih x hx h
    rw [same_iff]
    cases (same_iff t u).mp hsame with
    | absent =>
      simp only [spelledOut]
      exact .cls _
    | generic spelling c h =>
      simpa only [spelledOut] using .generic spelling c (forall₂_map_spelledOut hparts h)
    | union spelling spelling' hleft hright =>
      simp only [spelledOut]
      refine .union _ _ (fun x' hx' => ?_) fun y' hy' => ?_
      · obtain ⟨x, hx, rfl⟩ := List.mem_map.mp hx'
        obtain ⟨y, hy, h⟩ := hleft x hx
        exact ⟨_, List.mem_map_of_mem hy, hparts x hx y h⟩
      · obtain ⟨y, hy, rfl⟩ := List.mem_map.mp hy'
        obtain ⟨x, hx, h⟩ := hright y hy
        exact ⟨_, List.mem_map_of_mem hx, hparts x hx y h⟩
    | annotated note h =>
      simpa only [spelledOut] using .annotated note (hparts _ List.mem_cons_self _ h)
    | params h => simpa only [spelledOut] using .params (forall₂_map_spelledOut hparts h)
    | _ => simpa only [spelledOut] using (same_iff _ _).mp hsame

/-- What agrees still does with the class written out. -/
theorem AgreesWith.spelledOut (h : t.AgreesWith u) : t.spelledOut.AgreesWith u.spelledOut := by
  have hnormal {x y : Annotation} (h : x.normal.same y.normal = true) :
      x.spelledOut.same y.spelledOut = true := by
    rw [← spelledOut_normal x, ← spelledOut_normal y]
    exact same_spelledOut h
  rcases h with h | ⟨hfits, hargs⟩
  · left
    rw [normal_spelledOut, normal_spelledOut]
    exact hnormal h
  · refine .inr ⟨fits_spelledOut_iff.mpr hfits, ?_⟩
    rw [sameArgs, sameList_iff, List.forall₂_map_left_iff, List.forall₂_map_right_iff] at hargs
    rw [sameArgs, map_normal_args_spelledOut, map_normal_args_spelledOut, sameList_iff,
      List.forall₂_map_left_iff, List.forall₂_map_right_iff]
    exact hargs.imp fun x y => hnormal

/-! ### Assignability -/

/-- The comparison of two annotations tells the absent value from its class: the slot is no wrapper
and does not cover the annotation, and the two agree only once the class is written out. -/
structure AgreesOnlySpelledOut (t u : Annotation) : Prop where
  slot : ¬u.IsWrapper
  uncovered : ¬t.IsCoveredBy u
  spelledOut : t.spelledOut.AgreesWith u.spelledOut
  written : ¬t.AgreesWith u

theorem satisfies_iff_spelledOut (t u : Annotation) :
    t.Satisfies u ↔
      t.spelledOut.Satisfies u.spelledOut ∧ ¬AtSomeLevel AgreesOnlySpelledOut t u := by
  induction t using partsInduction generalizing u with
  | step t ih =>
    by_cases hlevel : ∃ r s, t.ComesDownTo u r s
    · obtain ⟨r, s, hlevel⟩ := hlevel
      have hlevel' := comesDownTo_spelledOut_iff.mpr ⟨r, s, hlevel, rfl, rfl⟩
      rw [satisfies_iff_of_comesDownTo hlevel, satisfies_iff_of_comesDownTo hlevel',
        atSomeLevel_iff_of_comesDownTo (fun h => h.slot hlevel.isWrapper) hlevel]
      exact ih r (mem_parts_of_result? hlevel.left) s
    rw [atSomeLevel_iff_of_not_comesDownTo hlevel]
    by_cases hu : u.IsWrapper
    · have hlevel' : ¬∃ r s, t.spelledOut.ComesDownTo u.spelledOut r s := by
        rintro ⟨r, s, h⟩
        obtain ⟨r, s, h, -, -⟩ := comesDownTo_spelledOut_iff.mp h
        exact hlevel ⟨r, s, h⟩
      rw [satisfies_iff_of_not_comesDownTo hu hlevel,
        satisfies_iff_of_not_comesDownTo (isWrapper_spelledOut_iff.mpr hu) hlevel',
        fits_spelledOut_iff, args_spelledOut_eq_nil_iff]
      exact (and_iff_left fun h => h.slot hu).symm
    · rw [satisfies_iff_of_not_isWrapper hu,
        satisfies_iff_of_not_isWrapper (mt isWrapper_spelledOut_iff.mp hu),
        isCoveredBy_spelledOut_iff]
      constructor
      · rintro (h | h)
        · exact ⟨.inl h, fun hclash => hclash.uncovered h⟩
        · exact ⟨.inr h.spelledOut, fun hclash => hclash.written h⟩
      · rintro ⟨h | h, hclear⟩
        · exact .inl h
        · by_contra hnot
          obtain ⟨huncovered, hwritten⟩ := not_or.mp hnot
          exact hclear ⟨hu, huncovered, h, hwritten⟩

/-- **What writing the class out changes.** An annotation satisfies a slot exactly if it does with
the class for each absent value, and at no level only so. -/
theorem isAssignable_iff_spelledOut (t u : Annotation) :
    t.isAssignable u = true ↔
      t.spelledOut.isAssignable u.spelledOut = true ∧ ¬AtSomeLevel AgreesOnlySpelledOut t u := by
  rw [isAssignable_iff, isAssignable_iff, satisfies_iff_spelledOut]

/-- **The absent value and its class are interchangeable**, at any depth, in annotations whose
comparison does not tell them apart at any level. -/
theorem isAssignable_eq_of_spelledOut_eq (ht : t.spelledOut = t'.spelledOut)
    (hu : u.spelledOut = u'.spelledOut) (hclear : ¬AtSomeLevel AgreesOnlySpelledOut t u)
    (hclear' : ¬AtSomeLevel AgreesOnlySpelledOut t' u') :
    t.isAssignable u = t'.isAssignable u' := by
  rw [Bool.eq_iff_iff, isAssignable_iff_spelledOut, isAssignable_iff_spelledOut t', ht, hu]
  simp only [hclear, hclear', not_false_eq_true, and_true]

/-! ### A mapping without values behind a deferred result -/

/-- A generic of mappings from texts. -/
def mappingTo (c : KnownClass) (t : Annotation) : Annotation :=
  .generic .direct (.known c) [.cls (.known .str), t]

theorem clear_deferredMapping {t u : Annotation} (h : t.normal.same u.normal = true) :
    ¬AtSomeLevel AgreesOnlySpelledOut (deferred (mappingTo .dict t))
      (deferred (mappingTo .mapping u)) := by
  have hslot : ¬(mappingTo .mapping u).IsWrapper := by
    rintro ⟨_, ⟨⟩, ⟨⟩⟩
  have hfits : (mappingTo .dict t).Fits (mappingTo .mapping u) := ⟨_, _, rfl, rfl, .inr rfl⟩
  have hargs : sameArgs (mappingTo .dict t).args (mappingTo .mapping u).args = true := by
    rw [sameArgs, sameList_iff]
    exact .cons (same_cls_iff.mpr rfl) (.cons h .nil)
  have hwrapper : (deferred (mappingTo .mapping u)).IsWrapper := ⟨_, rfl, rfl⟩
  have hlevel : (deferred (mappingTo .dict t)).ComesDownTo (deferred (mappingTo .mapping u))
      (mappingTo .dict t) (mappingTo .mapping u) :=
    ⟨⟨_, _, rfl, rfl, .inr rfl⟩, hwrapper, rfl, rfl⟩
  rw [atSomeLevel_iff_of_comesDownTo (fun h => h.slot hwrapper) hlevel,
    atSomeLevel_iff_of_not_comesDownTo (not_comesDownTo_of_not_isWrapper hslot)]
  exact fun h => h.written (.inr ⟨hfits, hargs⟩)

theorem isAssignable_eq_of_spelledOut_eq_deferredMapping :
    (deferred (mappingTo .dict .absent)).spelledOut =
        (deferred (mappingTo .dict noneType)).spelledOut ∧
      ¬AtSomeLevel AgreesOnlySpelledOut (deferred (mappingTo .dict .absent))
        (deferred (mappingTo .mapping noneType)) ∧
      (deferred (mappingTo .dict .absent)).isAssignable (deferred (mappingTo .mapping noneType)) =
        (deferred (mappingTo .dict noneType)).isAssignable
          (deferred (mappingTo .mapping .absent)) :=
  have hspelled (c : KnownClass) : (deferred (mappingTo c .absent)).spelledOut =
      (deferred (mappingTo c noneType)).spelledOut := by
    simp [deferred, mappingTo, spelledOut, noneType]
  have hsame : noneType.same noneType = true := same_cls_iff.mpr rfl
  have hclear := clear_deferredMapping (t := .absent) (u := noneType) hsame
  have hclear' := clear_deferredMapping (t := noneType) (u := .absent) hsame
  ⟨hspelled .dict, hclear,
    isAssignable_eq_of_spelledOut_eq (hspelled .dict) (hspelled .mapping).symm hclear hclear'⟩

/-- One level deeper in the arguments, the absent value and its class are told apart. -/
example :
    (mappingTo .dict (mappingTo .dict .absent)).isAssignable
        (mappingTo .dict (mappingTo .dict noneType)) = false ∧
      (mappingTo .dict (mappingTo .dict noneType)).isAssignable
        (mappingTo .dict (mappingTo .dict noneType)) = true := by
  cbv

end Annotation

end HandlerBundle
