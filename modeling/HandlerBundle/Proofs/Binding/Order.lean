import HandlerBundle.Proofs.Binding.Plan

/-!
# The order of the attributes

The attributes of a handler stand in the order of its decorators. Each check looks at the handler
only, and the stages count the attributes and ask which names they claim, so the order decides no
more than the order of the errors. A handler that is resolved once more with the attributes it got
comes to the same: the stand-in for a missing result binding counts as one for the result, so that
no second one is added.

## Main results

* `IsClaimed.perm`, `cardinalityStage_perm`, `checkStage_perm` — what the stages see of the order.
* `resolve_attributes_resolve` — a handler resolved once more.
* `resolve_perm` — a handler with its attributes in another order.
-/

namespace HandlerBundle

variable {handler : Descriptor} {as bs : List Attribute}

/-! ### Attributes in another order -/

/-- Attributes in another order fill the same roles. -/
theorem FillRoles.perm (hperm : as.Perm bs) : FillRoles as ↔ FillRoles bs := by
  rw [FillRoles, FillRoles, hperm.countP_eq, hperm.countP_eq]

/-- The second stage counts the attributes. -/
theorem cardinalityStage_perm (hperm : as.Perm bs) : cardinalityStage as = cardinalityStage bs := by
  rw [cardinalityStage_eq, cardinalityStage_eq, hperm.countP_eq, hperm.countP_eq]

/-- Attributes in another order are completed in the same way. -/
theorem completed_perm (hperm : as.Perm bs) : (completed as).Perm (completed bs) := by
  rw [completed, completed, hperm.any_eq]
  split_ifs
  · exact hperm
  · exact hperm.append_right _

/-- Attributes in another order claim the same names. -/
theorem IsClaimed.perm (hperm : as.Perm bs) (name : String) :
    IsClaimed handler as name ↔ IsClaimed handler bs name :=
  exists_congr fun _ => and_congr_left fun _ => hperm.mem_iff

/-- Attributes in another order bind the same parameters. -/
theorem Descriptor.IsBound.perm (hperm : as.Perm bs) (p : Parameter) :
    handler.IsBound as p ↔ handler.IsBound bs p :=
  or_congr_left (IsClaimed.perm hperm p.name)

/-- The plan goes by which names are claimed. -/
theorem planOf_congr {claimed claimed' : List String}
    (h : ∀ name, name ∈ claimed ↔ name ∈ claimed') :
    planOf handler claimed = planOf handler claimed' := by
  refine List.map_congr_left fun name _ => ?_
  rw [bindingOf_eq, bindingOf_eq, if_congr (h name) rfl rfl]

theorem planOf_perm (hperm : as.Perm bs) :
    planOf handler (claimedNames (checkOutcomes handler as)) =
      planOf handler (claimedNames (checkOutcomes handler bs)) := by
  refine planOf_congr fun name => ?_
  rw [mem_claimedNames_iff, mem_claimedNames_iff]
  exact IsClaimed.perm hperm name

/-- The errors of the last stage follow the order of the attributes. -/
theorem checkStage_perm (hperm : as.Perm bs) :
    (checkStage handler (checkOutcomes handler as)).Perm
      (checkStage handler (checkOutcomes handler bs)) := by
  have hunbound : (handler.parameters.filter fun p => ¬handler.IsBound as p) =
      handler.parameters.filter fun p => ¬handler.IsBound bs p :=
    List.filter_congr fun p _ =>
      decide_eq_decide.mpr (not_congr (Descriptor.IsBound.perm hperm p))
  rw [checkStage_eq, checkStage_eq, hunbound]
  exact ((hperm.flatMap_right _).map _).append_left _

/-! ### The attributes that a handler got -/

/-- Once there is a stand-in, none is added. -/
theorem completed_completed (as : List Attribute) : completed (completed as) = completed as := by
  have hany : (completed as).any Attribute.isResult = true := by
    rw [completed]
    split_ifs with h
    · exact h
    · rw [List.any_append, Bool.or_eq_true]
      exact .inr rfl
  rw [completed, if_pos hany]

/-- The stand-in is no trigger. -/
theorem countP_isTrigger_completed (as : List Attribute) :
    (completed as).countP Attribute.isTrigger = as.countP Attribute.isTrigger := by
  rw [completed_eq]
  split_ifs with hnone
  · rw [List.countP_append]
    rfl
  · rfl

/-- The stand-in is the only attribute that says where the result goes, if it is there. -/
theorem countP_isResult_completed (as : List Attribute) :
    (completed as).countP Attribute.isResult = max 1 (as.countP Attribute.isResult) := by
  rw [completed_eq]
  split_ifs with hnone
  · rw [List.countP_append, hnone]
    rfl
  · rw [Nat.max_eq_right (Nat.one_le_iff_ne_zero.mpr hnone)]

/-- The second stage does not mind the stand-in. -/
theorem cardinalityStage_completed (as : List Attribute) :
    cardinalityStage (completed as) = cardinalityStage as := by
  have hresults : 1 < max 1 (as.countP Attribute.isResult) ↔ 1 < as.countP Attribute.isResult := by
    omega
  rw [cardinalityStage_eq, cardinalityStage_eq, countP_isTrigger_completed,
    countP_isResult_completed, if_congr hresults rfl rfl]

/-- A handler comes to the same with the attributes that it got. -/
theorem resolve_attributes_resolve (handler : Descriptor) (as : List Attribute) :
    resolve handler (resolve handler as).attributes = resolve handler as := by
  by_cases hshape : handler.IsReproducible
  · have hstage := cardinalityStage_completed as
    rw [attributes_resolve as hshape]
    by_cases hroles : FillRoles as
    · have hroles' : FillRoles (completed as) := by
        rwa [← cardinalityStage_eq_nil_iff, hstage, cardinalityStage_eq_nil_iff]
      rw [resolve_eq_of_fillRoles hshape hroles', resolve_eq_of_fillRoles hshape hroles,
        completed_completed]
    · have hroles' : ¬FillRoles (completed as) := by
        rwa [← cardinalityStage_eq_nil_iff, hstage, cardinalityStage_eq_nil_iff]
      rw [resolve_eq_of_not_fillRoles hshape hroles', resolve_eq_of_not_fillRoles hshape hroles,
        completed_completed, hstage]
  · rw [resolve_eq_of_not_isReproducible as hshape, resolve_eq_of_not_isReproducible as hshape]

/-! ### Acceptance -/

/-- **The order of the attributes does not decide acceptance.** A handler with its attributes in
another order is accepted if and only if it is accepted with them in this one. The plan is the same,
and the errors and the attributes that it gets are the same up to their order. Resolved once more
with the attributes that it got, it comes to the same in all. -/
theorem resolve_perm (handler : Descriptor) (as bs : List Attribute) (hperm : as.Perm bs) :
    let set := resolve handler as
    let set' := resolve handler bs
    (set.errors = [] ↔ set'.errors = []) ∧ set.plan = set'.plan ∧ set.errors.Perm set'.errors ∧
      set.attributes.Perm set'.attributes ∧ resolve handler set.attributes = set := by
  intro set set'
  have hall : set.plan = set'.plan ∧ set.errors.Perm set'.errors ∧
      set.attributes.Perm set'.attributes := by
    by_cases hshape : handler.IsReproducible
    · by_cases hroles : FillRoles as
      · have hroles' : FillRoles bs := (FillRoles.perm hperm).mp hroles
        have hcompleted := completed_perm hperm
        simp only [set, set', resolve_eq_of_fillRoles hshape hroles,
          resolve_eq_of_fillRoles hshape hroles']
        exact ⟨planOf_perm hcompleted, checkStage_perm hcompleted, hcompleted⟩
      · have hroles' : ¬FillRoles bs := fun h => hroles ((FillRoles.perm hperm).mpr h)
        simp only [set, set', resolve_eq_of_not_fillRoles hshape hroles,
          resolve_eq_of_not_fillRoles hshape hroles', cardinalityStage_perm hperm]
        exact ⟨trivial, .refl _, completed_perm hperm⟩
    · simp only [set, set', resolve_eq_of_not_isReproducible _ hshape]
      exact ⟨trivial, .refl _, hperm⟩
  obtain ⟨hplan, herrors, hattributes⟩ := hall
  refine ⟨?_, hplan, herrors, hattributes, resolve_attributes_resolve handler as⟩
  exact ⟨fun h => (h ▸ herrors).nil_eq.symm, fun h => (h ▸ herrors).eq_nil⟩

/-- A third-party attribute that claims a parameter and finds fault with it. -/
def pickyAttribute : Attribute where
  className := "Picky"
  role := .binding
  fields := []
  check _ := [⟨some "trail", [.stated "The trail is cold"]⟩]
  fragments := []
  build := .idle

/-- With the two attributes in either order there is the same plan; what their checks find is told
in the order of the attributes. -/
theorem resolve_perm_auditHandler :
    [fiveMinuteTrigger, pickyAttribute].Perm [pickyAttribute, fiveMinuteTrigger] ∧
      (resolve auditHandler [fiveMinuteTrigger, pickyAttribute]).plan =
        (resolve auditHandler [pickyAttribute, fiveMinuteTrigger]).plan ∧
      (resolve auditHandler [fiveMinuteTrigger, pickyAttribute]).errors.map (·.message) =
        ["Parameter 'limit' is not bound", "Parameter 'timer' must be a TimerInfo",
          "The trail is cold"] ∧
      (resolve auditHandler [pickyAttribute, fiveMinuteTrigger]).errors.map (·.message) =
        ["Parameter 'limit' is not bound", "The trail is cold",
          "Parameter 'timer' must be a TimerInfo"] := by
  refine ⟨.swap _ _ _, (resolve_perm auditHandler _ _ (.swap _ _ _)).2.1, ?_, ?_⟩ <;>
    decide +kernel

end HandlerBundle
