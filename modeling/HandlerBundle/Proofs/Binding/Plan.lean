import HandlerBundle.Proofs.Binding.Resolution
import Mathlib.Data.List.Nodup

/-!
# The plan and the errors

The plan says of every parameter who gives it its argument, and the errors of the last stage name
the parameters that no one does. The two are worked out apart from each other, from what the checks
claim and from the parameter that takes the log writer. If the parameters have different names, none
of which is empty, they agree: the errors name the parameters that the plan leaves unbound, and what
the checks find stands behind them.

A parameter that a check claims is left to the attribute whatever else the check finds. So a
parameter of the wrong type is not reported a second time, and the log writer goes to no one if the
first parameter that can take it is claimed.

## Main definitions

* `Descriptor.names` — the names of the parameters of a handler.
* `Descriptor.IsLogParameter` — the first parameter that can take the log writer.
* `BindingSet.unboundNames` — the parameters that a plan leaves unbound.

## Main results

* `mem_planOf_iff` — the entries of a plan.
* `unbound_eq_unboundNames` — the parameters that the errors name are those that the plan names.
* `plan_coheres_with_errors` — the plan and the errors of a handler that gets to the last stage.
-/

namespace HandlerBundle

/-- The names of the parameters of a handler. -/
def Descriptor.names (handler : Descriptor) : List String :=
  handler.parameters.map (·.name)

variable {handler : Descriptor} {attributes : List Attribute} {claimed : List String}
  {logName : Option String} {name : String}

/-! ### Who gives a parameter its argument -/

/-- A claimed parameter is left to the attribute, also if it could take the log writer. -/
theorem bindingOf_eq (claimed : List String) (logName : Option String) (name : String) :
    bindingOf claimed logName name =
      if name ∈ claimed then .byAttribute
      else if logName = some name then .byLogWriter else .unbound := by
  simp only [bindingOf, List.contains_iff_mem, beq_iff_eq]

theorem bindingOf_eq_byAttribute_iff :
    bindingOf claimed logName name = .byAttribute ↔ name ∈ claimed := by
  rw [bindingOf_eq]
  split_ifs with hclaimed hlog
  · exact iff_of_true rfl hclaimed
  · exact iff_of_false nofun hclaimed
  · exact iff_of_false nofun hclaimed

theorem bindingOf_eq_byLogWriter_iff :
    bindingOf claimed logName name = .byLogWriter ↔ name ∉ claimed ∧ logName = some name := by
  rw [bindingOf_eq]
  split_ifs with hclaimed hlog
  · exact iff_of_false nofun fun h => h.1 hclaimed
  · exact iff_of_true rfl ⟨hclaimed, hlog⟩
  · exact iff_of_false nofun fun h => hlog h.2

theorem bindingOf_eq_unbound_iff :
    bindingOf claimed logName name = .unbound ↔ name ∉ claimed ∧ logName ≠ some name := by
  rw [bindingOf_eq]
  split_ifs with hclaimed hlog
  · exact iff_of_false nofun fun h => h.1 hclaimed
  · exact iff_of_false nofun fun h => h.2 hlog
  · exact iff_of_true rfl ⟨hclaimed, hlog⟩

namespace Descriptor

/-- The first parameter of all that can take the log writer. -/
def IsLogParameter (handler : Descriptor) (p : Parameter) : Prop :=
  p.annotation.isAssignable (.cls (.known .logger)) = true ∧
    ∃ before others, handler.parameters = before ++ p :: others ∧
      ∀ q ∈ before, q.annotation.isAssignable (.cls (.known .logger)) = false

/-- Parameters of one name are the same if no two have one. -/
theorem eq_of_name_eq (hnodup : handler.names.Nodup) {p q : Parameter}
    (hp : p ∈ handler.parameters) (hq : q ∈ handler.parameters) (hname : p.name = q.name) : p = q :=
  List.inj_on_of_nodup_map hnodup hp hq hname

theorem logParameter?_eq_some_iff (hnodup : handler.names.Nodup) {p : Parameter}
    (hp : p ∈ handler.parameters) :
    handler.logParameter? = some p.name ↔ handler.IsLogParameter p := by
  rw [logParameter?, Option.map_eq_some_iff, IsLogParameter]
  simp only [List.find?_eq_some_iff_append, Bool.not_eq_true']
  constructor
  · rintro ⟨q, ⟨htakes, before, others, hsplit, hnone⟩, hname⟩
    have hq : q ∈ handler.parameters := by
      rw [hsplit]
      exact List.mem_append_right _ List.mem_cons_self
    obtain rfl := eq_of_name_eq hnodup hq hp hname
    exact ⟨htakes, before, others, hsplit, hnone⟩
  · intro hfirst
    exact ⟨p, hfirst, rfl⟩

end Descriptor

/-! ### The plan -/

/-- Adding names one by one, but for those that are there, keeps every name once. -/
theorem foldl_addName (names done : List String) (hdone : done.Nodup) :
    let all := names.foldl
      (fun done name => if done.contains name then done else done ++ [name]) done
    all.Nodup ∧ ∀ name, name ∈ all ↔ name ∈ done ∨ name ∈ names := by
  induction names generalizing done with
  | nil => exact ⟨hdone, fun name => by simp⟩
  | cons first names ih =>
    rw [List.foldl_cons]
    split_ifs with hthere
    · obtain ⟨hnodup, hmem⟩ := ih done hdone
      rw [List.contains_iff_mem] at hthere
      refine ⟨hnodup, fun name => (hmem name).trans ?_⟩
      grind
    · rw [List.contains_iff_mem] at hthere
      obtain ⟨hnodup, hmem⟩ := ih (done ++ [first]) (by grind)
      refine ⟨hnodup, fun name => (hmem name).trans ?_⟩
      grind

/-- Names that are all different are added in their order. -/
theorem foldl_addName_of_nodup (names done : List String) (hnodup : (done ++ names).Nodup) :
    names.foldl (fun done name => if done.contains name then done else done ++ [name]) done =
      done ++ names := by
  induction names generalizing done with
  | nil => rw [List.foldl_nil, List.append_nil]
  | cons first names ih =>
    have hnew : done.contains first = false := by
      rw [← Bool.not_eq_true, List.contains_iff_mem]
      exact fun hmem => (List.nodup_append.mp hnodup).2.2 _ hmem _ List.mem_cons_self rfl
    rw [List.append_cons] at hnodup ⊢
    rw [List.foldl_cons, hnew, if_neg Bool.false_ne_true, ih _ hnodup]

/-- A plan has an entry for every parameter, and says who gives the argument. -/
theorem mem_planOf_iff {binding : ParameterBinding} :
    (name, binding) ∈ planOf handler claimed ↔
      name ∈ handler.names ∧ bindingOf claimed handler.logParameter? name = binding := by
  obtain ⟨-, hmem⟩ := foldl_addName handler.names [] List.nodup_nil
  rw [planOf, List.mem_map]
  constructor
  · rintro ⟨name', hname, heq⟩
    obtain ⟨rfl, rfl⟩ := Prod.mk.inj heq
    exact ⟨((hmem name').mp hname).resolve_left List.not_mem_nil, rfl⟩
  · rintro ⟨hname, rfl⟩
    exact ⟨name, (hmem name).mpr (.inr hname), rfl⟩

/-- The plan for parameters with different names has one entry for each, in their order. -/
theorem planOf_of_nodup (hnodup : handler.names.Nodup) :
    planOf handler claimed =
      handler.names.map fun name => (name, bindingOf claimed handler.logParameter? name) := by
  have hnames := foldl_addName_of_nodup handler.names [] hnodup
  rw [List.nil_append] at hnames
  rw [planOf, ← Descriptor.names, hnames]

/-- The plan of a handler that gets to the last stage. -/
theorem plan_resolve (hshape : handler.IsReproducible) (hroles : FillRoles attributes) :
    (resolve handler attributes).plan =
      planOf handler (claimedNames (checkOutcomes handler (completed attributes))) := by
  rw [resolve_eq_of_fillRoles hshape hroles]

/-- The entries of the plan of a handler that gets to the last stage. -/
theorem mem_plan_resolve_iff (hshape : handler.IsReproducible) (hroles : FillRoles attributes)
    {binding : ParameterBinding} :
    (name, binding) ∈ (resolve handler attributes).plan ↔ name ∈ handler.names ∧
      bindingOf (claimedNames (checkOutcomes handler (completed attributes))) handler.logParameter?
        name = binding := by
  rw [plan_resolve hshape hroles, mem_planOf_iff]

/-! ### The errors -/

/-- The parameters that a plan leaves unbound. -/
def BindingSet.unboundNames (set : BindingSet) : List String :=
  (set.plan.filter fun entry => entry.2 == .unbound).map Prod.fst

theorem BindingSet.mem_unboundNames_iff {set : BindingSet} :
    name ∈ set.unboundNames ↔ (name, .unbound) ∈ set.plan := by
  rw [unboundNames, List.mem_map]
  constructor
  · rintro ⟨⟨name, binding⟩, hentry, rfl⟩
    obtain ⟨hentry, hbinding⟩ := List.mem_filter.mp hentry
    obtain rfl : binding = .unbound := beq_iff_eq.mp hbinding
    exact hentry
  · exact fun hentry => ⟨_, List.mem_filter.mpr ⟨hentry, beq_self_eq_true _⟩, rfl⟩

/-- The parameters that the errors name are those that the plan leaves unbound, in the order of
both, if the parameters have different names that are not empty. -/
theorem unbound_eq_unboundNames (hnodup : handler.names.Nodup) (hnamed : "" ∉ handler.names)
    (hshape : handler.IsReproducible) (hroles : FillRoles attributes) :
    (handler.parameters.filter fun p => ¬handler.IsBound (completed attributes) p).map (·.name) =
      (resolve handler attributes).unboundNames := by
  have hunbound : ∀ p ∈ handler.parameters, handler.IsBound (completed attributes) p ↔
      ¬bindingOf (claimedNames (checkOutcomes handler (completed attributes)))
        handler.logParameter? p.name = .unbound := by
    intro p hp
    have hne : p.name ≠ "" := fun hempty => hnamed (hempty ▸ List.mem_map_of_mem hp)
    rw [bindingOf_eq_unbound_iff, mem_claimedNames_iff, not_and_not_right, Descriptor.IsBound,
      and_iff_left hne, or_iff_not_imp_left]
  rw [BindingSet.unboundNames, plan_resolve hshape hroles, planOf_of_nodup hnodup, List.filter_map,
    List.map_map, Descriptor.names, List.filter_map, List.map_map]
  refine congrArg (List.map _) (List.filter_congr fun p hp => ?_)
  rw [decide_not, decide_eq_decide.mpr (hunbound p hp), decide_not, Bool.not_not]
  exact (beq_eq_decide _ _).symm

/-- The errors of a handler that gets to the last stage: a message for every name that the plan
leaves unbound, and then what the checks find. -/
theorem errors_eq_unboundNames_append (hnodup : handler.names.Nodup) (hnamed : "" ∉ handler.names)
    (hshape : handler.IsReproducible) (hroles : FillRoles attributes) :
    (resolve handler attributes).errors =
      (resolve handler attributes).unboundNames.map .unbound ++
        ((resolve handler attributes).attributes.flatMap fun a =>
          (a.check handler).flatMap (·.messages)).map .check := by
  rw [attributes_resolve attributes hshape, ← unbound_eq_unboundNames hnodup hnamed hshape hroles,
    resolve_of_fillRoles hshape hroles, checkStage_eq, List.map_map]
  rfl

/-- A parameter is reported as unbound exactly if the plan leaves it unbound. -/
theorem unbound_mem_errors_iff (hnodup : handler.names.Nodup) (hnamed : "" ∉ handler.names)
    (hshape : handler.IsReproducible) (hroles : FillRoles attributes) :
    ResolutionError.unbound name ∈ (resolve handler attributes).errors ↔
      (name, .unbound) ∈ (resolve handler attributes).plan := by
  rw [errors_eq_unboundNames_append hnodup hnamed hshape hroles, ← BindingSet.mem_unboundNames_iff]
  simp

/-- **The plan and the errors cohere.** Let the parameters of a handler have different names, none
of which is empty, and let the handler pass the first two stages. Then the plan has an entry for
every parameter. It leaves a parameter to an attribute exactly if a check claims it, whatever the
checks find, and to the log writer exactly if none does and it is the first parameter of all that
can take it, which at most one is. The errors name every parameter that the plan leaves unbound,
once and in their order, and then there is what the checks find and nothing else. So no claimed
parameter is reported as unbound, and without errors the plan leaves none unbound. -/
theorem plan_coheres_with_errors (handler : Descriptor) (attributes : List Attribute)
    (hnodup : handler.names.Nodup) (hnamed : "" ∉ handler.names)
    (hshape : handler.IsReproducible) (hroles : FillRoles attributes) :
    let set := resolve handler attributes
    set.plan.map Prod.fst = handler.names ∧
    (∀ p ∈ handler.parameters,
      ((p.name, .byAttribute) ∈ set.plan ↔ IsClaimed handler set.attributes p.name) ∧
      ((p.name, .byLogWriter) ∈ set.plan ↔
        ¬IsClaimed handler set.attributes p.name ∧ handler.IsLogParameter p) ∧
      ((p.name, .unbound) ∈ set.plan ↔
        ¬IsClaimed handler set.attributes p.name ∧ ¬handler.IsLogParameter p)) ∧
    (∀ name name', (name, .byLogWriter) ∈ set.plan → (name', .byLogWriter) ∈ set.plan →
      name = name') ∧
    set.unboundNames.Nodup ∧
    set.errors.map (·.message) =
      (set.unboundNames.map fun name => "Parameter '" ++ name ++ "' is not bound") ++
        (set.attributes.flatMap fun a => (a.check handler).flatMap fun r =>
          r.messages.map (·.message)) ∧
    (∀ name, ResolutionError.unbound name ∈ set.errors ↔ (name, .unbound) ∈ set.plan) ∧
    (∀ name, IsClaimed handler set.attributes name → ResolutionError.unbound name ∉ set.errors) ∧
    (set.errors = [] → ∀ entry ∈ set.plan, entry.2 ≠ .unbound) := by
  intro set
  have hattributes : set.attributes = completed attributes := attributes_resolve attributes hshape
  have hplan {name : String} {binding : ParameterBinding} :
      (name, binding) ∈ set.plan ↔ _ := mem_plan_resolve_iff hshape hroles
  have hunbound {name : String} :
      ResolutionError.unbound name ∈ set.errors ↔ (name, .unbound) ∈ set.plan :=
    unbound_mem_errors_iff hnodup hnamed hshape hroles
  refine ⟨?_, fun p hp => ?_, fun name name' hname hname' => ?_, ?_, ?_,
    fun _ => hunbound, fun name hclaimed hmem => ?_, fun hnone entry hentry hbinding => ?_⟩
  · rw [plan_resolve hshape hroles, planOf_of_nodup hnodup, List.map_map]
    exact List.map_id _
  · have hname : p.name ∈ handler.names := List.mem_map_of_mem hp
    rw [hplan, hplan, hplan, bindingOf_eq_byAttribute_iff, bindingOf_eq_byLogWriter_iff,
      bindingOf_eq_unbound_iff, mem_claimedNames_iff, ne_eq,
      handler.logParameter?_eq_some_iff hnodup hp, hattributes]
    exact ⟨and_iff_right hname, and_iff_right hname, and_iff_right hname⟩
  · have hlog := (bindingOf_eq_byLogWriter_iff.mp (hplan.mp hname).2).2
    have hlog' := (bindingOf_eq_byLogWriter_iff.mp (hplan.mp hname').2).2
    exact Option.some.inj (hlog.symm.trans hlog')
  · rw [← unbound_eq_unboundNames hnodup hnamed hshape hroles]
    exact hnodup.sublist (List.filter_sublist.map _)
  · rw [errors_eq_unboundNames_append hnodup hnamed hshape hroles, List.map_append,
      List.map_map, List.map_map, List.map_flatMap]
    simp only [List.map_flatMap]
    rfl
  · rw [hunbound, hplan, bindingOf_eq_unbound_iff, mem_claimedNames_iff, ← hattributes] at hmem
    exact hmem.2.1 hclaimed
  · obtain ⟨name, binding⟩ := entry
    obtain rfl : binding = .unbound := hbinding
    rw [← hunbound, hnone] at hentry
    exact List.not_mem_nil hentry

/-- A handler with a first parameter of the wrong type for a timer, two that can take the log
writer, and one more. -/
def auditHandler : Descriptor where
  scope := "pkg.mod"
  name := "audit"
  parameters := [⟨"timer", ShippedBinding.ofKnown .str⟩, ⟨"log", ShippedBinding.ofKnown .logger⟩,
    ⟨"trail", ShippedBinding.ofKnown .logger⟩, ⟨"limit", ShippedBinding.ofKnown .int⟩]
  result := Annotation.noneType
  shapeErrors := []

/-- The log writer goes to the first of the two, and the parameter of the wrong type is reported
once. -/
theorem plan_coheres_with_errors_auditHandler :
    let set := resolve auditHandler [fiveMinuteTrigger]
    auditHandler.names.Nodup ∧ "" ∉ auditHandler.names ∧ auditHandler.IsReproducible ∧
      FillRoles [fiveMinuteTrigger] ∧
      ("timer", .byAttribute) ∈ set.plan ∧ set.unboundNames = ["trail", "limit"] ∧
      set.errors.map (·.message) = ["Parameter 'trail' is not bound",
        "Parameter 'limit' is not bound", "Parameter 'timer' must be a TimerInfo"] := by
  intro set
  have hnodup : auditHandler.names.Nodup := by decide
  have hnamed : "" ∉ auditHandler.names := by decide
  have hshape : auditHandler.IsReproducible := ⟨rfl, by decide⟩
  have hroles : FillRoles [fiveMinuteTrigger] := by unfold FillRoles; decide
  obtain ⟨-, hentries, -, -, herrors, -⟩ :=
    plan_coheres_with_errors auditHandler [fiveMinuteTrigger] hnodup hnamed hshape hroles
  have hclaimed : IsClaimed auditHandler set.attributes "timer" :=
    (mem_claimedNames_iff _ _ _).mp (by decide +kernel)
  have hunbound : set.unboundNames = ["trail", "limit"] := by decide +kernel
  refine ⟨hnodup, hnamed, hshape, hroles, ?_, hunbound, ?_⟩
  · exact (hentries _ List.mem_cons_self).1.mpr hclaimed
  · rw [herrors, hunbound]
    decide +kernel

end HandlerBundle
