import HandlerBundle.Binding.Resolution
import Mathlib.Data.List.Basic

/-!
# Acceptance in stages

A handler is accepted exactly if its shape can be reproduced, its attributes fill the roles of a
handler, the checks of all attributes find nothing wrong, and every parameter gets its argument
from an attribute or from the log writer. Otherwise its errors are those of the first stage that
it fails, and no later stage adds to them. The attributes are arbitrary: each may have any role,
claim any names and find anything wrong.

A parameter with the empty name never gets its argument from the log writer: its name is taken for
the absence of one.

## Main definitions

* `Descriptor.IsReproducible`, `FillRoles`, `Descriptor.IsBound` — what the stages ask for.

## Main results

* `shapeStage_eq_nil_iff`, `cardinalityStage_eq_nil_iff`, `checkStage_eq_nil_iff` — the stages
  find no errors exactly if they get what they ask for.
* `resolve_errors_staged` — acceptance, and the errors of a handler that is not accepted.
-/

namespace HandlerBundle

/-! ### The first stage -/

/-- The generated loader can reproduce the signature of a handler: its description has no shape
errors, and no parameter has a name that the generated sources use. -/
def Descriptor.IsReproducible (handler : Descriptor) : Prop :=
  handler.shapeErrors = [] ∧ ∀ p ∈ handler.parameters, isReservedName p.name = false

theorem shapeStage_eq_nil_iff (handler : Descriptor) :
    shapeStage handler = [] ↔ handler.IsReproducible := by
  rw [shapeStage, List.append_eq_nil_iff, List.map_eq_nil_iff, List.map_eq_nil_iff,
    List.filter_eq_nil_iff, Descriptor.IsReproducible]
  simp only [Bool.not_eq_true]

/-! ### The second stage -/

/-- Attributes fill the roles of a handler: exactly one says how it is invoked, and at most one
where its result goes. -/
def FillRoles (attributes : List Attribute) : Prop :=
  attributes.countP Attribute.isTrigger = 1 ∧ attributes.countP Attribute.isResult ≤ 1

theorem cardinalityStage_eq (attributes : List Attribute) :
    cardinalityStage attributes =
      (if 1 < attributes.countP Attribute.isResult then [.manyResults] else []) ++
        (if attributes.countP Attribute.isTrigger = 0 then [.noTrigger]
          else if 1 < attributes.countP Attribute.isTrigger then [.manyTriggers] else []) := by
  simp only [cardinalityStage, List.countP_eq_length_filter, List.isEmpty_iff,
    List.length_eq_zero_iff]

theorem cardinalityStage_eq_nil_iff (attributes : List Attribute) :
    cardinalityStage attributes = [] ↔ FillRoles attributes := by
  rw [cardinalityStage_eq, List.append_eq_nil_iff, FillRoles]
  constructor
  · rintro ⟨hresult, htrigger⟩
    split_ifs at hresult htrigger with h₁ h₂ h₃
    exact ⟨by omega, by omega⟩
  · rintro ⟨htrigger, hresult⟩
    rw [if_neg (by omega), if_neg (by omega), if_neg (by omega)]
    exact ⟨rfl, rfl⟩

/-- The stand-in for a missing result binding comes last, and only where none of the attributes
says where the result goes. -/
theorem completed_eq (attributes : List Attribute) :
    completed attributes =
      if attributes.countP Attribute.isResult = 0 then attributes ++ [noResultAttribute]
      else attributes := by
  have hany : attributes.any Attribute.isResult = true ↔
      attributes.countP Attribute.isResult ≠ 0 := by
    rw [List.any_eq_true, ← Nat.pos_iff_ne_zero, List.countP_pos_iff]
  rw [completed]
  split_ifs with h₁ h₂ h₂
  · exact absurd h₂ (hany.mp h₁)
  · rfl
  · rfl
  · exact absurd (hany.mpr h₂) h₁

/-! ### The last stage -/

/-- A check of one of the attributes claims a name. -/
def IsClaimed (handler : Descriptor) (attributes : List Attribute) (name : String) : Prop :=
  ∃ a ∈ attributes, ∃ r ∈ a.check handler, r.claimed = some name

theorem mem_claimedNames_iff (handler : Descriptor) (attributes : List Attribute)
    (name : String) :
    name ∈ claimedNames (checkOutcomes handler attributes) ↔
      IsClaimed handler attributes name := by
  simp only [claimedNames, checkOutcomes, List.mem_filterMap, List.mem_flatMap, IsClaimed]
  constructor
  · rintro ⟨r, ⟨a, ha, hr⟩, hname⟩
    exact ⟨a, ha, r, hr, hname⟩
  · rintro ⟨a, ha, r, hr, hname⟩
    exact ⟨r, ⟨a, ha, hr⟩, hname⟩

namespace Descriptor

/-- A parameter gets its argument: a check claims it, or it takes the log writer and has a name
that is not empty. -/
def IsBound (handler : Descriptor) (attributes : List Attribute) (p : Parameter) : Prop :=
  IsClaimed handler attributes p.name ∨ (handler.logParameter? = some p.name ∧ p.name ≠ "")

instance (handler : Descriptor) (attributes : List Attribute) :
    DecidablePred (handler.IsBound attributes) := fun p =>
  decidable_of_iff
    (p.name ∈ claimedNames (checkOutcomes handler attributes) ∨
      (handler.logParameter? = some p.name ∧ p.name ≠ ""))
    (or_congr_left (mem_claimedNames_iff handler attributes p.name))

theorem mem_boundNames_iff (handler : Descriptor) (attributes : List Attribute)
    (p : Parameter) :
    p.name ∈ boundNames handler (claimedNames (checkOutcomes handler attributes)) ↔
      handler.IsBound attributes p := by
  rw [IsBound, ← mem_claimedNames_iff, boundNames]
  cases hlog : handler.logParameter? with
  | none => simp
  | some name =>
    by_cases hname : name.isEmpty
    · obtain rfl : name = "" := String.isEmpty_iff.mp hname
      simp only [hname, if_true, Option.some.injEq]
      constructor
      · exact Or.inl
      · rintro (h | ⟨h, hne⟩)
        · exact h
        · exact absurd h.symm hne
    · have hne : name ≠ "" := fun h => hname (String.isEmpty_iff.mpr h)
      simp only [hname, Bool.false_eq_true, if_false, List.mem_append, List.mem_singleton,
        Option.some.injEq]
      constructor
      · rintro (h | rfl)
        · exact .inl h
        · exact .inr ⟨rfl, hne⟩
      · rintro (h | ⟨h, -⟩)
        · exact .inl h
        · exact .inr h.symm

/-- The parameters that no one binds, in their order. -/
theorem unbound_boundNames (handler : Descriptor) (attributes : List Attribute) :
    handler.unbound (boundNames handler (claimedNames (checkOutcomes handler attributes))) =
      (handler.parameters.filter fun p => ¬handler.IsBound attributes p).map (·.name) := by
  rw [unbound]
  congr 1
  refine List.filter_congr fun p _ => ?_
  rw [Bool.eq_iff_iff, Bool.not_eq_true', decide_eq_true_eq, ← mem_boundNames_iff,
    ← Bool.not_eq_true, List.contains_iff_mem]

end Descriptor

/-- The checks of attributes find nothing wrong. -/
def ChecksPass (handler : Descriptor) (attributes : List Attribute) : Prop :=
  ∀ a ∈ attributes, ∀ r ∈ a.check handler, r.messages = []

theorem checkStage_eq (handler : Descriptor) (attributes : List Attribute) :
    checkStage handler (checkOutcomes handler attributes) =
      ((handler.parameters.filter fun p => ¬handler.IsBound attributes p).map fun p =>
          .unbound p.name) ++
        (attributes.flatMap fun a => (a.check handler).flatMap (·.messages)).map .check := by
  rw [checkStage, Descriptor.unbound_boundNames, List.map_map, checkOutcomes,
    List.flatMap_assoc]
  rfl

theorem checkStage_eq_nil_iff (handler : Descriptor) (attributes : List Attribute) :
    checkStage handler (checkOutcomes handler attributes) = [] ↔
      ChecksPass handler attributes ∧
        ∀ p ∈ handler.parameters, handler.IsBound attributes p := by
  rw [checkStage_eq, List.append_eq_nil_iff, List.map_eq_nil_iff, List.map_eq_nil_iff,
    List.filter_eq_nil_iff, List.flatMap_eq_nil_iff, and_comm, ChecksPass]
  simp only [List.flatMap_eq_nil_iff, decide_eq_true_eq, not_not]

/-! ### All stages -/

/-- What comes of a handler that fails the first stage. -/
theorem resolve_eq_of_not_isReproducible {handler : Descriptor} (attributes : List Attribute)
    (h : ¬handler.IsReproducible) :
    resolve handler attributes = ⟨handler, attributes, [], shapeStage handler⟩ := by
  have hne : (shapeStage handler).isEmpty = false := by
    rw [List.isEmpty_eq_false_iff, ne_eq, shapeStage_eq_nil_iff]
    exact h
  simp only [resolve, hne, Bool.not_false, if_true]

/-- What comes of a handler that fails the second stage. -/
theorem resolve_eq_of_not_fillRoles {handler : Descriptor} {attributes : List Attribute}
    (hshape : handler.IsReproducible) (h : ¬FillRoles attributes) :
    resolve handler attributes =
      ⟨handler, completed attributes, [], cardinalityStage attributes⟩ := by
  have hne : (cardinalityStage attributes).isEmpty = false := by
    rw [List.isEmpty_eq_false_iff, ne_eq, cardinalityStage_eq_nil_iff]
    exact h
  simp only [resolve, (shapeStage_eq_nil_iff handler).mpr hshape, List.isEmpty_nil,
    Bool.not_true, Bool.false_eq_true, if_false, hne, Bool.not_false, if_true]

/-- What comes of a handler that gets to the last stage. -/
theorem resolve_eq_of_fillRoles {handler : Descriptor} {attributes : List Attribute}
    (hshape : handler.IsReproducible) (h : FillRoles attributes) :
    resolve handler attributes =
      let outcomes := checkOutcomes handler (completed attributes)
      ⟨handler, completed attributes, planOf handler (claimedNames outcomes),
        checkStage handler outcomes⟩ := by
  simp only [resolve, (shapeStage_eq_nil_iff handler).mpr hshape,
    (cardinalityStage_eq_nil_iff attributes).mpr h, List.isEmpty_nil, Bool.not_true,
    Bool.false_eq_true, if_false]

theorem resolve_of_not_isReproducible {handler : Descriptor} (attributes : List Attribute)
    (h : ¬handler.IsReproducible) :
    (resolve handler attributes).errors = shapeStage handler := by
  rw [resolve_eq_of_not_isReproducible attributes h]

theorem resolve_of_not_fillRoles {handler : Descriptor} {attributes : List Attribute}
    (hshape : handler.IsReproducible) (h : ¬FillRoles attributes) :
    (resolve handler attributes).errors = cardinalityStage attributes := by
  rw [resolve_eq_of_not_fillRoles hshape h]

theorem resolve_of_fillRoles {handler : Descriptor} {attributes : List Attribute}
    (hshape : handler.IsReproducible) (h : FillRoles attributes) :
    (resolve handler attributes).errors =
      checkStage handler (checkOutcomes handler (completed attributes)) := by
  rw [resolve_eq_of_fillRoles hshape h]

theorem attributes_resolve {handler : Descriptor} (attributes : List Attribute)
    (h : handler.IsReproducible) :
    (resolve handler attributes).attributes = completed attributes := by
  by_cases hroles : FillRoles attributes
  · rw [resolve_eq_of_fillRoles h hroles]
  · rw [resolve_eq_of_not_fillRoles h hroles]

/-- A handler is accepted exactly if it passes all stages. -/
theorem errors_resolve_eq_nil_iff (handler : Descriptor) (attributes : List Attribute) :
    (resolve handler attributes).errors = [] ↔
      handler.IsReproducible ∧ FillRoles attributes ∧
        ChecksPass handler (completed attributes) ∧
          ∀ p ∈ handler.parameters, handler.IsBound (completed attributes) p := by
  by_cases hshape : handler.IsReproducible
  · by_cases hroles : FillRoles attributes
    · rw [resolve_of_fillRoles hshape hroles, checkStage_eq_nil_iff]
      exact ⟨fun h => ⟨hshape, hroles, h⟩, fun h => h.2.2⟩
    · rw [resolve_of_not_fillRoles hshape hroles, cardinalityStage_eq_nil_iff]
      exact ⟨fun h => absurd h hroles, fun h => h.2.1⟩
  · rw [resolve_of_not_isReproducible attributes hshape, shapeStage_eq_nil_iff]
    exact ⟨fun h => absurd h hshape, fun h => h.1⟩

/-- **Acceptance in stages.** A handler is accepted exactly if its shape can be reproduced, its
attributes fill the roles, the checks of all attributes pass, with the stand-in for a missing
result binding among them, and every parameter is bound. Otherwise its errors are those of the
first stage that fails: the shape errors and then the reserved names; else the message about
results and then that about triggers; else the unbound parameters in their order and then what
the checks find in the order of the attributes. -/
theorem resolve_errors_staged (handler : Descriptor) (attributes : List Attribute) :
    let checked :=
      if attributes.countP Attribute.isResult = 0 then attributes ++ [noResultAttribute]
      else attributes
    let errors := (resolve handler attributes).errors.map (·.message)
    (errors = [] ↔
      handler.IsReproducible ∧ FillRoles attributes ∧ ChecksPass handler checked ∧
        ∀ p ∈ handler.parameters, handler.IsBound checked p) ∧
    (¬handler.IsReproducible →
      errors = handler.shapeErrors.map (·.message) ++
        (handler.parameters.filter fun p => isReservedName p.name).map fun p =>
          "Parameter '" ++ p.name ++ "' uses a reserved name") ∧
    (handler.IsReproducible → ¬FillRoles attributes →
      errors =
        (if 1 < attributes.countP Attribute.isResult then
          ["Function has more than one Result attribute"] else []) ++
        (if attributes.countP Attribute.isTrigger = 0 then
          ["Function has no Trigger attribute"]
        else if 1 < attributes.countP Attribute.isTrigger then
          ["Function has more than one Trigger attribute"] else [])) ∧
    (handler.IsReproducible → FillRoles attributes →
      (resolve handler attributes).attributes = checked ∧
      errors =
        ((handler.parameters.filter fun p => ¬handler.IsBound checked p).map fun p =>
          "Parameter '" ++ p.name ++ "' is not bound") ++
        checked.flatMap fun a => (a.check handler).flatMap fun r =>
          r.messages.map (·.message)) := by
  intro checked errors
  have hchecked : completed attributes = checked := completed_eq attributes
  have herrors : errors = (resolve handler attributes).errors.map (·.message) := rfl
  refine ⟨?_, ?_, ?_, ?_⟩
  · rw [List.map_eq_nil_iff, errors_resolve_eq_nil_iff, hchecked]
  · intro hshape
    rw [herrors, resolve_of_not_isReproducible attributes hshape, shapeStage,
      List.map_append, List.map_map, List.map_map]
    rfl
  · intro hshape hroles
    rw [herrors, resolve_of_not_fillRoles hshape hroles, cardinalityStage_eq,
      List.map_append]
    split_ifs <;> rfl
  · intro hshape hroles
    refine ⟨(attributes_resolve attributes hshape).trans hchecked, ?_⟩
    rw [herrors, resolve_of_fillRoles hshape hroles, hchecked, checkStage_eq,
      List.map_append, List.map_map, List.map_map, List.map_flatMap]
    simp only [List.map_flatMap]
    rfl

/-- A handler whose second parameter takes the log writer, under the empty name. -/
def unnamedLogHandler : Descriptor where
  scope := "pkg.mod"
  name := "h"
  parameters := [⟨"timer", .cls (.known .timerInfo)⟩, ⟨"", .cls (.known .logger)⟩]
  result := Annotation.noneType
  shapeErrors := []

/-- A trigger that claims the first parameter of that handler. -/
def fiveMinuteTrigger : Attribute :=
  (ShippedBinding.timerTrigger "0 */5 * * * *" (.bool false) "timer").toAttribute

/-- The handler is rejected for the parameter that the plan leaves to the log writer. -/
theorem resolve_errors_staged_unnamedLogHandler :
    unnamedLogHandler.IsReproducible ∧ FillRoles [fiveMinuteTrigger] ∧
      unnamedLogHandler.logParameter? = some "" ∧
      (resolve unnamedLogHandler [fiveMinuteTrigger]).plan =
        [("timer", .byAttribute), ("", .byLogWriter)] ∧
      (resolve unnamedLogHandler [fiveMinuteTrigger]).errors.map (·.message) =
        ["Parameter '' is not bound"] := by
  have hshape : unnamedLogHandler.IsReproducible := ⟨rfl, by decide⟩
  have hroles : FillRoles [fiveMinuteTrigger] := by unfold FillRoles; decide
  refine ⟨hshape, hroles, by decide +kernel, by decide +kernel, ?_⟩
  obtain ⟨-, herrors⟩ := (resolve_errors_staged unnamedLogHandler [fiveMinuteTrigger]).2.2.2
    hshape hroles
  rw [herrors]
  decide +kernel

end HandlerBundle
