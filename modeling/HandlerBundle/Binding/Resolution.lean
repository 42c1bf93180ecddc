import HandlerBundle.Binding.Attribute
import HandlerBundle.Loader.Reserved

/-!
# Resolving the bindings of a handler

A handler passes three stages. Its shape must be one that the generated loader can reproduce; its
attributes must name one trigger and at most one binding for the result; and the checks of all
attributes must find nothing wrong and leave no parameter unbound. The errors are those of the
first stage that fails.

## Main definitions

* `ResolutionError`, `ParameterBinding`, `BindingSet`.
* `resolve` — the binding set of a handler.
-/

namespace HandlerBundle

/-- Why a handler is rejected. -/
inductive ResolutionError where
  | shape (cause : ShapeError)
  | reservedName (name : String)
  | manyResults
  | noTrigger
  | manyTriggers
  | unbound (name : String)
  | check (finding : CheckMessage)

namespace ResolutionError

/-- The message of the error. -/
def message : ResolutionError → String
  | .shape cause => cause.message
  | .reservedName name => "Parameter '" ++ name ++ "' uses a reserved name"
  | .manyResults => "Function has more than one Result attribute"
  | .noTrigger => "Function has no Trigger attribute"
  | .manyTriggers => "Function has more than one Trigger attribute"
  | .unbound name => unboundMessage name
  | .check finding => finding.message

end ResolutionError

/-- Who gives a parameter its argument. -/
inductive ParameterBinding where
  | byAttribute
  | byLogWriter
  | unbound
  deriving DecidableEq, Repr

/-- The word for how a parameter is bound. -/
def ParameterBinding.word : ParameterBinding → String
  | .byAttribute => "attribute"
  | .byLogWriter => "log_writer"
  | .unbound => "unbound"

/-- A handler with its attributes, the plan for its parameters, and why it is rejected. -/
structure BindingSet where
  handler : Descriptor
  attributes : List Attribute
  plan : List (String × ParameterBinding)
  errors : List ResolutionError

/-- The errors of the first stage. -/
def shapeStage (handler : Descriptor) : List ResolutionError :=
  handler.shapeErrors.map .shape ++
    (handler.parameters.filter fun p => isReservedName p.name).map fun p => .reservedName p.name

/-- The errors of the second stage. -/
def cardinalityStage (attributes : List Attribute) : List ResolutionError :=
  let results := attributes.filter Attribute.isResult
  let triggers := attributes.filter Attribute.isTrigger
  (if 1 < results.length then [.manyResults] else []) ++
    (if triggers.isEmpty then [.noTrigger]
      else if 1 < triggers.length then [.manyTriggers] else [])

/-- The attributes with the stand-in for a missing result binding. -/
def completed (attributes : List Attribute) : List Attribute :=
  if attributes.any Attribute.isResult then attributes else attributes ++ [noResultAttribute]

/-- The outcomes of all checks, in the order of the attributes. -/
def checkOutcomes (handler : Descriptor) (attributes : List Attribute) : List CheckResult :=
  attributes.flatMap fun a => a.check handler

/-- The parameters that checks claim. -/
def claimedNames (outcomes : List CheckResult) : List String :=
  outcomes.filterMap (·.claimed)

/-- Who gives the parameter of a name its argument. -/
def bindingOf (claimed : List String) (logName : Option String) (name : String) :
    ParameterBinding :=
  if claimed.contains name then .byAttribute
  else if logName == some name then .byLogWriter
  else .unbound

/-- The plan for the parameters: each name once, at its first place. -/
def planOf (handler : Descriptor) (claimed : List String) : List (String × ParameterBinding) :=
  let names := (handler.parameters.map (·.name)).foldl
    (fun done name => if done.contains name then done else done ++ [name]) []
  names.map fun name => (name, bindingOf claimed handler.logParameter? name)

/-- The names that count as bound: those claimed, and that of the log writer unless it is empty. -/
def boundNames (handler : Descriptor) (claimed : List String) : List String :=
  match handler.logParameter? with
  | some name => if name.isEmpty then claimed else claimed ++ [name]
  | none => claimed

/-- The errors of the last stage: the unbound parameters in their order, then what the checks
find. -/
def checkStage (handler : Descriptor) (outcomes : List CheckResult) : List ResolutionError :=
  (handler.unbound (boundNames handler (claimedNames outcomes))).map .unbound ++
    (outcomes.flatMap (·.messages)).map .check

/-- The binding set of a handler with the given attributes. -/
def resolve (handler : Descriptor) (attributes : List Attribute) : BindingSet :=
  let shape := shapeStage handler
  if !shape.isEmpty then ⟨handler, attributes, [], shape⟩
  else
    let attributes' := completed attributes
    let cardinality := cardinalityStage attributes
    if !cardinality.isEmpty then ⟨handler, attributes', [], cardinality⟩
    else
      let outcomes := checkOutcomes handler attributes'
      ⟨handler, attributes', planOf handler (claimedNames outcomes), checkStage handler outcomes⟩

end HandlerBundle
