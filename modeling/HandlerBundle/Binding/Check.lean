import HandlerBundle.Annotation.Assignable
import HandlerBundle.Annotation.Display
import HandlerBundle.Handler.Descriptor

/-!
# Checks of a handler's signature

A binding checks the signature of a handler. A check may claim a parameter, which then counts as
bound even if the check has messages, so that a parameter of the wrong type is reported once.

## Main definitions

* `CheckResult`, `CheckMessage`.
* `checkParameter`, `checkOptionalParameter`, `checkResult` — the checks.
* `Descriptor.logParameter?`, `Descriptor.unbound` — the parameter that takes the log writer, and
  those that no one binds.
-/

namespace HandlerBundle

/-- What a check finds wrong. -/
inductive CheckMessage where
  | missing (name : String)
  | parameterType (name : String) (allowed : List Annotation)
  | resultType (allowed : List Annotation)
  /-- A finding in words. -/
  | stated (text : String)

namespace CheckMessage

/-- The text of a finding. -/
def message : CheckMessage → String
  | .missing name => "Must have a parameter named '" ++ name ++ "'"
  | .parameterType name allowed =>
    "Parameter '" ++ name ++ "' must be " ++ Annotation.describe allowed
  | .resultType allowed => "Return type must be " ++ Annotation.describe allowed
  | .stated text => text

end CheckMessage

/-- The outcome of a check: the parameter it claims and what it finds wrong. -/
structure CheckResult where
  claimed : Option String
  messages : List CheckMessage

/-- Checks the annotation of a parameter and claims it. Where it is missing, it is claimed all the
same unless it is optional. -/
def checkNamed (optional : Bool) (name : String) (allowed : List Annotation)
    (handler : Descriptor) : CheckResult :=
  match handler.parameter? name with
  | some p =>
    if p.annotation.isAssignableToSome allowed then ⟨some name, []⟩
    else ⟨some name, [.parameterType name allowed]⟩
  | none =>
    if optional then ⟨none, []⟩ else ⟨some name, [.missing name, .parameterType name allowed]⟩

/-- Checks a parameter that the handler must have. -/
def checkParameter (name : String) (allowed : List Annotation) (handler : Descriptor) :
    CheckResult :=
  checkNamed false name allowed handler

/-- Checks a parameter that the handler may have. -/
def checkOptionalParameter (name : String) (allowed : List Annotation) (handler : Descriptor) :
    CheckResult :=
  checkNamed true name allowed handler

/-- Checks the result, which may also be deferred. -/
def checkResult (allowed : List Annotation) (handler : Descriptor) : CheckResult :=
  let accepted := Annotation.withDeferred allowed
  if handler.result.isAssignableToSome accepted then ⟨none, []⟩
  else ⟨none, [.resultType accepted]⟩

namespace Descriptor

/-- The first parameter that can take the log writer. -/
def logParameter? (handler : Descriptor) : Option String :=
  (handler.parameters.find? fun p =>
    p.annotation.isAssignable (.cls (.known .logger))).map (·.name)

/-- The parameters that are not among the bound names. -/
def unbound (handler : Descriptor) (bound : List String) : List String :=
  (handler.parameters.filter fun p => !bound.contains p.name).map (·.name)

end Descriptor

/-- The message for a parameter that no one binds. -/
def unboundMessage (name : String) : String :=
  "Parameter '" ++ name ++ "' is not bound"

end HandlerBundle
