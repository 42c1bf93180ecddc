import HandlerBundle.Annotation.Hint

/-!
# Handler descriptors

A descriptor is what the host knows of a handler: where it is declared, its name, the parameters
left to be given, each with its annotation, and the declared result. A handler that the host cannot
call has shape errors.

## Main definitions

* `Parameter`, `Descriptor`, `ShapeError`.
-/

namespace HandlerBundle

/-- A parameter that the host has to give. -/
structure Parameter where
  name : String
  annotation : Annotation
  deriving Inhabited

/-- Why the host cannot call a handler. -/
inductive ShapeError where
  | unresolved (cause : HintError)
  | variadic (name : String)
  | positionalOnly (name : String)
  /-- A reason given in words. -/
  | stated (text : String)
  deriving DecidableEq, Repr

namespace ShapeError

/-- The message of the error. -/
def message : ShapeError → String
  | .unresolved cause => "Cannot resolve annotations: " ++ cause.kind ++ ": " ++ cause.message
  | .variadic name => "Parameter '" ++ name ++ "' cannot be variadic"
  | .positionalOnly name => "Parameter '" ++ name ++ "' cannot be positional-only"
  | .stated text => text

end ShapeError

/-- What the host knows of a handler. -/
structure Descriptor where
  scope : String
  name : String
  parameters : List Parameter
  result : Annotation
  shapeErrors : List ShapeError
  deriving Inhabited

namespace Descriptor

/-- The name of a handler with the scope that declares it. -/
def qualifiedName (handler : Descriptor) : String :=
  handler.scope ++ "." ++ handler.name

/-- The first parameter of the given name. -/
def parameter? (handler : Descriptor) (name : String) : Option Parameter :=
  handler.parameters.find? fun p => p.name == name

end Descriptor

end HandlerBundle
