import HandlerBundle.Handler.Descriptor
import HandlerBundle.Handler.Signature
import HandlerBundle.Text.Dotted

/-!
# Describing callables

A callable is a function, a function that wraps another callable and shows its signature, a partial
application, or a bound method. Anything else is no handler. Its description looks up the
annotations of the function at the bottom and drops what the layers above supply.

## Main definitions

* `Callable`, `FunctionHeader`.
* `Callable.describe?` — the descriptor of a callable.
-/

namespace HandlerBundle

/-- What a function says of itself. -/
structure FunctionHeader where
  name : String
  /-- The module that declares the function, as it stands in a text. -/
  module : String
  qualname : String
  isAsync : Bool
  /-- The annotations by parameter name, in order, and that of the result under `return`. -/
  annotations : List (String × Annotation)
  /-- Where the texts of the annotations are looked up. -/
  hintScope : Scope := .empty

/-- What the host may be given to call. -/
inductive Callable where
  | function (header : FunctionHeader) (signature : Signature)
  /-- A function that shows the signature of the callable it wraps. -/
  | wrapper (header : FunctionHeader) (inner : Callable)
  | partialApplication (inner : Callable) (count : Nat) (keywords : List String)
  | method (inner : Callable)
  /-- Something that is not a function at the bottom. -/
  | other

/-- Why a value is no handler. -/
inductive DescribeError where
  | notAFunction
  | noSignature (cause : SignatureError)
  deriving DecidableEq, Repr

namespace DescribeError

/-- The message of the error. -/
def message : DescribeError → String
  | .notAFunction => "Not a function"
  | .noSignature .noReceiver => "Not a function: invalid method signature"
  | .noSignature .wrongArguments => "Not a function: partial object has wrong arguments"

end DescribeError

namespace Callable

/-- The header of the function at the bottom. -/
def header? : Callable → Option FunctionHeader
  | .function header _ | .wrapper header _ => some header
  | .partialApplication inner _ _ | .method inner => inner.header?
  | .other => none

/-- The parameters of a call. -/
def signature : Callable → Except SignatureError Signature
  | .function _ sig => .ok sig
  | .wrapper _ inner => inner.signature
  | .partialApplication inner count keywords => do
    (← inner.signature).apply count keywords
  | .method inner => do (← inner.signature).dropReceiver
  | .other => .ok []

/-- The names that the layers above the function give by keyword. -/
def suppliedKeywords : Callable → List String
  | .partialApplication inner _ keywords => keywords ++ inner.suppliedKeywords
  | .method inner => inner.suppliedKeywords
  | _ => []

end Callable

namespace FunctionHeader

/-- Where a function is declared: its module, and within it all but the last component of its
qualified name. -/
def scope (header : FunctionHeader) : String :=
  let outer := parentName header.qualname
  if outer.isEmpty then header.module else header.module ++ "." ++ outer

/-- The annotations with their texts looked up, from the first to the last. -/
def hints (header : FunctionHeader) : Except HintError (List (String × Annotation)) :=
  header.annotations.mapM fun (name, t) => do return (name, ← t.resolve header.hintScope)

end FunctionHeader

/-- The hint for a name; anything will do where there is none. -/
def hintFor (hints : List (String × Annotation)) (name : String) : Annotation :=
  match hints.find? fun entry => entry.1 == name with
  | some entry => entry.2.normal
  | none => Annotation.any

namespace Callable

/-- The shape errors of parameters that the host cannot give. -/
def shapeErrorsOf (params : Signature) : List ShapeError :=
  params.filterMap fun p =>
    match p.kind with
    | .variadicPositional | .variadicKeyword => some (.variadic p.name)
    | .positionalOnly => some (.positionalOnly p.name)
    | _ => none

/-- Whether the host can give a parameter by name. -/
def isNamed (p : FormalParameter) : Bool :=
  p.kind == .positionalOrKeyword || p.kind == .keywordOnly

/-- The description of a callable. A parameter that a layer supplies by keyword is left out by its
name, whatever its kind. -/
def describe? (f : Callable) : Except DescribeError Descriptor :=
  match f.header? with
  | none => .error .notAFunction
  | some header =>
    match f.signature with
    | .error cause => .error (.noSignature cause)
    | .ok sig =>
      let (hints, unresolved) := match header.hints with
        | .ok hints => (hints, [])
        | .error cause => ([], [ShapeError.unresolved cause])
      let left := sig.filter fun p => !f.suppliedKeywords.contains p.name
      let result := hintFor hints "return"
      .ok
        { scope := header.scope
          name := header.name
          parameters := (left.filter isNamed).map fun p => ⟨p.name, hintFor hints p.name⟩
          result :=
            if header.isAsync then .generic .direct (.known .awaitable) [result] else result
          shapeErrors := unresolved ++ shapeErrorsOf left }

end Callable

end HandlerBundle
