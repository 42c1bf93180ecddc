import HandlerBundle.Annotation.Subscript

/-!
# Looking up texts in annotations

An annotation may be a text, or hold texts among its arguments; such texts are expressions to be
looked up when the signature of a handler is described. What they come to depends on the names of
the module that declares the handler. Notes are stripped afterwards.

## Main definitions

* `Scope`, `HintError` — where texts are looked up, and why that can fail.
* `Annotation.resolve` — an annotation with all its texts looked up and its notes stripped.
-/

namespace HandlerBundle

/-- Why an annotation cannot be resolved: the kind of an exception, and its message. -/
structure HintError where
  kind : String
  message : String
  deriving DecidableEq, Repr

/-- The names that the texts of annotations can use: those of the module in which a function is
declared, and the built-in ones. -/
structure Scope where
  /-- The annotation that a text comes to as an expression, with the texts in it looked up. -/
  evaluate : String → Except HintError Annotation

namespace Scope

/-- No names at all. -/
def empty : Scope where
  evaluate text := .error ⟨"NameError", "name " ++ quoted text ++ " is not defined"⟩

instance : Inhabited Scope := ⟨empty⟩

end Scope

namespace Annotation

mutual

/-- An argument of a class in brackets; a text is looked up. -/
def resolveArgument (scope : Scope) : Annotation → Except HintError Annotation
  | .value (.text s) => scope.evaluate s
  | t => resolveNames scope t

/-- The parameters of a callable, which are arguments like its result. -/
def resolveCallableArgument (scope : Scope) : Annotation → Except HintError Annotation
  | .params ts => do return .params (← resolveArguments scope ts)
  | t => resolveArgument scope t

/-- Looks up the texts in an annotation. Lists are left alone, except as parameters of a
callable. -/
def resolveNames (scope : Scope) : Annotation → Except HintError Annotation
  | .forward name => scope.evaluate name
  | .generic spelling c ts => do
    if c == .known .callable then
      return .generic spelling c (← resolveCallableArguments scope ts)
    else return .generic spelling c (← resolveArguments scope ts)
  | .union spelling ts => do return unionOf spelling (← resolveArguments scope ts)
  | .annotated t note => do return .annotated (← resolveArgument scope t) note
  | t => .ok t

/-- Looks up the texts in arguments, from the first to the last. -/
def resolveArguments (scope : Scope) : List Annotation → Except HintError (List Annotation)
  | [] => .ok []
  | t :: ts => do
    let t ← resolveArgument scope t
    let ts ← resolveArguments scope ts
    return t :: ts

/-- Looks up the texts in the arguments of a callable. -/
def resolveCallableArguments (scope : Scope) :
    List Annotation → Except HintError (List Annotation)
  | [] => .ok []
  | t :: ts => do
    let t ← resolveCallableArgument scope t
    let ts ← resolveCallableArguments scope ts
    return t :: ts

end

mutual

/-- An annotation without its notes, at any depth of generics and unions. -/
def stripNotes : Annotation → Annotation
  | .annotated t _ => stripNotes t
  | .generic spelling c ts =>
    if c == .known .callable then .generic spelling c (stripCallableNotes ts)
    else .generic spelling c (stripNotesList ts)
  | .union spelling ts => unionOf spelling (stripNotesList ts)
  | t => t

/-- Annotations without their notes. -/
def stripNotesList : List Annotation → List Annotation
  | [] => []
  | t :: ts => stripNotes t :: stripNotesList ts

/-- The arguments of a callable without their notes, those of its parameters included. -/
def stripCallableNotes : List Annotation → List Annotation
  | [] => []
  | .params us :: ts => .params (stripNotesList us) :: stripCallableNotes ts
  | t :: ts => stripNotes t :: stripCallableNotes ts

end

/-- An annotation with its texts looked up and its notes stripped. -/
def resolve (scope : Scope) (t : Annotation) : Except HintError Annotation := do
  let t ← match t with
    | .absent => .ok noneType
    | .value (.text s) => scope.evaluate s
    | t => resolveNames scope t
  return stripNotes t

end Annotation

end HandlerBundle
