import HandlerBundle.Annotation.Basic

/-!
# Building annotations

Annotations are built by subscripts, bars and choices. A union is flat and has no member twice, and
a union of one member is that member. Subscripts of an alias turn texts into names to be looked up
and the absent value into its class; subscripts of a class keep their arguments as they are.

## Main definitions

* `Annotation.subscript`, `Annotation.optional`, `Annotation.choice`.
* `Annotation.unionOf`, `Annotation.bar` — the two spellings of unions.
-/

namespace HandlerBundle

namespace Annotation

mutual

/-- An argument as an alias takes it. -/
def aliasArgument : Annotation → Annotation
  | .absent => noneType
  | .value (.text s) => .forward s
  | .params ts => .params (aliasArguments ts)
  | t => t

/-- The arguments of an alias. -/
def aliasArguments : List Annotation → List Annotation
  | [] => []
  | t :: ts => aliasArgument t :: aliasArguments ts

end

/-- The members of a union, or the annotation as the only member. -/
def members : Annotation → List Annotation
  | .union _ ts => ts
  | t => [t]

/-- Keeps the first of equal annotations; `seen` holds those already kept. -/
def keepFirst (seen : List Annotation) : List Annotation → List Annotation
  | [] => []
  | t :: ts => if someSame seen t then keepFirst seen ts else t :: keepFirst (seen ++ [t]) ts

/-- The union of annotations: flat, without duplicates, and no union at all over one member. -/
def unionOf (spelling : Spelling) (ts : List Annotation) : Annotation :=
  match keepFirst [] (ts.flatMap members) with
  | [t] => t
  | ts => .union spelling ts

/-- A union through the alias. -/
def aliasUnion (ts : List Annotation) : Annotation :=
  unionOf .aliased (aliasArguments ts)

/-- An annotation or the absent value. -/
def optional (t : Annotation) : Annotation :=
  aliasUnion [t, noneType]

/-- Whether a bar with this operand gives a union through the alias. -/
def spellsAlias : Annotation → Bool
  | .bare _ | .generic .aliased _ _ | .union .aliased _ | .literal _ | .annotated _ _
  | .form _ | .forward _ => true
  | _ => false

/-- Two annotations with a bar between them. -/
def bar (t u : Annotation) : Annotation :=
  if spellsAlias t || spellsAlias u then aliasUnion [t, u]
  else unionOf .direct [t.normal, u.normal]

/-- A choice of constants, each once. -/
def choice (values : List Constant) : Annotation :=
  .literal (values.foldl (fun kept c => if kept.contains c then kept else kept ++ [c]) [])

/-- An annotation with a note. -/
def withNote (t : Annotation) (note : String) : Annotation :=
  .annotated (aliasArgument t) note

/-- A class or form with arguments in brackets. -/
def subscript (head : Annotation) (args : List Annotation) : Annotation :=
  match head with
  | .cls c => .generic .direct c args
  | .bare c => .generic .aliased c (aliasArguments args)
  | .form (.special "Optional") => optional (args.headD .absent)
  | .form (.special "Union") => aliasUnion args
  | t => t

end Annotation

end HandlerBundle
