import HandlerBundle.Annotation.Basic

/-!
# Names of annotations

An annotation has three written forms. The *full name* goes into signatures and generated text: it
names classes with their modules and brackets arguments. The *short name* goes into messages. The
*display* is the form in which an annotation stands inside a list in a message.

## Main definitions

* `Annotation.fullName`, `Annotation.shortName`, `Annotation.display`.
-/

namespace HandlerBundle

namespace Annotation

/-- The absent value, or its class. -/
def isNone : Annotation → Bool
  | .absent => true
  | .cls c => c == .known .noneType
  | _ => false

mutual

/-- The full name of an annotation. -/
def fullName : Annotation → String
  | .absent => "None"
  | .cls c => if c == .known .noneType then "None" else c.fullName
  | .form f => f.fullName
  | .bare c => c.fullName
  | .generic _ c ts =>
    match ts with
    | [] => c.fullName
    | [t, .value .ellipsis] =>
      if c == .known .tuple then fullName t ++ " []"
      else c.fullName ++ "<" ++ fullName t ++ ", Ellipsis>"
    | t :: rest => c.fullName ++ "<" ++ fullName t ++ fullNamesAfter rest ++ ">"
  | .union spelling ts =>
    let head := match spelling with
      | .aliased => "typing.Union"
      | .direct => "types.UnionType"
    match ts with
    | [] => head
    | t :: rest => head ++ "<" ++ fullName t ++ fullNamesAfter rest ++ ">"
  | .literal vs => "typing.Literal<" ++ ", ".intercalate (vs.map Constant.display) ++ ">"
  | .annotated t note => "typing.Annotated<" ++ fullName t ++ ", " ++ quoted note ++ ">"
  | .params ts =>
    match ts with
    | [] => "[]"
    | t :: rest => "[" ++ fullName t ++ fullNamesAfter rest ++ "]"
  | .forward name => "ForwardRef(" ++ quoted name ++ ")"
  | .value c => c.display

/-- The full names of further arguments, each after a comma. -/
def fullNamesAfter : List Annotation → String
  | [] => ""
  | t :: rest => ", " ++ fullName t ++ fullNamesAfter rest

end

/-- The arguments of an alias in its display. -/
def displayArgs : List String → String
  | [] => "()"
  | args => ", ".intercalate args

/-- A class as an argument in a display. -/
def argumentName (c : Class) : String :=
  if c.module == "builtins" then c.qualname else c.fullName

/-- The name of the alias of a class. -/
def aliasName (c : Class) : String :=
  match c with
  | .known .list => "typing.List"
  | .known .dict => "typing.Dict"
  | .known .tuple => "typing.Tuple"
  | .known .set => "typing.Set"
  | .known .frozenset => "typing.FrozenSet"
  | .known .typeClass => "typing.Type"
  | c => "typing." ++ c.name

mutual

/-- The form in which an annotation stands in a message. -/
def display : Annotation → String
  | .absent => "None"
  | .cls c => c.display
  | .form f =>
    match f with
    | .typeVariable _ n => "~" ++ n
    | .function n => "<built-in function " ++ n ++ ">"
    | f => f.fullName
  | .bare c => aliasName c
  | .generic spelling c ts =>
    let head := match spelling with
      | .aliased => aliasName c
      | .direct => argumentName c
    head ++ "[" ++ displayArgs (argumentDisplays ts) ++ "]"
  | .union .direct ts => " | ".intercalate (unionDisplays ts)
  | .union .aliased ts =>
    let rest := otherDisplays ts
    if ts.length == 2 && rest.length == 1 then "typing.Optional[" ++ ", ".intercalate rest ++ "]"
    else "typing.Union[" ++ ", ".intercalate (argumentDisplays ts) ++ "]"
  | .literal vs => "typing.Literal[" ++ ", ".intercalate (vs.map Constant.display) ++ "]"
  | .annotated t note => "typing.Annotated[" ++ argumentDisplay t ++ ", " ++ quoted note ++ "]"
  | .params ts => "[" ++ ", ".intercalate (displays ts) ++ "]"
  | .forward name => "ForwardRef(" ++ quoted name ++ ")"
  | .value c => c.display

/-- The displays of the elements of a list. -/
def displays : List Annotation → List String
  | [] => []
  | t :: ts => display t :: displays ts

/-- An annotation as an argument: classes by name, the ellipsis by its dots, lists by the same
rule for their elements. -/
def argumentDisplay : Annotation → String
  | .cls c => if c == .known .any then "typing.Any" else argumentName c
  | .value .ellipsis => "..."
  | .params ts => "[" ++ ", ".intercalate (argumentDisplays ts) ++ "]"
  | t => display t

/-- The displays of arguments. -/
def argumentDisplays : List Annotation → List String
  | [] => []
  | t :: ts => argumentDisplay t :: argumentDisplays ts

/-- The displays of the members of a union with a bar, where the class of the absent value is
written as that value. -/
def unionDisplays : List Annotation → List String
  | [] => []
  | t :: ts => (if isNone t then "None" else argumentDisplay t) :: unionDisplays ts

/-- The displays of the members other than the absent value. -/
def otherDisplays : List Annotation → List String
  | [] => []
  | t :: ts => if isNone t then otherDisplays ts else argumentDisplay t :: otherDisplays ts

end

/-- The short name of a named thing: a text without characters is passed over for the display. -/
def nameOr (name : String) (other : String) : String :=
  if name.isEmpty then other else name

/-- The short name of a class that generics are built over. -/
def shortClass (c : Class) : String := nameOr c.name c.display

/-- The short name of a constant; the ellipsis by its dots. -/
def shortConstant : Constant → String
  | .ellipsis => "..."
  | c => c.plainText

/-- A head with arguments in brackets, or the head alone when the arguments leave no text. -/
def bracketed (head args : String) : String :=
  if args.isEmpty then head else head ++ "[" ++ args ++ "]"

mutual

/-- The short name of an annotation. -/
def shortName : Annotation → String
  | .absent => "None"
  | .cls c => if c == .known .noneType then "None" else nameOr c.name c.display
  | .form f => f.name
  | .bare c => c.name
  | .generic _ c ts => bracketed (shortClass c) (", ".intercalate (shortArguments ts))
  | .union spelling ts =>
    let head := match spelling with
      | .aliased => "Union"
      | .direct => "UnionType"
    bracketed head (", ".intercalate (shortArguments ts))
  | .literal vs => bracketed "Literal" (", ".intercalate (vs.map shortConstant))
  | .annotated t note => bracketed "Annotated" (shortName t ++ ", " ++ note)
  | .params ts => "[" ++ ", ".intercalate (displays ts) ++ "]"
  | .forward name => "ForwardRef(" ++ quoted name ++ ")"
  | .value c => c.plainText

/-- The short names of arguments; the ellipsis by its dots. -/
def shortArguments : List Annotation → List String
  | [] => []
  | .value .ellipsis :: ts => "..." :: shortArguments ts
  | t :: ts => shortName t :: shortArguments ts

end

/-- The allowed annotations as they stand in a message. -/
def describe (ts : List Annotation) : String :=
  (if 1 < ts.length then "one of " else "a ") ++ ", ".intercalate (ts.map shortName)

end Annotation

end HandlerBundle
