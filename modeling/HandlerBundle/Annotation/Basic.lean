import HandlerBundle.Annotation.Class
import HandlerBundle.Constant

/-!
# Annotations

An annotation is what a handler writes beside a parameter or behind its arrow: a class, a named
form that is no class, a generic over arguments, a union, a choice of constants, or a text that
still has to be looked up. Generics and unions have two spellings, which some comparisons tell
apart and others do not.

## Main definitions

* `Annotation` — the annotations.
* `Annotation.same` — when two annotations are equal.
* `Annotation.origin?`, `Annotation.args` — what a generic is built over, and its arguments.
* `Annotation.normal` — the absence of a value as the class of that value.
-/

namespace HandlerBundle

/-- The named forms that are no classes. -/
inductive NamedForm where
  | typeVariable (module name : String)
  | newType (module name : String)
  | special (name : String)
  | function (name : String)
  deriving DecidableEq, Repr

namespace NamedForm

/-- The bare name of a form. -/
def name : NamedForm → String
  | .typeVariable _ n | .newType _ n | .special n | .function n => n

/-- The name of a form with its module. -/
def fullName : NamedForm → String
  | .typeVariable m n | .newType m n => m ++ "." ++ n
  | .special n => "typing." ++ n
  | .function n => "builtins." ++ n

end NamedForm

/-- The two spellings of generics and unions: through the classes themselves, or through their
aliases. -/
inductive Spelling where
  | direct
  | aliased
  deriving DecidableEq, Repr

/-- What is written beside a parameter or behind the arrow of a handler. -/
inductive Annotation where
  /-- The absent value, which stands for its class. -/
  | absent
  | cls (c : Class)
  | form (f : NamedForm)
  /-- An alias of a class, without arguments. -/
  | bare (c : Class)
  | generic (spelling : Spelling) (c : Class) (args : List Annotation)
  | union (spelling : Spelling) (members : List Annotation)
  | literal (values : List Constant)
  | annotated (t : Annotation) (note : String)
  /-- A list of annotations, as in the parameters of a callable. -/
  | params (ts : List Annotation)
  /-- A text to be looked up. -/
  | forward (text : String)
  | value (c : Constant)
  deriving Inhabited, Repr

namespace Annotation

/-- The class of the absent value. -/
def noneType : Annotation := .cls (.known .noneType)

/-- The annotation that everything satisfies. -/
def any : Annotation := .cls (.known .any)

/-- The absent value as its class. -/
def normal : Annotation → Annotation
  | .absent => noneType
  | t => t

/-- A constant as an annotation. -/
def ofConstant : Constant → Annotation
  | .none => .absent
  | c => .value c

mutual

/-- When two annotations are equal. Generics are equal when spelling, class and arguments are;
unions of either spelling when each member of one is among those of the other; choices when they
offer the same constants. -/
def same : Annotation → Annotation → Bool
  | .absent, .absent => true
  | .cls c, .cls d => c == d
  | .form f, .form g => f == g
  | .bare c, .bare d => c == d
  | .generic s c ts, .generic r d us => s == r && c == d && sameList ts us
  | .union _ ts, .union _ us => eachIn ts us && us.all fun u => someSame ts u
  | .literal vs, .literal ws => vs.all ws.contains && ws.all vs.contains
  | .annotated t m, .annotated u n => m == n && same t u
  | .params ts, .params us => sameList ts us
  | .forward m, .forward n => m == n
  | .value c, .value d => c.same d
  | _, _ => false

/-- Whether two lists are equal, place by place. -/
def sameList : List Annotation → List Annotation → Bool
  | [], [] => true
  | t :: ts, u :: us => same t u && sameList ts us
  | _, _ => false

/-- Whether each annotation of the first list equals one of the second. -/
def eachIn : List Annotation → List Annotation → Bool
  | [], _ => true
  | t :: ts, us => (us.any fun u => same t u) && eachIn ts us

/-- Whether some annotation of a list equals the given one. -/
def someSame : List Annotation → Annotation → Bool
  | [], _ => false
  | t :: ts, u => same t u || someSame ts u

end

/-- What an annotation is built over, if it has that form. -/
def origin? : Annotation → Option Annotation
  | .bare c | .generic _ c _ => some (.cls c)
  | .union .aliased _ => some (.form (.special "Union"))
  | .union .direct _ => some (.cls (.known .unionType))
  | .literal _ => some (.form (.special "Literal"))
  | .annotated _ _ => some (.cls (.known .annotated))
  | _ => none

/-- The arguments of an annotation. -/
def args : Annotation → List Annotation
  | .generic _ _ ts | .union _ ts => ts
  | .literal vs => vs.map ofConstant
  | .annotated t note => [t, .value (.text note)]
  | _ => []

/-- Whether both annotations are classes and the first is counted under the second. -/
def isSubclass : Annotation → Annotation → Bool
  | .cls c, .cls d => c.isSubclass d
  | _, _ => false

end Annotation

end HandlerBundle
