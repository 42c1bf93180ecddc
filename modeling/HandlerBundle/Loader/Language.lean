import HandlerBundle.Loader.Source
import HandlerBundle.Text.Composed
import HandlerBundle.Text.Identifier

/-!
# The language of the generated sources

The generated sources are programs of a small language: they import and assign, look at conditions,
hold a lock, call what they have imported, and define one function. Two names are the same if their
composed forms are.

## Main definitions

* `Expression`, `Statement`, `Routine`, `Item`, `Program` — programs.
* `Program.source` — how a program is written.
* `Program.compiles` — whether a compiler takes a program.
-/

namespace HandlerBundle.Generated

/-- What has a value. -/
inductive Expression where
  | none
  | text (s : String)
  | number (n : Nat)
  | name (n : String)
  | member (e : Expression) (n : String)
  /-- A call with arguments by position, and with variables by name. -/
  | call (f : Expression) (arguments : List Expression) (keywords : List (String × String))
  | isNone (e : Expression)
  | isNotIn (e collection : Expression)

/-- What is done. -/
inductive Statement where
  | global (n : String)
  | assign (n : String) (e : Expression)
  /-- An assignment of a call whose arguments have a line of their own. -/
  | assignCall (n : String) (f : Expression) (arguments : List Expression)
  | perform (e : Expression)
  | returns (e : Expression)
  | ifThen (condition : Expression) (body : List Statement)
  | within (lock : Expression) (body : List Statement)

/-- A function with its parameters and its result, each with a type in words. -/
structure Routine where
  name : String
  parameters : List (String × String)
  result : String
  body : List Statement

/-- A part of a program. -/
inductive Item where
  | blank
  | remark (s : String)
  | importAs (path name : String)
  | statement (s : Statement)
  | define (f : Routine)

/-- A program. -/
abbrev Program := List Item

/-! ### How programs are written -/

mutual

/-- How an expression is written. -/
def Expression.written : Expression → String
  | .none => "None"
  | .text s => quoted s
  | .number n => toString n
  | .name n => n
  | .member e n => e.written ++ "." ++ n
  | .call f arguments keywords =>
    let given := Expression.writtenAll arguments ++ keywords.map fun k => k.1 ++ "=" ++ k.2
    f.written ++ "(" ++ ", ".intercalate given ++ ")"
  | .isNone e => e.written ++ " is None"
  | .isNotIn e collection => e.written ++ " not in " ++ collection.written

/-- How expressions are written. -/
def Expression.writtenAll : List Expression → List String
  | [] => []
  | e :: es => e.written :: Expression.writtenAll es

end

/-- What a block is moved in by. -/
def indentation : String := "    "

mutual

/-- The lines of a statement that is moved in. -/
def Statement.lines (indent : String) : Statement → List String
  | .global n => [indent ++ "global " ++ n]
  | .assign n e => [indent ++ n ++ " = " ++ e.written]
  | .assignCall n f arguments =>
    [indent ++ n ++ " = " ++ f.written ++ "(",
      indent ++ indentation ++ ", ".intercalate (Expression.writtenAll arguments),
      indent ++ ")"]
  | .perform e => [indent ++ e.written]
  | .returns e => [indent ++ "return " ++ e.written]
  | .ifThen condition body =>
    (indent ++ "if " ++ condition.written ++ ":") :: Statement.linesAll (indent ++ indentation) body
  | .within lock body =>
    (indent ++ "with " ++ lock.written ++ ":") :: Statement.linesAll (indent ++ indentation) body

/-- The lines of statements that are moved in. -/
def Statement.linesAll (indent : String) : List Statement → List String
  | [] => []
  | s :: rest => s.lines indent ++ Statement.linesAll indent rest

end

/-- The lines of a function. -/
def Routine.lines (f : Routine) : List String :=
  ("def " ++ f.name ++ "(" ++ WrittenSignature.parameterList f.parameters ++ ") -> " ++
    quoted f.result ++ ":") :: Statement.linesAll indentation f.body

/-- The lines of a part of a program. -/
def Item.lines : Item → List String
  | .blank => [""]
  | .remark s => ["\"\"\"" ++ s ++ "\"\"\""]
  | .importAs path name => ["import " ++ path ++ " as " ++ name]
  | .statement s => s.lines ""
  | .define f => f.lines

/-- How a program is written. -/
def Program.source (program : Program) : String :=
  sourceLines (program.flatMap Item.lines)

/-! ### The names in a program -/

mutual

/-- The variables that an expression refers to. -/
@[simp] def Expression.names : Expression → List String
  | .none | .text _ | .number _ => []
  | .name n => [n]
  | .member e _ => e.names
  | .call f arguments keywords =>
    f.names ++ Expression.namesAll arguments ++ keywords.map Prod.snd
  | .isNone e => e.names
  | .isNotIn e collection => e.names ++ collection.names

/-- The variables that expressions refer to. -/
@[simp] def Expression.namesAll : List Expression → List String
  | [] => []
  | e :: es => e.names ++ Expression.namesAll es

end

mutual

/-- The names in an expression that are no variables: of members, and of arguments by name. -/
@[simp] def Expression.labels : Expression → List String
  | .none | .text _ | .number _ | .name _ => []
  | .member e n => n :: e.labels
  | .call f arguments keywords =>
    f.labels ++ Expression.labelsAll arguments ++ keywords.map Prod.fst
  | .isNone e => e.labels
  | .isNotIn e collection => e.labels ++ collection.labels

/-- The names in expressions that are no variables. -/
@[simp] def Expression.labelsAll : List Expression → List String
  | [] => []
  | e :: es => e.labels ++ Expression.labelsAll es

end

mutual

/-- Whether no call in an expression gives two arguments by the same name. -/
@[simp] def Expression.keywordsDiffer : Expression → Bool
  | .none | .text _ | .number _ | .name _ => true
  | .member e _ => e.keywordsDiffer
  | .call f arguments keywords =>
    f.keywordsDiffer && Expression.keywordsDifferAll arguments &&
      decide (keywords.map fun k => composedText k.1).Nodup
  | .isNone e => e.keywordsDiffer
  | .isNotIn e collection => e.keywordsDiffer && collection.keywordsDiffer

/-- Whether no call in expressions gives two arguments by the same name. -/
@[simp] def Expression.keywordsDifferAll : List Expression → Bool
  | [] => true
  | e :: es => e.keywordsDiffer && Expression.keywordsDifferAll es

end

mutual

/-- The expressions in a statement, those of its blocks included. -/
@[simp] def Statement.expressions : Statement → List Expression
  | .global _ => []
  | .assign _ e => [e]
  | .assignCall _ f arguments => [.call f arguments []]
  | .perform e | .returns e => [e]
  | .ifThen condition body => condition :: Statement.expressionsAll body
  | .within lock body => lock :: Statement.expressionsAll body

/-- The expressions in statements. -/
@[simp] def Statement.expressionsAll : List Statement → List Expression
  | [] => []
  | s :: rest => s.expressions ++ Statement.expressionsAll rest

end

mutual

/-- The names that a statement assigns to. -/
@[simp] def Statement.assigned : Statement → List String
  | .global _ | .perform _ | .returns _ => []
  | .assign n _ | .assignCall n _ _ => [n]
  | .ifThen _ body | .within _ body => Statement.assignedAll body

/-- The names that statements assign to. -/
@[simp] def Statement.assignedAll : List Statement → List String
  | [] => []
  | s :: rest => s.assigned ++ Statement.assignedAll rest

end

mutual

/-- The names that a statement declares to be those of the program. -/
@[simp] def Statement.globals : Statement → List String
  | .global n => [n]
  | .assign _ _ | .assignCall _ _ _ | .perform _ | .returns _ => []
  | .ifThen _ body | .within _ body => Statement.globalsAll body

/-- The names that statements declare to be those of the program. -/
@[simp] def Statement.globalsAll : List Statement → List String
  | [] => []
  | s :: rest => s.globals ++ Statement.globalsAll rest

end

/-- The variables that statements refer to. -/
def Statement.namesAll (body : List Statement) : List String :=
  Statement.globalsAll body ++ Statement.assignedAll body ++
    Expression.namesAll (Statement.expressionsAll body)

namespace Routine

/-- The parameters of a function in composed form. -/
def formals (f : Routine) : List String :=
  f.parameters.map fun p => composedText p.1

/-- The variables that belong to a call of a function: its parameters, and what it assigns to. -/
def localNames (f : Routine) : List String :=
  f.formals ++ ((Statement.assignedAll f.body).map composedText).filter fun n =>
    !((Statement.globalsAll f.body).map composedText).contains n

/-- The call that the last statement of a function returns. -/
def finalCall? (f : Routine) :
    Option (Expression × List Expression × List (String × String)) :=
  match f.body.getLast? with
  | some (.returns (.call g arguments keywords)) => some (g, arguments, keywords)
  | _ => none

end Routine

/-! ### What a compiler takes -/

/-- Whether a name can be that of a variable which is assigned to. -/
def isAssignable (n : String) : Bool :=
  isVariableName n && composedText n != "__debug__"

/-- Whether statements use nothing but names in the place of names. -/
def Statement.compileAll (body : List Statement) : Bool :=
  (Statement.namesAll body).all isAssignable &&
    (Expression.labelsAll (Statement.expressionsAll body)).all isAssignable &&
    Expression.keywordsDifferAll (Statement.expressionsAll body)

/-- Whether a compiler takes a function: its parameters are different from each other and from the
names of the program that it assigns to. -/
def Routine.compiles (f : Routine) : Bool :=
  (f.name :: f.parameters.map Prod.fst).all isAssignable && Statement.compileAll f.body &&
    decide f.formals.Nodup &&
    f.formals.all fun n => !((Statement.globalsAll f.body).map composedText).contains n

/-- Whether a compiler takes a part of a program. A remark has no characters that end it or change
what it says. -/
def Item.compiles : Item → Bool
  | .blank => true
  | .remark s => s.toList.all fun c => c != '"' && c != '\\' && c != '\x00'
  | .importAs _ name => isAssignable name
  | .statement s => Statement.compileAll [s]
  | .define f => f.compiles

/-- Whether a compiler takes a program. -/
def Program.compiles (program : Program) : Bool :=
  program.all Item.compiles

/-- The function that a program defines last. -/
def Program.function? (program : Program) : Option Routine :=
  match program.getLast? with
  | some (.define f) => some f
  | _ => none

end HandlerBundle.Generated
