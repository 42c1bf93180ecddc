import HandlerBundle.Loader.Language

/-!
# Running the generated sources

The entry point is run once, when it is imported: it makes a module from the loader, and has the
loader run in that module. After that its function can be called any number of times. What the
programs import comes from elsewhere: a call of it is recorded, and stands for what it comes to,
unless it raises an exception.

## Main definitions

* `Value`, `Machine` — values, and what a run has come to.
* `Library` — what is known of the imported functions.
* `callValue` — what a call comes to.
* `loadEntry`, `callEntry` — imports the entry point, and calls its function.
-/

namespace HandlerBundle.Generated

/-- The two programs. -/
inductive Part where
  | entry
  | loader
  deriving DecidableEq

/-- A value. -/
inductive Value where
  | none
  | text (s : String)
  | number (n : Nat)
  | truth (b : Bool)
  | imported (path : String)
  | member (v : Value) (n : String)
  /-- What a call of an imported function comes to. -/
  | returned (f : Value) (arguments : List Value) (keywords : List (String × Value))
  /-- A function of one of the two programs. -/
  | function (part : Part) (f : Routine)

/-- Whether a value is the empty one. -/
def Value.isNone : Value → Bool
  | .none => true
  | _ => false

/-- The values of names, each under its composed form. -/
abbrev NameTable := List (String × Value)

namespace NameTable

/-- The value of a name. -/
def find? (scope : NameTable) (n : String) : Option Value :=
  List.lookup (composedText n) scope

/-- Gives a value to a name. -/
def bind (scope : NameTable) (n : String) (v : Value) : NameTable :=
  (composedText n, v) :: scope

end NameTable

/-- Why a run stops. -/
inductive RunError where
  | unbound (n : String)
  /-- A function does not take the arguments of a call. -/
  | arguments (f : String)
  /-- Nothing can be returned outside of a function. -/
  | misplaced
  | tooDeep
  /-- An imported function raises an exception. -/
  | raised (call : Value)

/-- The names of the two programs, those of the function that is run, and the calls of imported
functions so far. -/
structure Machine where
  entry : NameTable
  loader : NameTable
  locals : NameTable
  calls : List Value

namespace Machine

/-- The names of a program. -/
def globals (m : Machine) : Part → NameTable
  | .entry => m.entry
  | .loader => m.loader

/-- Gives a value to a name of a program. -/
def bindGlobal (m : Machine) (part : Part) (n : String) (v : Value) : Machine :=
  match part with
  | .entry => { m with entry := m.entry.bind n v }
  | .loader => { m with loader := m.loader.bind n v }

end Machine

/-- Steps of a run. -/
abbrev Run := ExceptT RunError (StateM Machine)

/-- What is known of the imported functions: what a collection contains, and which calls raise an
exception after the calls that were made before. -/
structure Library where
  contains : Value → Value → Bool
  raises : List Value → Value → Bool

/-- Records a call of an imported function. -/
def noteCall (call : Value) : Run PUnit :=
  modify fun m => { m with calls := m.calls ++ [call] }

/-- Calls an imported function. -/
def Library.call (library : Library) (f : Value) (arguments : List Value)
    (keywords : List (String × Value)) : Run Value := do
  let call := Value.returned f arguments keywords
  let before := (← get).calls
  noteCall call
  if library.raises before call then throw (.raised call) else return call

/-- What a call comes to. -/
abbrev Caller := Value → List Value → List (String × Value) → Run Value

/-- Where statements are run: the program whose names they see, and the names that belong to the
call of the function they stand in. -/
structure Frame where
  part : Part
  localNames : List String

namespace Frame

/-- The value of a variable. -/
def read (frame : Frame) (n : String) : Run Value := do
  let m ← get
  let scope := if frame.localNames.contains (composedText n) then m.locals
    else m.globals frame.part
  match scope.find? n with
  | some v => return v
  | none => throw (.unbound n)

/-- The arguments that a call gives by name. -/
def readKeywords (frame : Frame) (keywords : List (String × String)) :
    Run (List (String × Value)) :=
  keywords.mapM fun k => do return (composedText k.1, ← frame.read k.2)

/-- Gives a value to a variable. -/
def write (frame : Frame) (n : String) (v : Value) : Run PUnit :=
  modify fun m =>
    if frame.localNames.contains (composedText n) then { m with locals := m.locals.bind n v }
    else m.bindGlobal frame.part n v

end Frame

/-- What makes a module from its specification. -/
def moduleMaker : Value := .member (.imported "importlib.util") "module_from_spec"

/-- A member of a value. The one module that is made has the names of the loader. -/
def memberOf (v : Value) (n : String) : Run Value := do
  match v with
  | .returned (.member (.imported "importlib.util") "module_from_spec") _ _ =>
    match (← get).loader.find? n with
    | some v => return v
    | none => throw (.unbound n)
  | _ => return .member v (composedText n)

section

variable (library : Library) (frame : Frame) (caller : Caller)

mutual

/-- The value of an expression. -/
def Expression.eval : Expression → Run Value
  | .none => return .none
  | .text s => return .text s
  | .number n => return .number n
  | .name n => frame.read n
  | .member e n => do memberOf (← e.eval) n
  | .call f arguments keywords => do
    let g ← f.eval
    let vs ← Expression.evalAll arguments
    let ks ← frame.readKeywords keywords
    caller g vs ks
  | .isNone e => do return .truth (← e.eval).isNone
  | .isNotIn e collection => do
    let v ← e.eval
    return .truth (!library.contains (← collection.eval) v)

/-- The values of expressions. -/
def Expression.evalAll : List Expression → Run (List Value)
  | [] => return []
  | e :: es => do return (← e.eval) :: (← Expression.evalAll es)

end

mutual

/-- Runs a statement, which returns a value or goes on. -/
def Statement.exec : Statement → Run (Option Value)
  | .global _ => return none
  | .assign n e => do
    frame.write n (← e.eval library frame caller)
    return none
  | .assignCall n f arguments => do
    frame.write n (← (Expression.call f arguments []).eval library frame caller)
    return none
  | .perform e => do
    let _ ← e.eval library frame caller
    return none
  | .returns e => do return some (← e.eval library frame caller)
  | .ifThen condition body => do
    match ← condition.eval library frame caller with
    | .truth true => Statement.execAll body
    | _ => return none
  | .within lock body => do
    let v ← lock.eval library frame caller
    noteCall (.returned (.member v "__enter__") [] [])
    let leave := noteCall (.returned (.member v "__exit__") [] [])
    let result ← tryCatch (Statement.execAll body) fun error => do
      leave
      throw error
    leave
    return result

/-- Runs statements up to the first one that returns a value. -/
def Statement.execAll : List Statement → Run (Option Value)
  | [] => return none
  | s :: rest => do
    match ← s.exec with
    | some v => return some v
    | none => Statement.execAll rest

end

end

/-- The parameters of a function with the arguments of a call, if it gives each parameter one
argument, and no others. -/
def bindArguments (formals : List String) (arguments : List Value)
    (keywords : List (String × Value)) : Option NameTable :=
  let given := formals.zip arguments ++ keywords
  let names := given.map Prod.fst
  if arguments.length ≤ formals.length ∧ names.Nodup ∧ names ⊆ formals ∧ formals ⊆ names then
    some given
  else none

/-- Runs a function of one of the programs. -/
def Routine.run (f : Routine) (library : Library) (caller : Caller) (part : Part)
    (arguments : List Value) (keywords : List (String × Value)) : Run Value := do
  match bindArguments f.formals arguments keywords with
  | none => throw (.arguments f.name)
  | some scope =>
    let outer := (← get).locals
    let leave : Run PUnit := modify fun m => { m with locals := outer }
    modify fun m => { m with locals := scope }
    let result ← tryCatch (Statement.execAll library ⟨part, f.localNames⟩ caller f.body)
      fun error => do
        leave
        throw error
    leave
    return result.getD .none

/-- Runs a part of a program. -/
def Item.exec (library : Library) (caller : Caller) (part : Part) : Item → Run PUnit
  | .blank | .remark _ => return
  | .importAs path n => Frame.write ⟨part, []⟩ n (.imported path)
  | .statement s => do
    match ← s.exec library ⟨part, []⟩ caller with
    | some _ => throw .misplaced
    | none => return
  | .define f => Frame.write ⟨part, []⟩ f.name (.function part f)

/-- Runs a program. -/
def Program.exec (library : Library) (caller : Caller) (part : Part) : Program → Run PUnit
  | [] => return
  | item :: rest => do
    item.exec library caller part
    Program.exec library caller part rest

/-- What a call comes to, with room for so many calls within each other. To have a module run is to
run the loader. -/
def callValue (library : Library) (loader : Program) : Nat → Caller
  | 0, f, arguments, keywords =>
    match f with
    | .function _ _ | .member (.member _ "loader") "exec_module" => throw .tooDeep
    | _ => library.call f arguments keywords
  | depth + 1, f, arguments, keywords =>
    match f with
    | .function part g => g.run library (callValue library loader depth) part arguments keywords
    | .member (.member _ "loader") "exec_module" => do
      let _ ← library.call f arguments keywords
      Program.exec library (callValue library loader depth) .loader loader
      return .none
    | _ => library.call f arguments keywords

/-- A machine on which nothing has been run, with the file of the entry point. -/
def Machine.initial (file : String) : Machine where
  entry := [("__file__", .text file)]
  loader := []
  locals := []
  calls := []

/-- Imports the entry point. -/
def loadEntry (library : Library) (loader entry : Program) (depth : Nat) : Run PUnit :=
  Program.exec library (callValue library loader depth) .entry entry

/-- Calls a function of the entry point. -/
def callEntry (library : Library) (loader : Program) (depth : Nat) (function : String)
    (arguments : List Value) : Run Value := do
  let f ← Frame.read ⟨.entry, []⟩ function
  callValue library loader depth f arguments []

end HandlerBundle.Generated
