import HandlerBundle.Binding.Attribute
import HandlerBundle.Closure.Exclusion
import HandlerBundle.Text.Blank
import HandlerBundle.Text.Casing
import HandlerBundle.Text.Numeral

/-!
# Settings

The settings of a build are read from named variables. A variable that is missing, blank or cannot
be read leaves the usual value in place; only the choice of a compiler has to be one of two words.

## Main definitions

* `Settings` — the settings of a build.
* `Settings.read` — the settings that variables ask for.
-/

namespace HandlerBundle

/-- The compilers to choose from. -/
inductive CompilerChoice where
  | direct
  | separateProgram
  deriving DecidableEq, Repr

namespace CompilerChoice

/-- The word for a compiler. -/
def word : CompilerChoice → String
  | .direct => "inprocess"
  | .separateProgram => "subprocess"

/-- The name of what does the work. -/
def backendName : CompilerChoice → String
  | .direct => "InProcessCompilerBackend"
  | .separateProgram => "SubprocessCompilerBackend"

end CompilerChoice

/-- The settings of a build. -/
structure Settings where
  exclusion : Exclusion
  /-- Whether the failure of one handler leaves the others alone. -/
  isolateFailures : Bool
  maxWorkers : Int
  compiler : CompilerChoice
  /-- The time that a separate program has, in seconds. -/
  compileTimeout : Option Binary64

/-- Named variables. -/
abbrev Variables := List (String × String)

namespace Settings

/-- The usual settings. -/
def standard : Settings := ⟨.standard, false, 1, .direct, none⟩

/-- The value of a variable without blanks at its ends, unless it is missing or blank. -/
def given? (vars : Variables) (name : String) : Option String :=
  ((vars.lookup name).map trim).filter fun s => !s.isEmpty

/-- The words that switch something on. -/
def onWords : List String := ["1", "true", "t", "yes", "y", "on"]

/-- Reads a switch, which is off unless a word switches it on. -/
def readSwitch (vars : Variables) (name : String) : Bool :=
  match given? vars name with
  | some s => onWords.contains (lowerText s)
  | none => false

/-- Reads names with commas between them. -/
def readNames (vars : Variables) (name : String) : List String :=
  ((splitAtMark ',' ((vars.lookup name).getD "")).map trim).filter fun s => !s.isEmpty

/-- Reads the choice of a compiler. -/
def readCompiler (vars : Variables) : Except Failure CompilerChoice :=
  match (vars.lookup "FUNCPACK_COMPILER").filter fun s => !s.isEmpty with
  | none => .ok .direct
  | some s =>
    let word := lowerText (trim s)
    match [CompilerChoice.direct, .separateProgram].find? fun c => c.word == word with
    | some c => .ok c
    | none =>
      .error ⟨.foreign "ValueError", "FUNCPACK_COMPILER must be 'inprocess' or 'subprocess'"⟩

/-- The settings that variables ask for. -/
def read (vars : Variables) : Except Failure Settings := do
  let compiler ← readCompiler vars
  let workers := ((given? vars "FUNCPACK_MAX_WORKERS").bind readInteger?).getD 1
  return {
    exclusion := ⟨Exclusion.standard.entries ++ readNames vars "FUNCPACK_EXCLUDE_MODULES"⟩
    isolateFailures := readSwitch vars "FUNCPACK_ISOLATE_FAILURES"
    maxWorkers := max 1 workers
    compiler
    compileTimeout := (given? vars "FUNCPACK_COMPILE_TIMEOUT_S").bind readNumber? }

end Settings

end HandlerBundle
