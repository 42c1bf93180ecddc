import HandlerBundle.Binding.Attribute
import HandlerBundle.Constant
import HandlerBundle.Source.Statement
import HandlerBundle.Text.Blank
import HandlerBundle.Text.Utf8

/-!
# Compilers

A compiler turns a generated source into its compiled form, or reports why it cannot. It never
fails otherwise: what goes wrong with a separate program is a report too.

## Main definitions

* `CompileOutcome` — what a compiler comes to.
* `compileDirectly` — checks a source in the program itself.
* `ProgramRun`, `ProgramRun.report` — what becomes of a separate program.
-/

namespace HandlerBundle

/-- What a program reports: its exit code, and lines that are meant for a reader. -/
structure CompileReport where
  exitCode : Int
  diagnostics : List String
  deriving DecidableEq, Repr

/-- What a compiler comes to. -/
inductive CompileOutcome where
  | compiled
  /-- A compiler reported, and wrote nothing. -/
  | reported (report : CompileReport)
  deriving DecidableEq, Repr

namespace CompileOutcome

/-- What a compiler reports; where it is content it has nothing to report. -/
def report : CompileOutcome → CompileReport
  | .compiled => ⟨0, []⟩
  | .reported report => report

/-- The exit code; zero says that all is well. -/
def exitCode (o : CompileOutcome) : Int := o.report.exitCode

/-- The failure of an outcome that is not well. Without a word from the compiler, its exit code is
what there is to tell. -/
def failure (o : CompileOutcome) : Failure :=
  let text := "\n".intercalate o.report.diagnostics
  ⟨.compile o.report.diagnostics,
    if text.isEmpty then "compiler exited with code " ++ toString o.exitCode else text⟩

end CompileOutcome

/-- A compiler: takes the name of a file and the source in it. -/
abbrev Compiler := String → Bytes → CompileOutcome

/-- Whether a source is well formed. -/
def isWellFormed (reader : SourceReader) (source : Bytes) : Bool :=
  match parseSource reader source with
  | .ok statements => Statement.areScoped statements
  | .error _ => false

/-- Checks a source in the program itself; `complain` is what it says about a file and the source in
it that it cannot compile. -/
def compileDirectly (reader : SourceReader) (complain : String → Bytes → String) : Compiler :=
  fun file source =>
    if isWellFormed reader source then .compiled else .reported ⟨1, [complain file source]⟩

/-- What becomes of a program that is run. -/
inductive ProgramRun where
  | notFound (program : String)
  /-- The program took longer than the limit, a number of seconds. -/
  | timedOut (limit : Constant)
  | finished (output errors : String) (exitCode : Int)
  deriving DecidableEq, Repr

namespace ProgramRun

/-- Whether a limit has passed before anything can run: one below zero has. -/
def isPassed : Constant → Bool
  | .int n => n < 0
  | .float x =>
    match x.view with
    | .finite negative m _ => negative && m != 0
    | .infinite negative => negative
    | .notANumber => false
  | _ => false

/-- Whether every character of a line is a blank. -/
def isBlankLine (s : String) : Bool := s.toList.all isBlank

/-- What the run reports: the lines that are not blank, of what the program wrote as output and then
as errors. -/
def report : ProgramRun → CompileReport
  | .notFound program =>
    ⟨127, ["compiler not found: [Errno 2] No such file or directory: " ++ quoted program]⟩
  | .timedOut limit => ⟨124, ["compiler timed out after " ++ limit.display ++ "s"]⟩
  | .finished output errors exitCode =>
    ⟨exitCode, (lines (output ++ errors)).filter fun line => !isBlankLine line⟩

end ProgramRun

end HandlerBundle
