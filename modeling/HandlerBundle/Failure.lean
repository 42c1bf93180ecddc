import HandlerBundle.Constant

/-!
# Failures

An exception that a stage of a build may raise, or a part of the program that runs it.

## Main definitions

* `FailureKind`, `FailureKind.isPackaging` — the kinds of failure, and those of packaging.
* `Failure` — a failure with its message.
-/

namespace HandlerBundle

/-- The kinds of failure of a build. All but the last two are failures of packaging. -/
inductive FailureKind where
  | packaging
  | inputShape
  | capture
  /-- The compiler gave up, and this is what it reports. -/
  | compile (diagnostics : List String)
  /-- Data without the form it should have. What is wrong is found under a word, at a place to which
  names and positions lead. -/
  | validation (findings : List (String × List Constant))
  /-- Any other failure that no one handles, by the name of its kind. -/
  | foreign (name : String)
  deriving DecidableEq, Repr

/-- A failure with its message. -/
structure Failure where
  kind : FailureKind
  message : String
  deriving DecidableEq, Repr

namespace FailureKind

/-- The name of a kind of failure. -/
def name : FailureKind → String
  | .packaging => "PackagingError"
  | .inputShape => "InputShapeError"
  | .capture => "CaptureError"
  | .compile _ => "CompileError"
  | .validation _ => "ValidationError"
  | .foreign name => name

/-- The kind of failure of a name; a compiler that gave up has nothing to report. -/
def ofName (name : String) : FailureKind :=
  ([.packaging, .inputShape, .capture, .compile []].find? fun (k : FailureKind) =>
    k.name == name).getD (.foreign name)

/-- Whether it is a failure of packaging, which can be recorded for one handler. -/
def isPackaging : FailureKind → Bool
  | .validation _ | .foreign _ => false
  | _ => true

end FailureKind

end HandlerBundle
