import HandlerBundle.Package.Workspace

/-!
# Builds step by step

A build that runs beside others is taken one step at a time. Between two of its steps the others may
change the workspace, so what comes after a step depends on the workspace in which it is taken.

## Main definitions

* `Steps` — the steps of a build, one at a time.
* `Steps.atomic` — a build in one step.
* `Steps.run` — all steps in a row.
-/

namespace HandlerBundle

/-- The steps of a build, one at a time. -/
inductive Steps (α : Type) where
  | done (result : Except Failure α)
  /-- One step; `next` is what comes after it if it is taken in the given workspace. -/
  | step (act : Workspace → Workspace) (next : Workspace → Steps α)

namespace Steps

variable {α β : Type}

/-- A build in one step. -/
def atomic (p : Build α) : Steps α :=
  .step (fun w => (p.run.run w).2) fun w => .done (p.run.run w).1

/-- Goes on after a result. -/
def andThen (s : Steps α) (k : Except Failure α → Steps β) : Steps β :=
  match s with
  | .done result => k result
  | .step act next => .step act fun w => (next w).andThen k

instance : Monad Steps where
  pure a := .done (.ok a)
  bind s q := s.andThen fun
    | .ok a => q a
    | .error f => .done (.error f)

instance : MonadExceptOf Failure Steps where
  throw f := .done (.error f)
  tryCatch s q := s.andThen fun
    | .ok a => .done (.ok a)
    | .error f => q f

/-- All steps in a row. -/
def run : Steps α → Workspace → Except Failure α × Workspace
  | .done result, w => (result, w)
  | .step act next, w => (next w).run (act w)

end Steps

end HandlerBundle
