import HandlerBundle.Package.Steps
import Mathlib.Logic.Relation

/-!
# Pools of workers

Tasks that are handed to a pool of workers are started in their order, no more of them at once than
there are workers, and each goes on by one step at a time. As soon as a failure is noticed, the
tasks that have not been started are cancelled, while those that have been go on to their end. The
results are taken in the order of the tasks, whatever the order is in which these end.

## Main definitions

* `Task`, `Pool` — tasks, and what a pool has made of them.
* `Pool.Step` — what a pool can do next.
* `Pool.outcome?` — what a pool comes to.
-/

namespace HandlerBundle

/-- What has become of a task. -/
inductive Task (α : Type) where
  | waiting (steps : Steps α)
  | running (steps : Steps α)
  | ended (result : Except Failure α)
  | cancelled

namespace Task

variable {α : Type}

def isWaiting : Task α → Bool
  | .waiting _ => true
  | _ => false

def isRunning : Task α → Bool
  | .running _ => true
  | _ => false

/-- The failure of a task that has ended with one. -/
def failure? : Task α → Option Failure
  | .ended (.error f) => some f
  | _ => none

/-- The value of a task that has ended with one. -/
def value? : Task α → Option α
  | .ended (.ok a) => some a
  | _ => none

end Task

/-- The tasks of a pool in their order, the workspace that they share, and the failure that was
noticed. -/
structure Pool (α : Type) where
  workspace : Workspace
  tasks : List (Task α)
  raised : Option Failure

namespace Pool

variable {α : Type}

/-- What a pool with a number of workers can do next. -/
inductive Step (workers : Nat) : Pool α → Pool α → Prop
  /-- A worker that is free starts the first task that waits. -/
  | start {w front s back raised} (hfirst : ∀ t ∈ front, t.isWaiting = false)
      (hfree : (front ++ back).countP Task.isRunning < workers) :
      Step workers ⟨w, front ++ .waiting s :: back, raised⟩ ⟨w, front ++ .running s :: back, raised⟩
  | advance {w front act next back raised} :
      Step workers ⟨w, front ++ .running (.step act next) :: back, raised⟩
        ⟨act w, front ++ .running (next w) :: back, raised⟩
  | finish {w front result back raised} :
      Step workers ⟨w, front ++ .running (.done result) :: back, raised⟩
        ⟨w, front ++ .ended result :: back, raised⟩
  /-- Of several failures the one of the first task is noticed. -/
  | notice {w tasks f} (hfirst : tasks.findSome? Task.failure? = some f) :
      Step workers ⟨w, tasks, none⟩ ⟨w, tasks, some f⟩
  | cancel {w front s back f} :
      Step workers ⟨w, front ++ .waiting s :: back, some f⟩ ⟨w, front ++ .cancelled :: back, some f⟩

/-- What a pool can come to step by step. -/
def Reaches (workers : Nat) : Pool α → Pool α → Prop :=
  Relation.ReflTransGen (Step workers)

/-- What a pool comes to when no task waits or runs: the failure that was noticed, or the values of
the tasks in their order. -/
def outcome? (p : Pool α) : Option (Except Failure (List α)) :=
  if p.tasks.any fun t => t.isWaiting || t.isRunning then none
  else
    match p.raised with
    | some f => some (.error f)
    | none => (p.tasks.mapM Task.value?).map .ok

end Pool

end HandlerBundle
