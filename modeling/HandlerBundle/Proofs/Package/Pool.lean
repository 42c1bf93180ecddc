import HandlerBundle.Package.Pool
import HandlerBundle.Proofs.Package.Steps
import Mathlib.Logic.Hydra

/-!
# Runs of a pool

Whatever the order of its steps, a pool comes to an end: each step takes one task further, apart
from the one that notices a failure. As long as a task waits or runs, there is a next step. One of
the orders is that of a single worker, which takes one task after the other.

## Main definitions

* `Task.Next` — what a step makes of a task.
* `Pool.Settles` — a pool that comes to an outcome, whatever the order of its steps is.

## Main results

* `Pool.wellFounded_step` — no pool goes on forever.
* `Pool.exists_step` — a pool with tasks that wait or run goes on.
* `Pool.reaches_in_order` — the tasks one after the other.
-/

namespace HandlerBundle

variable {α : Type}

/-! ### Every run ends -/

/-- What a step makes of the task that it takes further. -/
inductive Task.Next : Task α → Task α → Prop
  | start {s} : Next (.waiting s) (.running s)
  | advance {act next w} : Next (.running (.step act next)) (.running (next w))
  | finish {result} : Next (.running (.done result)) (.ended result)
  | cancel {s} : Next (.waiting s) .cancelled

namespace Task

theorem acc_ended (result : Except Failure α) :
    Acc (fun t' t : Task α => t.Next t') (.ended result) :=
  ⟨_, fun _ h => nomatch h⟩

theorem acc_cancelled : Acc (fun t' t : Task α => t.Next t') .cancelled :=
  ⟨_, fun _ h => nomatch h⟩

theorem acc_running (s : Steps α) : Acc (fun t' t : Task α => t.Next t') (.running s) := by
  induction s with
  | done result =>
    refine ⟨_, fun t ht => ?_⟩
    cases ht
    exact acc_ended result
  | step act next ih =>
    refine ⟨_, fun t ht => ?_⟩
    cases ht with
    | advance => exact ih _

/-- No task can be taken further forever. -/
theorem wellFounded_next : WellFounded fun t' t : Task α => t.Next t' := by
  refine ⟨fun t => ?_⟩
  cases t with
  | waiting s =>
    refine ⟨_, fun t ht => ?_⟩
    cases ht with
    | start => exact acc_running s
    | cancel => exact acc_cancelled
  | running s => exact acc_running s
  | ended result => exact acc_ended result
  | cancelled => exact acc_cancelled

end Task

namespace Pool

variable {workers : Nat} {p q : Pool α} {w v : Workspace} {front back : List (Task α)}
  {raised : Option Failure}

/-- A step takes one task further, or notices a failure. -/
theorem Step.tasks_cases (h : Step workers p q) :
    (∃ front t t' back, t.Next t' ∧ p.tasks = front ++ t :: back ∧ q.tasks = front ++ t' :: back) ∨
      (q.tasks = p.tasks ∧ p.raised = none ∧ q.raised ≠ none) := by
  cases h with
  | start => exact .inl ⟨_, _, _, _, .start, rfl, rfl⟩
  | advance => exact .inl ⟨_, _, _, _, .advance, rfl, rfl⟩
  | finish => exact .inl ⟨_, _, _, _, .finish, rfl, rfl⟩
  | notice => exact .inr ⟨rfl, rfl, nofun⟩
  | cancel => exact .inl ⟨_, _, _, _, .cancel, rfl, rfl⟩

/-- A task that is taken further leaves fewer steps to be taken. -/
theorem cutExpand_of_next {t t' : Task α} (h : t.Next t') :
    Relation.CutExpand (fun t' t : Task α => t.Next t') ↑(front ++ t' :: back)
      ↑(front ++ t :: back) := by
  have hmiddle : ∀ u : Task α, (↑(front ++ u :: back) : Multiset (Task α)) =
      ↑(front ++ back) + {u} := by
    intro u
    rw [Multiset.add_comm, Multiset.singleton_add, Multiset.cons_coe, Multiset.coe_eq_coe]
    exact List.perm_middle
  rw [hmiddle, hmiddle]
  exact (Relation.cutExpand_add_left _).mpr (Relation.cutExpand_singleton_singleton h)

/-- **No pool goes on forever**, whatever the order of its steps is. -/
theorem wellFounded_step (workers : Nat) :
    WellFounded fun q p : Pool α => Step workers p q := by
  have hlex := (Task.wellFounded_next (α := α)).cutExpand.prod_lex Nat.lt_wfRel.wf
  refine Subrelation.wf ?_ (InvImage.wf
    (fun p : Pool α => ((p.tasks : Multiset (Task α)), if p.raised = none then 1 else 0)) hlex)
  intro q p h
  rcases h.tasks_cases with ⟨front, t, t', back, hnext, hp, hq⟩ | ⟨htasks, hraised, hraised'⟩
  · refine Prod.Lex.left _ _ ?_
    rw [hp, hq]
    exact cutExpand_of_next hnext
  · change Prod.Lex _ _ (_, _) (_, _)
    rw [htasks, if_pos hraised, if_neg hraised']
    exact Prod.Lex.right _ Nat.one_pos

/-! ### Pools that go on -/

/-- A pool with tasks that wait or run goes on. -/
theorem exists_step (hworkers : 0 < workers)
    (h : (p.tasks.any fun t => t.isWaiting || t.isRunning) = true) : ∃ q, Step workers p q := by
  obtain ⟨w, tasks, raised⟩ := p
  by_cases hrunning : ∃ t ∈ tasks, t.isRunning = true
  · obtain ⟨t, ht, hrun⟩ := hrunning
    obtain ⟨front, back, rfl⟩ := List.append_of_mem ht
    cases t with
    | running s =>
      cases s with
      | done result => exact ⟨_, .finish⟩
      | step act next => exact ⟨_, .advance⟩
    | waiting | ended | cancelled => cases hrun
  · have hnone : tasks.countP Task.isRunning = 0 :=
      List.countP_eq_zero.mpr fun t ht hrun => hrunning ⟨t, ht, hrun⟩
    have hwaiting : ∃ t ∈ tasks, t.isWaiting = true := by
      obtain ⟨t, ht, hpending⟩ := List.any_eq_true.mp h
      rcases Bool.or_eq_true _ _ ▸ hpending with hwait | hrun
      · exact ⟨t, ht, hwait⟩
      · exact absurd ⟨t, ht, hrun⟩ hrunning
    obtain ⟨t, hfind⟩ := Option.isSome_iff_exists.mp (List.find?_isSome.mpr hwaiting)
    obtain ⟨hwait, front, back, rfl, hfirst⟩ := List.find?_eq_some_iff_append.mp hfind
    rw [List.countP_append, List.countP_cons, Nat.add_eq_zero_iff, Nat.add_eq_zero_iff] at hnone
    cases t with
    | waiting s =>
      refine ⟨_, .start (fun t ht => (Bool.not_eq_true' _).mp (hfirst t ht)) ?_⟩
      rw [List.countP_append, hnone.1, hnone.2.1]
      exact hworkers
    | running | ended | cancelled => cases hwait

/-- A pool every run of which ends, and ends with an outcome. -/
structure Settles (workers : Nat) (p : Pool α) : Prop where
  ends : Acc (fun q p : Pool α => Step workers p q) p
  outcome : ∀ q, p.Reaches workers q → (∃ q', Step workers q q') ∨ q.outcome?.isSome = true

/-! ### One task after the other -/

/-- A task that runs can be taken to its end with nothing in between. -/
theorem reaches_ended {s : Steps α} {result : Except Failure α} (h : s.run w = (result, v)) :
    Reaches workers ⟨w, front ++ .running s :: back, raised⟩
      ⟨v, front ++ .ended result :: back, raised⟩ := by
  induction s generalizing w with
  | done result' =>
    obtain ⟨rfl, rfl⟩ := Prod.mk.inj h
    exact .single .finish
  | step act next ih => exact .head .advance (ih w h)

variable {γ : Type} {t : γ → Steps α} {b : γ → Build α}

/-- A worker that is free starts the first task that waits, if those before it have ended. -/
theorem reaches_running {s : Steps α}
    (hfront : ∀ t ∈ front, t.isWaiting = false ∧ t.isRunning = false)
    (hback : back.countP Task.isRunning < workers) :
    Reaches workers ⟨w, front ++ .waiting s :: back, raised⟩
      ⟨w, front ++ .running s :: back, raised⟩ := by
  refine .single (.start (fun t ht => (hfront t ht).1) ?_)
  have hnone : front.countP Task.isRunning = 0 :=
    List.countP_eq_zero.mpr fun t ht => Bool.eq_false_iff.mp (hfront t ht).2
  rwa [List.countP_append, hnone, Nat.zero_add]

/-- **The tasks can be taken one after the other.** The pool then comes to what the builds come to
in their order, and leaves the workspace that they leave. -/
theorem reaches_in_order (hworkers : 0 < workers) (hperforms : ∀ x, (t x).Performs (b x))
    {xs : List γ} {ys : List α} (hrun : (xs.mapM b).run.run w = (.ok ys, v))
    (hfront : ∀ u ∈ front, u.isWaiting = false ∧ u.isRunning = false)
    (hback : back.countP Task.isRunning = 0) :
    Reaches workers ⟨w, front ++ ((xs.map fun x => .waiting (t x)) ++ back), none⟩
      ⟨v, front ++ ((ys.map fun y => .ended (.ok y)) ++ back), none⟩ := by
  induction xs generalizing w front ys with
  | nil =>
    obtain ⟨hys, rfl⟩ := Prod.mk.inj hrun
    obtain rfl := Except.ok.inj hys
    exact .refl
  | cons x xs ih =>
    obtain ⟨y, u, ys', hfirst, hrest, rfl⟩ := Build.run_mapM_cons_eq_ok_iff.mp hrun
    have hnone : ((xs.map fun x => Task.waiting (t x)) ++ back).countP Task.isRunning = 0 := by
      rw [List.countP_append, hback, List.countP_map]
      exact List.countP_eq_zero.mpr fun _ _ => Bool.false_ne_true
    have hfront' : ∀ u ∈ front ++ [.ended (.ok y)], u.isWaiting = false ∧ u.isRunning = false := by
      intro u hu
      rcases List.mem_append.mp hu with hu | hu
      · exact hfront u hu
      · obtain rfl := List.mem_singleton.mp hu
        exact ⟨rfl, rfl⟩
    have hothers := ih hrest hfront'
    simp only [List.append_assoc, List.singleton_append] at hothers
    exact (reaches_running hfront (hnone ▸ hworkers)).trans
      ((reaches_ended ((hperforms x w).trans hfirst)).trans hothers)

/-- **The last two tasks can be taken the other way round**, if there is a second worker. -/
theorem reaches_swapped (hworkers : 1 < workers) {s s' : Steps α} {u : Workspace}
    {result result' : Except Failure α}
    (hfront : ∀ t ∈ front, t.isWaiting = false ∧ t.isRunning = false)
    (h' : s'.run w = (result', u)) (h : s.run u = (result, v)) :
    Reaches workers ⟨w, front ++ [.waiting s, .waiting s'], raised⟩
      ⟨v, front ++ [.ended result, .ended result'], raised⟩ := by
  have hsecond : Step workers ⟨w, (front ++ [.running s]) ++ .waiting s' :: [], raised⟩
      ⟨w, (front ++ [.running s]) ++ .running s' :: [], raised⟩ := by
    refine .start (fun t ht => ?_) ?_
    · rcases List.mem_append.mp ht with ht | ht
      · exact (hfront t ht).1
      · obtain rfl := List.mem_singleton.mp ht
        rfl
    · have hnone : front.countP Task.isRunning = 0 :=
        List.countP_eq_zero.mpr fun t ht => Bool.eq_false_iff.mp (hfront t ht).2
      rw [List.append_nil, List.countP_append, hnone]
      exact hworkers
  have hend' : Reaches workers ⟨w, (front ++ [.running s]) ++ [.running s'], raised⟩
      ⟨u, (front ++ [.running s]) ++ [.ended result'], raised⟩ := reaches_ended h'
  simp only [List.append_assoc, List.singleton_append] at hsecond hend'
  have hstart : Reaches workers ⟨w, front ++ [.waiting s, .waiting s'], raised⟩
      ⟨w, front ++ [.running s, .waiting s'], raised⟩ :=
    reaches_running hfront (Nat.zero_lt_of_lt hworkers)
  exact (hstart.tail hsecond).trans (hend'.trans (reaches_ended h))

theorem mapM_value?_ended (ys : List α) :
    (ys.map fun y => Task.ended (.ok y)).mapM Task.value? = some ys := by
  induction ys with
  | nil => rfl
  | cons y ys ih =>
    rw [List.map_cons, List.mapM_cons, ih]
    rfl

/-- A pool whose tasks have all ended with a value comes to these values, in their order. -/
theorem outcome?_ended (ys : List α) :
    (Pool.mk w (ys.map fun y => .ended (.ok y)) none).outcome? = some (.ok ys) := by
  have hnone : ((ys.map fun y => Task.ended (.ok y)).any fun t => t.isWaiting || t.isRunning) =
      false := by
    rw [List.any_map, List.any_eq_false]
    exact fun _ _ => Bool.false_ne_true
  rw [outcome?, hnone]
  simp only [Bool.false_eq_true, if_false, mapM_value?_ended, Option.map_some]

end Pool

end HandlerBundle
