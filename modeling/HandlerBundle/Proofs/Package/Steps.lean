import HandlerBundle.Package.Steps
import HandlerBundle.Proofs.Package.Mirror

/-!
# Steps in a row and steps in between

Steps that are taken in a row come to what the build that they belong to comes to. Steps that see
and change no more than what is below a directory come to the same whatever is changed elsewhere,
also between them.

## Main definitions

* `Steps.Performs` — steps that do in a row what a build does.
* `Steps.LocalTo` — steps that see and change no more than what is below a directory.

## Main results

* `Steps.LocalTo.run_eq` — what local steps come to does not depend on what is elsewhere.
-/

namespace HandlerBundle

namespace Steps

open FileTree (SameBelow SameOutside)

variable {α β : Type}

/-! ### Steps in a row -/

@[simp] theorem run_atomic (p : Build α) (w : Workspace) : (atomic p).run w = p.run.run w := rfl

theorem run_andThen (s : Steps α) (k : Except Failure α → Steps β) (w : Workspace) :
    (s.andThen k).run w = (k (s.run w).1).run (s.run w).2 := by
  induction s generalizing w with
  | done result => rfl
  | step act next ih => exact ih w (act w)

/-- Steps come to what is done after them, unless they fail. -/
theorem run_bind (s : Steps α) (t : α → Steps β) (w : Workspace) :
    (s >>= t).run w =
      match s.run w with
      | (.ok a, v) => (t a).run v
      | (.error f, v) => (.error f, v) := by
  refine (run_andThen s _ w).trans ?_
  rcases s.run w with ⟨f | a, v⟩ <;> rfl

/-- Steps that fail come to what is done about the failure. -/
theorem run_tryCatch (s : Steps α) (t : Failure → Steps α) (w : Workspace) :
    (tryCatch s t).run w =
      match s.run w with
      | (.ok a, v) => (.ok a, v)
      | (.error f, v) => (t f).run v := by
  refine (run_andThen s _ w).trans ?_
  rcases s.run w with ⟨f | a, v⟩ <;> rfl

theorem andThen_done (s : Steps α) : s.andThen done = s := by
  induction s with
  | done result => rfl
  | step act next ih => exact congrArg (step act) (funext ih)

theorem andThen_assoc {γ : Type} (s : Steps α) (k : Except Failure α → Steps β)
    (l : Except Failure β → Steps γ) :
    (s.andThen k).andThen l = s.andThen fun result => (k result).andThen l := by
  induction s with
  | done result => rfl
  | step act next ih => exact congrArg (step act) (funext ih)

instance : LawfulMonad Steps := LawfulMonad.mk' Steps
  (fun s => (congrArg s.andThen (funext fun result => by cases result <;> rfl)).trans
    (andThen_done s))
  (fun _ _ => rfl)
  (fun s _ _ => (andThen_assoc s _ _).trans
    (congrArg s.andThen (funext fun result => by cases result <;> rfl)))

/-- Steps that do in a row what a build does. -/
def Performs (s : Steps α) (p : Build α) : Prop :=
  ∀ w, s.run w = p.run.run w

namespace Performs

theorem atomic (p : Build α) : (Steps.atomic p).Performs p :=
  fun _ => rfl

theorem pure (a : α) : (Pure.pure a : Steps α).Performs (Pure.pure a) :=
  fun _ => rfl

theorem throw (f : Failure) : (MonadExcept.throw f : Steps α).Performs (MonadExcept.throw f) :=
  fun _ => rfl

theorem bind {s : Steps α} {p : Build α} {t : α → Steps β} {q : α → Build β} (hs : s.Performs p)
    (ht : ∀ a, (t a).Performs (q a)) : (s >>= t).Performs (p >>= q) := by
  intro w
  rw [run_bind, Build.run_bind, hs w]
  rcases p.run.run w with ⟨f | a, v⟩
  · rfl
  · exact ht a v

theorem tryCatch {s : Steps α} {p : Build α} {t : Failure → Steps α} {q : Failure → Build α}
    (hs : s.Performs p) (ht : ∀ f, (t f).Performs (q f)) :
    (tryCatch s t).Performs (tryCatch p q) := by
  intro w
  rw [run_tryCatch, Build.run_tryCatch, hs w]
  rcases p.run.run w with ⟨f | a, v⟩
  · exact ht f v
  · rfl

theorem ite {s t : Steps α} {p q : Build α} (c : Prop) [Decidable c] (hs : s.Performs p)
    (ht : t.Performs q) : (if c then s else t).Performs (if c then p else q) := by
  split_ifs
  · exact hs
  · exact ht

theorem mapM {γ : Type} {t : γ → Steps α} {q : γ → Build α} (h : ∀ x, (t x).Performs (q x))
    (xs : List γ) : (xs.mapM t).Performs (xs.mapM q) := by
  induction xs with
  | nil =>
    rw [List.mapM_nil, List.mapM_nil]
    exact pure []
  | cons x xs ih =>
    rw [List.mapM_cons, List.mapM_cons]
    exact (h x).bind fun a => ih.bind fun as => pure (a :: as)

end Performs

/-! ### Steps below a directory -/

/-- Steps that see and change no more than what is below the directory `d`, and stay at their place:
whatever is elsewhere, they leave alike what looks alike from there, and the same comes after
them. -/
inductive LocalTo (d : TreePath) : Steps α → Prop
  | done (result) : LocalTo d (.done result)
  | step {act next}
      (hplace : ∀ w, d ∈ w.files.directories → (act w).place = w.place)
      (houtside : ∀ w, d ∈ w.files.directories → SameOutside d w.files (act w).files)
      (hbelow : ∀ w w', w.place = w'.place → d ∈ w.files.directories → d ∈ w'.files.directories →
        w.files.SameBelow d w'.files d →
          (act w).files.SameBelow d (act w').files d ∧ next w = next w')
      (hnext : ∀ w, d ∈ w.files.directories → LocalTo d (next w)) : LocalTo d (.step act next)

namespace LocalTo

variable {d : TreePath} {s : Steps α}

/-- A build that does the same in a directory whatever is elsewhere is local to it. -/
theorem atomic {p : Build α} (h : Build.Mirrors True d d Eq p p) : LocalTo d (Steps.atomic p) := by
  have hself := fun w hd => h w w (fun _ => rfl) hd hd (.refl _ d)
  refine .step (fun w hd => (hself w hd).2.1.1) (fun w hd => (hself w hd).2.2.2.1)
    (fun w w' hplace hd hd' hsame => ?_) fun _ _ => .done _
  obtain ⟨hresult, -, hbelow, -⟩ := h w w' (fun _ => hplace) hd hd' hsame
  exact ⟨hbelow, congrArg Steps.done (hresult.eq trivial)⟩

theorem andThen {k : Except Failure α → Steps β} (hs : LocalTo d s) (hk : ∀ r, LocalTo d (k r)) :
    LocalTo d (s.andThen k) := by
  induction hs with
  | done result => exact hk result
  | step hplace houtside hbelow _ ih =>
    refine .step hplace houtside (fun w w' hthere hd hd' hsame => ?_) ih
    obtain ⟨hbelow, hnext⟩ := hbelow w w' hthere hd hd' hsame
    exact ⟨hbelow, congrArg (Steps.andThen · k) hnext⟩

theorem pure (a : α) : LocalTo d (Pure.pure a : Steps α) := .done _

theorem throw (f : Failure) : LocalTo d (MonadExcept.throw f : Steps α) := .done _

theorem bind {t : α → Steps β} (hs : LocalTo d s) (ht : ∀ a, LocalTo d (t a)) :
    LocalTo d (s >>= t) :=
  hs.andThen fun
    | .ok a => ht a
    | .error _ => .done _

theorem tryCatch {t : Failure → Steps α} (hs : LocalTo d s) (ht : ∀ f, LocalTo d (t f)) :
    LocalTo d (tryCatch s t) :=
  hs.andThen fun
    | .ok _ => .done _
    | .error f => ht f

theorem ite {t : Steps α} (c : Prop) [Decidable c] (hs : LocalTo d s) (ht : LocalTo d t) :
    LocalTo d (if c then s else t) := by
  split_ifs
  · exact hs
  · exact ht

theorem mapM {γ : Type} {t : γ → Steps α} {xs : List γ} (h : ∀ x ∈ xs, LocalTo d (t x)) :
    LocalTo d (xs.mapM t) := by
  induction xs with
  | nil =>
    rw [List.mapM_nil]
    exact pure []
  | cons x xs ih =>
    rw [List.forall_mem_cons] at h
    rw [List.mapM_cons]
    exact h.1.bind fun _ => (ih h.2).bind fun _ => pure _

/-- **Local steps do not see what is elsewhere.** In two workspaces of one place that look alike
from their directory they come to the same result, and leave what looks alike. -/
theorem run_eq (hs : LocalTo d s) {w w' : Workspace} (hplace : w.place = w'.place)
    (hd : d ∈ w.files.directories) (hd' : d ∈ w'.files.directories)
    (hsame : w.files.SameBelow d w'.files d) :
    (s.run w).1 = (s.run w').1 ∧ (s.run w).2.files.SameBelow d (s.run w').2.files d := by
  induction hs generalizing w w' with
  | done result => exact ⟨rfl, hsame⟩
  | step hstays houtside hbelow _ ih =>
    obtain ⟨hafter, hnext⟩ := hbelow w w' hplace hd hd' hsame
    have hthere := (houtside w hd).mem_directories.mp hd
    have hthere' := (houtside w' hd').mem_directories.mp hd'
    have hplaces : _ = _ := (hstays w hd).trans (hplace.trans (hstays w' hd').symm)
    rw [run, run, ← hnext]
    exact ih w hd hplaces hthere hthere' hafter

end LocalTo

end Steps

end HandlerBundle
