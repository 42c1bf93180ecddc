/-!
# Steps that keep a state and may fail

Builds, hosts and generated programs all run in steps that change a state and may fail, and a
failure leaves the state as it was when it came up. What such steps come to from a state on does not
depend on what the state is.

## Main results

* `Stateful.run_bind`, `Stateful.run_tryCatch` — steps after others, and after a failure.
* `Stateful.run_ofExcept` — a result as a step.
-/

namespace HandlerBundle.Stateful

variable {ε σ α β : Type}

theorem run_modify (g : σ → σ) (s : σ) :
    (modify g : ExceptT ε (StateM σ) PUnit).run.run s = (.ok ⟨⟩, g s) := rfl

/-- Steps come to what is done after them, unless they fail. -/
theorem run_bind (p : ExceptT ε (StateM σ) α) (q : α → ExceptT ε (StateM σ) β) (s : σ) :
    (p >>= q).run.run s =
      match p.run.run s with
      | (.ok a, t) => (q a).run.run t
      | (.error e, t) => (.error e, t) := by
  change (match p s with | (r, t) => ExceptT.bindCont q r t) = _
  rcases hp : p s with ⟨r, t⟩
  have hrun : p.run.run s = (r, t) := hp
  rw [hrun]
  cases r <;> rfl

/-- Steps that fail come to what is done about the failure. -/
theorem run_tryCatch (p : ExceptT ε (StateM σ) α) (q : ε → ExceptT ε (StateM σ) α) (s : σ) :
    (tryCatch p q).run.run s =
      match p.run.run s with
      | (.ok a, t) => (.ok a, t)
      | (.error e, t) => (q e).run.run t := by
  unfold ExceptT.run StateT.run
  simp only [tryCatch, tryCatchThe, MonadExceptOf.tryCatch, ExceptT.tryCatch, ExceptT.mk, bind,
    StateT.bind]
  rcases p s with ⟨a | e, t⟩ <;> rfl

/-- A result as a step leaves the state alone. -/
theorem run_ofExcept (r : Except ε α) (s : σ) :
    (ofExcept r : ExceptT ε (StateM σ) α).run.run s = (r, s) := by
  cases r <;> rfl

end HandlerBundle.Stateful
