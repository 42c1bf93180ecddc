import HandlerBundle.Loader.Interpreter
import HandlerBundle.Proofs.Run
import Mathlib.Data.List.Nodup
import Mathlib.Data.List.Perm.Subperm

/-!
# Runs of programs

What expressions and statements come to, one rule for each form, and what the call of a function
comes to. A run takes a machine to an outcome and another machine, and the rules say which.

## Main definitions

* `Library.outcome` — what a call of an imported function comes to.

## Main results

* `Expression.call_run`, `Statement.within_run_of_ok`, … — rules for expressions and statements.
* `bindArguments_of_length` — arguments by position are bound in their order.
* `Routine.run_run` — a call of a function of the programs.
-/

namespace HandlerBundle.Generated

namespace Run

variable {α β : Type}

@[simp] theorem run_pure (a : α) (m : Machine) : (pure a : Run α).run.run m = (.ok a, m) := rfl

@[simp] theorem run_get (m : Machine) : (get : Run Machine).run.run m = (.ok m, m) := rfl

@[simp] theorem run_modify (g : Machine → Machine) (m : Machine) :
    (modify g : Run PUnit).run.run m = (.ok ⟨⟩, g m) := rfl

@[simp] theorem run_throw (e : RunError) (m : Machine) :
    (throw e : Run α).run.run m = (.error e, m) := rfl

/-- Steps come to what is done after them, unless they stop the run. -/
theorem run_bind (p : Run α) (q : α → Run β) (m : Machine) :
    (p >>= q).run.run m =
      match p.run.run m with
      | (.ok a, m') => (q a).run.run m'
      | (.error e, m') => (.error e, m') := by
  rw [Stateful.run_bind]
  rcases p.run.run m with ⟨a | e, m'⟩ <;> rfl

theorem run_bind_of_ok {p : Run α} {q : α → Run β} {m m' : Machine} {a : α}
    (h : p.run.run m = (.ok a, m')) : (p >>= q).run.run m = (q a).run.run m' := by
  rw [run_bind, h]

theorem run_bind_of_error {p : Run α} {q : α → Run β} {m m' : Machine} {e : RunError}
    (h : p.run.run m = (.error e, m')) : (p >>= q).run.run m = (.error e, m') := by
  rw [run_bind, h]

/-- Steps that stop the run come to what is done about it. -/
theorem run_tryCatch (p : Run α) (q : RunError → Run α) (m : Machine) :
    (tryCatch p q).run.run m =
      match p.run.run m with
      | (.ok a, m') => (.ok a, m')
      | (.error e, m') => (q e).run.run m' := by
  rw [Stateful.run_tryCatch]
  rcases p.run.run m with ⟨a | e, m'⟩ <;> rfl

end Run

open Run

variable {library : Library} {frame : Frame} {caller : Caller} {m m' m₁ m₂ m₃ : Machine}
  {n : String} {v g : Value} {vs : List Value} {ks : List (String × Value)} {error : RunError}

/-! ### Names -/

namespace NameTable

variable {names : NameTable}

theorem find?_bind_self (names : NameTable) (n : String) (v : Value) :
    (names.bind n v).find? n = some v :=
  List.lookup_cons_self

theorem find?_bind_of_ne {n' : String} (h : composedText n ≠ composedText n') :
    (names.bind n' v).find? n = names.find? n := by
  rw [find?, bind, List.lookup_cons, beq_eq_false_iff_ne.mpr h]
  rfl

end NameTable

namespace Frame

/-- A variable of the call that is running. -/
theorem read_run_of_local (hlocal : composedText n ∈ frame.localNames)
    (hv : m.locals.find? n = some v) : (frame.read n).run.run m = (.ok v, m) := by
  simp only [read, run_bind, run_get, List.contains_iff_mem.mpr hlocal, if_true, hv, run_pure]

/-- A variable of the program. -/
theorem read_run_of_global (hglobal : composedText n ∉ frame.localNames)
    (hv : (m.globals frame.part).find? n = some v) :
    (frame.read n).run.run m = (.ok v, m) := by
  have hcontains : frame.localNames.contains (composedText n) = false := by
    rwa [Bool.eq_false_iff, ne_eq, List.contains_iff_mem]
  simp only [read, run_bind, run_get, hcontains, Bool.false_eq_true, if_false, hv, run_pure]

theorem write_run_of_local (hlocal : composedText n ∈ frame.localNames) :
    (frame.write n v).run.run m = (.ok ⟨⟩, { m with locals := m.locals.bind n v }) := by
  rw [write, run_modify, if_pos (List.contains_iff_mem.mpr hlocal)]

theorem write_run_of_global (hglobal : composedText n ∉ frame.localNames) :
    (frame.write n v).run.run m = (.ok ⟨⟩, m.bindGlobal frame.part n v) := by
  rw [write, run_modify, if_neg (mt List.contains_iff_mem.mp hglobal)]

end Frame

/-- A member of the module that is made is a name of the loader. -/
theorem memberOf_module_run (hv : m.loader.find? n = some v) :
    (memberOf (.returned moduleMaker vs ks) n).run.run m = (.ok v, m) := by
  simp only [moduleMaker, memberOf, run_bind, run_get, hv, run_pure]

/-! ### Imported functions -/

@[simp] theorem noteCall_run (call : Value) (m : Machine) :
    (noteCall call).run.run m = (.ok ⟨⟩, { m with calls := m.calls ++ [call] }) := rfl

/-- What a call comes to after the calls that were made before: it stands for its result, unless it
raises an exception. -/
def Library.outcome (library : Library) (before : List Value) (call : Value) :
    Except RunError Value :=
  if library.raises before call then .error (.raised call) else .ok call

theorem Library.call_run (library : Library) (f : Value) (arguments : List Value)
    (keywords : List (String × Value)) (m : Machine) :
    (library.call f arguments keywords).run.run m =
      (library.outcome m.calls (.returned f arguments keywords),
        { m with calls := m.calls ++ [.returned f arguments keywords] }) := by
  rw [Library.call, Library.outcome, run_bind, run_get]
  dsimp only
  rw [run_bind, noteCall_run]
  dsimp only
  split
  · rfl
  · rfl

/-! ### Expressions -/

namespace Expression

variable {e f : Expression} {arguments es : List Expression} {keywords : List (String × String)}

theorem name_run (hn : (frame.read n).run.run m = (.ok v, m')) :
    ((name n).eval library frame caller).run.run m = (.ok v, m') := by
  rw [eval, hn]

theorem member_run (he : (e.eval library frame caller).run.run m = (.ok v, m')) :
    ((member e n).eval library frame caller).run.run m = (memberOf v n).run.run m' := by
  rw [eval]
  exact run_bind_of_ok he

theorem isNone_run (he : (e.eval library frame caller).run.run m = (.ok v, m')) :
    ((isNone e).eval library frame caller).run.run m =
      (.ok (.truth v.isNone), m') := by
  rw [eval, run_bind_of_ok he]
  rfl

theorem evalAll_nil_run (m : Machine) :
    (evalAll library frame caller []).run.run m = (.ok [], m) :=
  rfl

theorem evalAll_cons_run (he : (e.eval library frame caller).run.run m = (.ok v, m₁))
    (hes : (evalAll library frame caller es).run.run m₁ = (.ok vs, m₂)) :
    (evalAll library frame caller (e :: es)).run.run m = (.ok (v :: vs), m₂) := by
  rw [evalAll, run_bind_of_ok he, run_bind_of_ok hes]
  rfl

/-- Variables that are read come to their values. -/
theorem evalAll_names_run {ns : List String} (hlength : ns.length = vs.length)
    (hreads : ∀ p ∈ ns.zip vs, (frame.read p.1).run.run m = (.ok p.2, m)) :
    (evalAll library frame caller (ns.map name)).run.run m = (.ok vs, m) := by
  induction ns generalizing vs with
  | nil =>
    rw [List.length_eq_zero_iff.mp hlength.symm, List.map_nil, evalAll]
    rfl
  | cons n ns ih =>
    obtain _ | ⟨v, vs⟩ := vs
    · exact absurd hlength (Nat.succ_ne_zero _)
    · rw [List.zip_cons_cons, List.forall_mem_cons] at hreads
      exact evalAll_cons_run (name_run hreads.1) (ih (Nat.succ.inj hlength) hreads.2)

/-- Variables that are given by their own names come to their values under these names. -/
theorem readKeywords_run {ns : List String} (hlength : ns.length = vs.length)
    (hreads : ∀ p ∈ ns.zip vs, (frame.read p.1).run.run m = (.ok p.2, m)) :
    (frame.readKeywords (ns.map fun n => (n, n))).run.run m =
      (.ok ((ns.map composedText).zip vs), m) := by
  induction ns generalizing vs with
  | nil => rfl
  | cons n ns ih =>
    obtain _ | ⟨v, vs⟩ := vs
    · exact absurd hlength (Nat.succ_ne_zero _)
    · rw [List.zip_cons_cons, List.forall_mem_cons] at hreads
      have htail := ih (Nat.succ.inj hlength) hreads.2
      rw [Frame.readKeywords] at htail ⊢
      rw [List.map_cons, List.mapM_cons, bind_assoc, run_bind_of_ok hreads.1, pure_bind,
        run_bind_of_ok htail]
      rfl

/-- A call comes to what is called with the values of the arguments. -/
theorem call_run (hf : (f.eval library frame caller).run.run m = (.ok g, m₁))
    (harguments : (evalAll library frame caller arguments).run.run m₁ = (.ok vs, m₂))
    (hkeywords : (frame.readKeywords keywords).run.run m₂ = (.ok ks, m₃)) :
    ((call f arguments keywords).eval library frame caller).run.run m =
      (caller g vs ks).run.run m₃ := by
  rw [eval, run_bind_of_ok hf, run_bind_of_ok harguments, run_bind_of_ok hkeywords]

end Expression

/-! ### Statements -/

namespace Statement

variable {e : Expression} {s : Statement} {rest body : List Statement} {result : Option Value}

theorem global_run (n : String) (m : Machine) :
    ((global n).exec library frame caller).run.run m = (.ok none, m) :=
  rfl

theorem assign_run (he : (e.eval library frame caller).run.run m = (.ok v, m₁))
    (hwrite : (frame.write n v).run.run m₁ = (.ok ⟨⟩, m₂)) :
    ((assign n e).exec library frame caller).run.run m = (.ok none, m₂) := by
  rw [exec, run_bind_of_ok he, run_bind_of_ok hwrite]
  rfl

theorem assign_run_of_error (he : (e.eval library frame caller).run.run m = (.error error, m')) :
    ((assign n e).exec library frame caller).run.run m = (.error error, m') := by
  rw [exec, run_bind_of_error he]

/-- What is returned is the value, unless the run is stopped. -/
theorem returns_run {r : Except RunError Value}
    (he : (e.eval library frame caller).run.run m = (r, m')) :
    ((returns e).exec library frame caller).run.run m = (r.map some, m') := by
  rw [exec, run_bind, he]
  cases r <;> rfl

theorem ifThen_run_of_true
    (he : (e.eval library frame caller).run.run m = (.ok (.truth true), m')) :
    ((ifThen e body).exec library frame caller).run.run m =
      (execAll library frame caller body).run.run m' := by
  rw [exec, run_bind_of_ok he]

theorem ifThen_run_of_false
    (he : (e.eval library frame caller).run.run m = (.ok (.truth false), m')) :
    ((ifThen e body).exec library frame caller).run.run m = (.ok none, m') := by
  rw [exec, run_bind_of_ok he]
  rfl

/-- A lock is left when what is done under it is done. -/
theorem within_run_of_ok (he : (e.eval library frame caller).run.run m = (.ok v, m₁))
    (hbody : (execAll library frame caller body).run.run
      { m₁ with calls := m₁.calls ++ [.returned (.member v "__enter__") [] []] } =
        (.ok result, m₂)) :
    ((within e body).exec library frame caller).run.run m =
      (.ok result, { m₂ with calls := m₂.calls ++ [.returned (.member v "__exit__") [] []] }) := by
  have htry := run_tryCatch (execAll library frame caller body) (fun error => do
    noteCall (.returned (.member v "__exit__") [] [])
    throw error) { m₁ with calls := m₁.calls ++ [.returned (.member v "__enter__") [] []] }
  rw [hbody] at htry
  rw [exec, run_bind_of_ok he, run_bind_of_ok (noteCall_run _ _)]
  dsimp only
  rw [run_bind_of_ok htry, run_bind_of_ok (noteCall_run _ _)]
  rfl

/-- A lock is left when what is done under it stops the run. -/
theorem within_run_of_error (he : (e.eval library frame caller).run.run m = (.ok v, m₁))
    (hbody : (execAll library frame caller body).run.run
      { m₁ with calls := m₁.calls ++ [.returned (.member v "__enter__") [] []] } =
        (.error error, m₂)) :
    ((within e body).exec library frame caller).run.run m = (.error error,
      { m₂ with calls := m₂.calls ++ [.returned (.member v "__exit__") [] []] }) := by
  have htry := run_tryCatch (execAll library frame caller body) (fun error => do
    noteCall (.returned (.member v "__exit__") [] [])
    throw error) { m₁ with calls := m₁.calls ++ [.returned (.member v "__enter__") [] []] }
  rw [hbody] at htry
  rw [exec, run_bind_of_ok he, run_bind_of_ok (noteCall_run _ _)]
  dsimp only
  rw [run_bind_of_error (htry.trans ((run_bind_of_ok (noteCall_run _ _)).trans (run_throw _ _)))]

theorem execAll_cons_run (hs : (s.exec library frame caller).run.run m = (.ok none, m')) :
    (execAll library frame caller (s :: rest)).run.run m =
      (execAll library frame caller rest).run.run m' := by
  rw [execAll, run_bind_of_ok hs]

theorem execAll_cons_run_of_error
    (hs : (s.exec library frame caller).run.run m = (.error error, m')) :
    (execAll library frame caller (s :: rest)).run.run m = (.error error, m') := by
  rw [execAll, run_bind_of_error hs]

/-- The last statement decides. -/
theorem execAll_singleton_run (s : Statement) (m : Machine) :
    (execAll library frame caller [s]).run.run m = (s.exec library frame caller).run.run m := by
  rw [execAll, run_bind]
  rcases (s.exec library frame caller).run.run m with ⟨_ | _ | v, m'⟩ <;> rfl

end Statement

/-! ### Calls -/

/-- Arguments by position alone are bound in their order. -/
theorem bindArguments_of_length {formals : List String} (hdistinct : formals.Nodup)
    {arguments : List Value} (hlength : arguments.length = formals.length) :
    bindArguments formals arguments [] = some (formals.zip arguments) := by
  have hnames : (formals.zip arguments).map Prod.fst = formals :=
    List.map_fst_zip (Nat.le_of_eq hlength.symm)
  rw [bindArguments, List.append_nil, hnames,
    if_pos ⟨Nat.le_of_eq hlength, hdistinct, List.Subset.refl _, List.Subset.refl _⟩]

/-- Arguments by position alone are not bound if there are too many or too few of them. -/
theorem bindArguments_of_length_ne {formals : List String} {arguments : List Value}
    (hdistinct : formals.Nodup) (hlength : arguments.length ≠ formals.length) :
    bindArguments formals arguments [] = none := by
  rw [bindArguments, List.append_nil, if_neg]
  rintro ⟨hle, -, -, hsubset⟩
  have hcount := (hdistinct.subperm hsubset).length_le
  rw [List.length_map, List.length_zip] at hcount
  omega

namespace Routine

variable {routine : Routine} {part : Part} {arguments : List Value} {names : NameTable}
  {r : Except RunError (Option Value)}

/-- A call runs the statements with names of its own, which are gone after it. -/
theorem run_run (hbind : bindArguments routine.formals arguments [] = some names)
    (hbody : (Statement.execAll library ⟨part, routine.localNames⟩ caller routine.body).run.run
      { m with locals := names } = (r, m')) :
    (routine.run library caller part arguments []).run.run m =
      (r.map fun v => v.getD .none, { m' with locals := m.locals }) := by
  rw [Routine.run, hbind]
  dsimp only
  rw [run_bind_of_ok (run_get m)]
  rw [run_bind_of_ok (run_modify _ m)]
  have htry := run_tryCatch
    (Statement.execAll library ⟨part, routine.localNames⟩ caller routine.body) (fun error => do
      modify fun m' => { m' with locals := m.locals }
      throw error) { m with locals := names }
  rw [hbody] at htry
  cases r with
  | ok v =>
    rw [run_bind_of_ok htry, run_bind_of_ok (run_modify _ _)]
    rfl
  | error error =>
    rw [run_bind_of_error (htry.trans ((run_bind_of_ok (run_modify _ _)).trans (run_throw _ _)))]
    rfl

theorem run_run_of_none (hbind : bindArguments routine.formals arguments [] = none) :
    (routine.run library caller part arguments []).run.run m =
      (.error (.arguments routine.name), m) := by
  rw [Routine.run, hbind]
  rfl

end Routine

/-- What an imported function has come to is an imported function itself. -/
theorem callValue_returned (library : Library) (loader : Program) (depth : ℕ) (f : Value)
    (vs : List Value) (ks : List (String × Value)) :
    callValue library loader depth (.returned f vs ks) = library.call (.returned f vs ks) := by
  cases depth <;> rfl

end HandlerBundle.Generated
