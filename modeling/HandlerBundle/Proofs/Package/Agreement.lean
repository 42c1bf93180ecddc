import HandlerBundle.Proofs.Package.Batch
import HandlerBundle.Proofs.Package.Interleaving

/-!
# Runs of a batch agree

When failures are isolated, every run of a batch with several workers comes to an end, and its
results agree with those that are found one after the other. The names of the directories may differ
where several handlers have the same name: which of them finds a name free depends on the order of
the steps.

## Main definitions

* `IsSole` — a candidate whose handler shares its name with no other one.
* `RunsAgree`, `AllRunsAgree` — what two runs of a batch have in common, and all of them.

## Main results

* `PoolInvariant.isRunOf` — what a run comes to.
* `PoolInvariant.exists_step_or_outcome?` — a run goes on until it has come to its results.
* `batchOutcome_agrees` — every run agrees with the one that takes one candidate after the other.
-/

namespace HandlerBundle

open Build FileTree

/-- A candidate of a batch whose handler shares its name with no other one. -/
def IsSole (cs : List Candidate) (c : Candidate) : Prop :=
  cs.countP (fun c' => c'.handler.name = c.handler.name) = 1

/-- What two runs of a batch have in common: the results are those of the candidates in their order,
and agree up to the names of the directories, no two of which are the same in one run. They differ
from run to run only where several handlers have the same name. -/
structure RunsAgree (cs : List Candidate) (rs : List PackageResult) (t : FileTree)
    (rs' : List PackageResult) (t' : FileTree) : Prop where
  isOf : List.Forall₂ (fun c (r : PackageResult) => r.IsOf c) cs rs
  agrees : List.Forall₂ (fun (r r' : PackageResult) => r.Agrees t r' t') rs rs'
  distinct : (rs.filterMap fun r => r.directory).Nodup
  directory : ∀ (i : ℕ) (c : Candidate) (r r' : PackageResult), cs[i]? = some c →
    rs[i]? = some r → rs'[i]? = some r' → IsSole cs c → r.directory = r'.directory

/-- Whether all runs of a batch come to results that agree with those of the candidates one after
the other, which is what one of the runs comes to. -/
def AllRunsAgree (ctx : PackageContext) (cs : List Candidate) (place : String) : Prop :=
  ∃ rs w, (packageAll ctx cs).outcome place = (.ok rs, w) ∧ BatchOutcome ctx cs place (.ok rs) w ∧
    ∀ result v, BatchOutcome ctx cs place result v →
      ∃ rs', result = .ok rs' ∧ RunsAgree cs rs' v.files rs w.files

variable {ctx : PackageContext} {place : String} {c : Candidate} {cs : List Candidate}
  {w : Workspace} {ds : List String} {slots : List (Candidate × Option String)}
  {r r' : PackageResult} {rs rs' : List PackageResult} {t t' : FileTree} {d : String}
  {o : Option String} {tasks : List (Task PackageResult)} {workers : Nat} {p : Pool PackageResult}

/-! ### Results of a candidate -/

/-- Results that both agree with what the candidate comes to on its own agree. -/
theorem AgreesAlone.agrees (h : AgreesAlone ctx place c r t) (h' : AgreesAlone ctx place c r' t') :
    r.Agrees t r' t' := by
  obtain ⟨r₀, v, hrun, hr⟩ := h
  obtain ⟨r₀', v', hrun', hr'⟩ := h'
  obtain ⟨hr₀, rfl⟩ := Prod.mk.inj (hrun.symm.trans hrun')
  obtain rfl := Except.ok.inj hr₀
  refine ⟨hr.scope.trans hr'.scope.symm, hr.name.trans hr'.name.symm,
    hr.errors.trans hr'.errors.symm, hr.artifacts.trans hr'.artifacts.symm,
    hr.ok.trans hr'.ok.symm, fun d hd d' hd' => ?_⟩
  obtain ⟨d₀, hd₀⟩ := Option.isSome_iff_exists.mp (hr.ok ▸ Option.isSome_iff_exists.mpr ⟨d, hd⟩)
  exact (hr.below d hd d₀ hd₀).trans (hr'.below d' hd' d₀ hd₀).symm

/-- A result that agrees with what the candidate comes to on its own is one of the candidate. -/
theorem AgreesAlone.isOf (h : AgreesAlone ctx place c r t) : r.IsOf c := by
  obtain ⟨r₀, v, hrun, hr⟩ := h
  have hof : r₀.IsOf c := isOf_of_packageOne hrun
  refine ⟨hr.scope.trans hof.scope, hr.name.trans hof.name, ?_, ?_⟩
  · rw [hr.errors, hr.ok]
    exact hof.errors_iff
  · rw [hr.errors]
    exact hof.rejected

/-! ### Results of a run -/

/-- What a run of a batch comes to, whatever the order of its steps is. -/
structure IsRunOf (ctx : PackageContext) (place : String) (cs : List Candidate)
    (rs : List PackageResult) (t : FileTree) : Prop where
  alone : List.Forall₂ (fun c r => AgreesAlone ctx place c r t) cs rs
  distinct : (rs.filterMap fun r => r.directory).Nodup
  /-- A handler that shares its name with no other one has a directory of its name. -/
  directory : List.Forall₂ (fun c (r : PackageResult) => IsSole cs c →
    ∀ p ∈ r.directory, p = [c.handler.name]) cs rs

/-- Items that stand at one place of lists that are related item by item are related. -/
theorem rel_of_getElem? {α β : Type} {R : α → β → Prop} {xs : List α} {ys : List β}
    (h : List.Forall₂ R xs ys) {i : ℕ} {x : α} {y : β} (hx : xs[i]? = some x)
    (hy : ys[i]? = some y) : R x y :=
  List.forall₂_zip h (List.mem_of_getElem? (List.getElem?_zip_eq_some.mpr ⟨hx, hy⟩))

/-- The results of two runs agree. -/
theorem forall₂_agrees (h : List.Forall₂ (fun c r => AgreesAlone ctx place c r t) cs rs)
    (h' : List.Forall₂ (fun c r => AgreesAlone ctx place c r t') cs rs') :
    List.Forall₂ (fun r r' => r.Agrees t r' t') rs rs' := by
  induction h generalizing rs' with
  | nil =>
    cases h'
    exact .nil
  | cons hr _ ih =>
    cases h' with
    | cons hr' hrs' => exact .cons (hr.agrees hr') (ih hrs')

/-- **Two runs of a batch agree.** -/
theorem IsRunOf.runsAgree (h : IsRunOf ctx place cs rs t) (h' : IsRunOf ctx place cs rs' t') :
    RunsAgree cs rs t rs' t' where
  isOf := h.alone.imp fun _ _ => AgreesAlone.isOf
  agrees := forall₂_agrees h.alone h'.alone
  distinct := h.distinct
  directory i c r r' hc hr hr' hsole := by
    have hok := (rel_of_getElem? (forall₂_agrees h.alone h'.alone) hr hr').ok
    have hown := rel_of_getElem? h.directory hc hr hsole
    have hown' := rel_of_getElem? h'.directory hc hr' hsole
    cases hd : r.directory <;> cases hd' : r'.directory <;> rw [hd, hd'] at hok
    · cases hok
    · cases hok
    · rw [hown _ hd, hown' _ hd']

/-- The tasks of a pool with no task that waits or runs have ended with results. -/
theorem exists_ended (h : AreOnCourse ctx place w ds slots tasks)
    (hend : (tasks.any fun t => t.isWaiting || t.isRunning) = false) :
    ∃ rs : List PackageResult, tasks = rs.map fun r => .ended (.ok r) := by
  induction h with
  | nil => exact ⟨[], rfl⟩
  | @cons slot t _ _ ht _ ih =>
    obtain ⟨c, o⟩ := slot
    rw [List.any_cons, Bool.or_eq_false_iff] at hend
    obtain ⟨rs, rfl⟩ := ih hend.2
    cases ht with
    | waiting => cases hend.1
    | running => cases hend.1
    | ended => exact ⟨_ :: rs, rfl⟩

/-- What a candidate has come to that has ended with a result. -/
theorem IsOnCourse.of_ended (h : IsOnCourse ctx place c w ds o (.ended (.ok r))) :
    AgreesAlone ctx place c r w.files ∧ (∀ p ∈ r.directory, ∃ d ∈ o, p = [d]) ∧
      ∀ d ∈ o, d ∈ directoryNames c.handler ∧ (d = c.handler.name ∨ c.handler.name ∈ ds) := by
  cases h with
  | ended h => exact h.of_done

/-- The directories of the results are among those of the candidates. -/
theorem directories_sublist (h : List.Forall₂ (fun (slot : Candidate × Option String)
      (r : PackageResult) => ∀ p ∈ r.directory, ∃ d ∈ slot.2, p = [d]) slots rs) :
    List.Sublist (rs.filterMap fun r => r.directory) ((owned slots).map fun d => [d]) := by
  induction h with
  | nil => exact .slnil
  | @cons slot r slots rs hr _ ih =>
    obtain ⟨c, o⟩ := slot
    rw [owned, List.filterMap_cons, List.filterMap_cons, ← owned]
    cases hd : r.directory with
    | none =>
      cases o with
      | none => exact ih
      | some d => exact ih.cons _
    | some p =>
      obtain ⟨d, rfl, rfl⟩ := hr p hd
      exact ih.cons_cons _

/-- A handler that shares its name with no other one has its name for itself. -/
theorem eq_name_of_isSole (hident : ∀ c ∈ slots.map Prod.fst, isIdentifier c.handler.name = true)
    (htried : ∀ slot ∈ slots, ∀ d ∈ slot.2, d ∈ directoryNames slot.1.handler)
    (hslot : (c, some d) ∈ slots) (hsole : IsSole (slots.map Prod.fst) c)
    (hfirst : d = c.handler.name ∨ c.handler.name ∈ owned slots) : d = c.handler.name := by
  rcases hfirst with hfirst | hname
  · exact hfirst
  obtain ⟨⟨c', o'⟩, hslot', ho'⟩ := List.mem_filterMap.mp hname
  -- the candidate that has the name as a directory has it as its name
  have hsame : c.handler.name = c'.handler.name :=
    eq_name_of_mem_directoryNames (htried _ hslot' _ ho')
      (hident c (List.mem_map_of_mem (f := Prod.fst) hslot))
  by_contra hne
  obtain ⟨front, back, rfl⟩ := List.append_of_mem hslot
  have hother : (c', o') ∈ front ++ back := by
    rw [List.mem_append, List.mem_cons] at hslot'
    rcases hslot' with hfront | heq | hback
    · exact List.mem_append_left _ hfront
    · obtain ⟨-, rfl⟩ := Prod.mk.inj heq
      exact absurd (Option.some.inj ho') hne
    · exact List.mem_append_right _ hback
  have hcount : 0 < (front ++ back).countP
      fun slot => decide (slot.1.handler.name = c.handler.name) :=
    List.countP_pos_iff.mpr ⟨_, hother, decide_eq_true hsame.symm⟩
  rw [IsSole, List.countP_map, List.countP_append, List.countP_cons] at hsole
  rw [List.countP_append] at hcount
  simp only [Function.comp_def, decide_true, if_true] at hsole
  omega

namespace PoolInvariant

/-- At the start no candidate has a directory. -/
theorem start (ctx : PackageContext) (cs : List Candidate) (place : String) :
    PoolInvariant ctx place (cs.map fun c => (c, none)) (packagePool ctx cs place) := by
  refine ⟨rfl, ?_, ?_, ?_⟩
  · rw [owned_start]
    exact minted_empty
  · rw [owned_start]
    exact List.nodup_nil
  · refine List.forall₂_map_left_iff.mpr (List.forall₂_map_right_iff.mpr ?_)
    exact List.forall₂_same.mpr fun _ _ => .waiting

/-- **A run goes on until it has come to its results.** -/
theorem exists_step_or_outcome? (hworkers : 0 < workers) (hinv : PoolInvariant ctx place slots p) :
    (∃ q, p.Step workers q) ∨ ∃ rs : List PackageResult, p.outcome? = some (.ok rs) := by
  obtain ⟨w, tasks, raised⟩ := p
  obtain rfl : raised = none := hinv.raised
  cases hpending : tasks.any fun t => t.isWaiting || t.isRunning with
  | true => exact .inl (Pool.exists_step hworkers hpending)
  | false =>
    obtain ⟨rs, rfl⟩ := exists_ended hinv.tasks hpending
    exact .inr ⟨rs, Pool.outcome?_ended rs⟩

/-- **What a run comes to.** -/
theorem isRunOf (hident : ∀ c ∈ cs, isIdentifier c.handler.name = true)
    (hslots : slots.map Prod.fst = cs) (hinv : PoolInvariant ctx place slots p)
    {result : Except Failure (List PackageResult)} (hresult : p.outcome? = some result) :
    ∃ rs, result = .ok rs ∧ IsRunOf ctx place cs rs p.workspace.files := by
  subst hslots
  obtain ⟨w, tasks, raised⟩ := p
  obtain rfl : raised = none := hinv.raised
  cases hpending : tasks.any fun t => t.isWaiting || t.isRunning with
  | true =>
    rw [Pool.outcome?, if_pos hpending] at hresult
    cases hresult
  | false =>
    obtain ⟨rs, rfl⟩ := exists_ended hinv.tasks hpending
    obtain rfl := Option.some.inj ((Pool.outcome?_ended rs).symm.trans hresult)
    have hended := List.forall₂_map_right_iff.mp hinv.tasks
    obtain ⟨htried, -⟩ := (List.forall₂_and_left (R := fun _ _ => True)
      (p := fun slot : Candidate × Option String => ∀ d ∈ slot.2, d ∈ directoryNames slot.1.handler)
      slots rs).mp (hended.imp fun _ _ h => ⟨fun d hd => (h.of_ended.2.2 d hd).1, trivial⟩)
    refine ⟨rs, rfl, ?_, ?_, ?_⟩
    · exact List.forall₂_map_left_iff.mpr (hended.imp fun _ _ h => h.of_ended.1)
    · have hdistinct : ((owned slots).map fun d => [d]).Nodup :=
        hinv.nodup.map fun _ _ h => (List.cons.inj h).1
      exact hdistinct.sublist (directories_sublist (hended.imp fun _ _ h => h.of_ended.2.1))
    · refine List.forall₂_map_left_iff.mpr (((List.forall₂_and_left slots rs).mpr
        ⟨fun _ hslot => hslot, hended⟩).imp ?_)
      rintro ⟨c, o⟩ r ⟨hslot, h⟩ hsole p hp
      obtain ⟨-, hdirectory, hname⟩ := h.of_ended
      obtain ⟨d, rfl, rfl⟩ := hdirectory p hp
      rw [eq_name_of_isSole hident htried hslot hsole (hname d rfl).2]

end PoolInvariant

/-! ### A batch -/

/-- A batch in order starts where the pool does. -/
theorem packageAll_outcome_eq (ctx : PackageContext) (cs : List Candidate) (place : String) :
    (packageAll ctx cs).outcome place =
      (cs.mapM (packageOne ctx)).run.run (packagePool ctx cs place).workspace := by
  rw [Build.outcome, packageAll, packagePool]
  simp only [run_bind, run_get, run_tell]
  rfl

/-- **Runs of a batch agree.** When failures are isolated, a batch of two to a hundred candidates
that can be packaged side by side, with scopes that can be part of a path, comes to its results with
every number of workers and in every order of their steps. One of the orders is that of the
candidates, one after the other, and what any other one comes to agrees with it. -/
theorem batchOutcome_agrees {ctx : PackageContext} (hisolate : ctx.settings.isolateFailures = true)
    (hworkers : 1 < ctx.settings.maxWorkers) {cs : List Candidate} (hmany : 2 ≤ cs.length)
    (hlength : cs.length ≤ 100) (place : String) (hcs : ∀ c ∈ cs, IsPackageable ctx place c)
    (hscope : ∀ c ∈ cs, IsPathPart c.handler.scope) :
    (packagePool ctx cs place).Settles ctx.settings.maxWorkers.toNat ∧
      AllRunsAgree ctx cs place := by
  have hpositive : 0 < ctx.settings.maxWorkers.toNat := by omega
  have hinvariant : ∀ p, (packagePool ctx cs place).Reaches ctx.settings.maxWorkers.toNat p →
      ∃ slots, slots.map Prod.fst = cs ∧ PoolInvariant ctx place slots p := by
    intro p hreaches
    refine (PoolInvariant.start ctx cs place).reaches hisolate
      (fun c hc => ⟨hcs c hc, hscope c hc⟩) hlength ?_ hreaches
    rw [List.map_map]
    exact List.map_id cs
  have hruns : ∀ result v, BatchOutcome ctx cs place result v →
      ∃ rs, result = .ok rs ∧ IsRunOf ctx place cs rs v.files := by
    intro result v houtcome
    cases houtcome with
    | sequential hfew => exact absurd ⟨hworkers, hmany⟩ hfew
    | concurrent _ hreaches hresult =>
      obtain ⟨slots, hslots, hinv⟩ := hinvariant _ hreaches
      exact hinv.isRunOf (fun c hc => (hcs c hc).name) hslots hresult
  refine ⟨⟨(Pool.wellFounded_step _).apply _, fun q hreaches => ?_⟩, ?_⟩
  · obtain ⟨slots, -, hinv⟩ := hinvariant q hreaches
    refine (hinv.exists_step_or_outcome? hpositive).imp_right ?_
    rintro ⟨rs, hresult⟩
    exact hresult ▸ rfl
  · obtain ⟨rs, hrs, -⟩ := mapM_packageOne_agrees hisolate (fun _ => .empty place)
      (fun _ => minted_empty) hcs hscope (w := (packagePool ctx cs place).workspace) minted_empty
      (by rwa [List.length_nil, Nat.zero_add])
    rcases hrun : (packageAll ctx cs).outcome place with ⟨result, w⟩
    rw [← packageAll_outcome_eq, hrun] at hrs
    obtain rfl : result = .ok rs := hrs
    have hbatch : BatchOutcome ctx cs place (.ok rs) w := by
      have hreaches := Pool.reaches_in_order hpositive (packageSteps_performs ctx)
        ((packageAll_outcome_eq ctx cs place).symm.trans hrun) (List.forall_mem_nil _)
        List.countP_nil
      rw [List.append_nil, List.append_nil] at hreaches
      exact .concurrent ⟨hworkers, hmany⟩ hreaches (Pool.outcome?_ended rs)
    refine ⟨rs, w, hrun, hbatch, fun result v houtcome => ?_⟩
    obtain ⟨rs', rfl, hrun'⟩ := hruns result v houtcome
    obtain ⟨_, hrs, hrun⟩ := hruns _ w hbatch
    obtain rfl := Except.ok.inj hrs
    exact ⟨rs', rfl, hrun'.runsAgree hrun⟩

/-- With a second worker, the last two candidates can be packaged the other way round. -/
theorem batchOutcome_swapped {cs : List Candidate} {c c' : Candidate} {v : Workspace}
    (hmany : 1 < ctx.settings.maxWorkers ∧ 1 < (cs ++ [c, c']).length)
    (hrun : ((cs ++ [c', c]).mapM (packageOne ctx)).run.run
      (packagePool ctx (cs ++ [c, c']) place).workspace = (.ok rs', v)) :
    ∃ rs r r', rs' = rs ++ [r', r] ∧
      BatchOutcome ctx (cs ++ [c, c']) place (.ok (rs ++ [r, r'])) v := by
  have hworkers : 1 < ctx.settings.maxWorkers.toNat := by
    have := hmany.1
    omega
  rw [List.mapM_append] at hrun
  obtain ⟨rs, u, hfirst, hrest⟩ := run_bind_eq_ok_iff.mp hrun
  obtain ⟨_, _, hpair, hpure⟩ := run_bind_eq_ok_iff.mp hrest
  obtain ⟨hrs', rfl⟩ := Prod.mk.inj hpure
  obtain rfl := Except.ok.inj hrs'
  obtain ⟨r', u', _, hlast, hsingle, rfl⟩ := run_mapM_cons_eq_ok_iff.mp hpair
  obtain ⟨r, _, _, hbefore, hnil, rfl⟩ := run_mapM_cons_eq_ok_iff.mp hsingle
  rw [List.mapM_nil, run_pure] at hnil
  obtain ⟨hempty, rfl⟩ := Prod.mk.inj hnil
  obtain rfl := Except.ok.inj hempty
  refine ⟨rs, r, r', rfl, ?_⟩
  have hnone : ([c, c'].map fun c => Task.waiting (packageSteps ctx c)).countP Task.isRunning = 0 :=
    rfl
  have hfront := Pool.reaches_in_order (Nat.zero_lt_of_lt hworkers) (packageSteps_performs ctx)
    hfirst (List.forall_mem_nil _) hnone
  rw [List.nil_append, List.nil_append, ← List.map_append] at hfront
  have hended : ∀ t ∈ rs.map fun r => Task.ended (.ok r),
      t.isWaiting = false ∧ t.isRunning = false := by
    intro t ht
    obtain ⟨_, -, rfl⟩ := List.mem_map.mp ht
    exact ⟨rfl, rfl⟩
  have hswapped := hfront.trans (Pool.reaches_swapped hworkers hended
    ((packageSteps_performs ctx c' u).trans hlast) ((packageSteps_performs ctx c u').trans hbefore))
  have hpair : [Task.ended (.ok r), .ended (.ok r')] = [r, r'].map fun r => .ended (.ok r) := rfl
  rw [hpair, ← List.map_append] at hswapped
  exact .concurrent hmany hswapped (Pool.outcome?_ended _)

/-! ### Batches with two workers -/

/-- Isolated failures, and two workers. -/
def pairContext : PackageContext :=
  { trialContext with settings := { trialContext.settings with maxWorkers := 2 } }

theorem IsPackageable.pairContext (h : IsPackageable trialContext place c) :
    IsPackageable pairContext place c :=
  ⟨h.name, h.hooks, h.failure⟩

/-- A handler that fails, and two others that are packaged under the same name. -/
theorem batchOutcome_agrees_failingHook :
    let cs := [trialCandidate "pkg" "f" failingHook, trialCandidate "pkg" "g" .idle,
      trialCandidate "pkg" "g" .idle]
    pairContext.settings.isolateFailures = true ∧ 1 < pairContext.settings.maxWorkers ∧
      2 ≤ cs.length ∧ cs.length ≤ 100 ∧ (∀ c ∈ cs, IsPackageable pairContext "" c) ∧
      (∀ c ∈ cs, IsPathPart c.handler.scope) ∧
      (packagePool pairContext cs "").Settles 2 ∧ AllRunsAgree pairContext cs "" := by
  intro cs
  have hcs : ∀ c ∈ cs, IsPackageable pairContext "" c := by
    simp only [cs, List.forall_mem_cons]
    exact ⟨(isPackageable_failingHook trialBuild_failingHook.1).pairContext,
      isPackageable_idle.pairContext, isPackageable_idle.pairContext, List.forall_mem_nil _⟩
  have hscope : ∀ c ∈ cs, IsPathPart c.handler.scope := by
    simp only [cs, List.forall_mem_cons, trialCandidate, IsPathPart]
    decide
  exact ⟨rfl, by decide, by decide, by decide, hcs, hscope,
    batchOutcome_agrees rfl (by decide) (by decide) (by decide) "" hcs hscope⟩

/-- A part of the results of candidates that are packaged in the order of a list. -/
def resultsInOrder {β : Type} (part : PackageResult → β) (start cs : List Candidate) :
    Except Failure (List β) :=
  ((cs.mapM (packageOne pairContext)).run.run (packagePool pairContext start "").workspace).1.map
    fun rs => rs.map part

/-- If all runs agree, then so do the two that differ in the order of the last two candidates. -/
theorem AllRunsAgree.swapped {β : Type} {part : PackageResult → β} {cs : List Candidate}
    {c c' : Candidate} (h : AllRunsAgree pairContext (cs ++ [c, c']) "") {xs ys : List β} {x x' : β}
    (hswapped : resultsInOrder part (cs ++ [c, c']) (cs ++ [c', c]) = .ok (xs ++ [x', x]))
    (horder : resultsInOrder part (cs ++ [c, c']) (cs ++ [c, c']) = .ok ys) :
    ∃ rs t rs' t', RunsAgree (cs ++ [c, c']) rs t rs' t' ∧ rs.map part = xs ++ [x, x'] ∧
      rs'.map part = ys := by
  obtain ⟨rs', w, hrun, -, hall⟩ := h
  rw [packageAll_outcome_eq] at hrun
  rw [resultsInOrder, hrun] at horder
  rcases hother : ((cs ++ [c', c]).mapM (packageOne pairContext)).run.run
    (packagePool pairContext (cs ++ [c, c']) "").workspace with ⟨f | rs, v⟩ <;>
    rw [resultsInOrder, hother] at hswapped
  · cases hswapped
  · have hmany : 1 < pairContext.settings.maxWorkers ∧ 1 < (cs ++ [c, c']).length := by
      rw [List.length_append]
      exact ⟨by decide, Nat.le_add_left _ _⟩
    obtain ⟨rs, r, r', rfl, houtcome⟩ := batchOutcome_swapped hmany hother
    obtain ⟨_, hrs, hagree⟩ := hall _ _ houtcome
    obtain rfl := Except.ok.inj hrs
    refine ⟨_, _, _, _, hagree, ?_, Except.ok.inj horder⟩
    have hparts : (rs ++ [r', r]).map part = xs ++ [x', x] := Except.ok.inj hswapped
    rw [List.map_append] at hparts ⊢
    obtain ⟨hfirst, hlast⟩ := List.append_inj' hparts rfl
    obtain ⟨hx', hx⟩ := List.cons.inj hlast
    rw [hfirst, List.map_cons, List.map_cons, hx', (List.cons.inj hx).1, List.map_nil]

/-- Two handlers with a slash in their scope, and one whose name leads to the same directory as the
second name that is tried for them. -/
def slashedBatch : List Candidate :=
  [trialCandidate "g/" "f" failingHook, trialCandidate "g/" "f" failingHook,
    trialCandidate "pkg" "g" .idle]

theorem isPackageable_slashedBatch : ∀ c ∈ slashedBatch, IsPackageable pairContext "" c := by
  have hf := (isPackageable_failingHook trialBuild_failingHook.2).pairContext
  simp only [slashedBatch, List.forall_mem_cons]
  exact ⟨hf, hf, isPackageable_idle.pairContext, List.forall_mem_nil _⟩

/-- A scope with a slash in it can lead into a directory that another handler finds free or not,
depending on the order, although no other one has its name. -/
theorem not_allRunsAgree_slashedBatch : ¬ AllRunsAgree pairContext slashedBatch "" := by
  intro h
  have hresults :
      let f := trialCandidate "g/" "f" failingHook
      let g := trialCandidate "pkg" "g" .idle
      resultsInOrder (fun r => r.directory) [f, f, g] [f, g, f] =
          .ok ([none] ++ [some ["g"], none]) ∧
        resultsInOrder (fun r => r.directory) [f, f, g] [f, f, g] =
          .ok [none, none, some ["pkg.g"]] := by
    simp only [resultsInOrder, packageOne, buildArtifact, fillDirectory, capture, trialContext,
      pairContext, trialCandidate, Settings.standard, List.mapM_cons, List.mapM_nil,
      buildClosure_trialHeap]
    decide +kernel
  have hbatch : AllRunsAgree pairContext ([trialCandidate "g/" "f" failingHook] ++
      [trialCandidate "g/" "f" failingHook, trialCandidate "pkg" "g" .idle]) "" := h
  obtain ⟨rs, t, rs', t', hagree, hrs, hrs'⟩ := hbatch.swapped hresults.1 hresults.2
  have hr : (rs.map fun r => r.directory)[2]? = some (some ["g"]) := hrs ▸ rfl
  have hr' : (rs'.map fun r => r.directory)[2]? = some (some ["pkg.g"]) := hrs' ▸ rfl
  rw [List.getElem?_map, Option.map_eq_some_iff] at hr hr'
  obtain ⟨r, hr, hd⟩ := hr
  obtain ⟨r', hr', hd'⟩ := hr'
  have hsame := hagree.directory 2 _ r r' rfl hr hr' (by unfold IsSole; decide)
  rw [hd, hd'] at hsame
  exact absurd hsame (by decide)

/-- A hook need not look at the path of its directory to see what others have done. -/
theorem not_allRunsAgree_countingBatch : ¬ AllRunsAgree pairContext countingBatch "" := by
  intro h
  have hresults :
      let f := trialCandidate "pkg" "f" countingHook
      let g := trialCandidate "pkg" "g" countingHook
      resultsInOrder (fun r => r.artifacts) [f, g] [g, f] = .ok ([] ++ [["1"], ["2"]]) ∧
        resultsInOrder (fun r => r.artifacts) [f, g] [f, g] = .ok [["1"], ["2"]] := by
    simp only [resultsInOrder, packageOne, buildArtifact, fillDirectory, capture, trialContext,
      pairContext, trialCandidate, Settings.standard, List.mapM_cons, List.mapM_nil,
      buildClosure_trialHeap]
    decide +kernel
  have hbatch : AllRunsAgree pairContext ([] ++
      [trialCandidate "pkg" "f" countingHook, trialCandidate "pkg" "g" countingHook]) "" := h
  obtain ⟨rs, t, rs', t', hagree, hrs, hrs'⟩ := hbatch.swapped hresults.1 hresults.2
  have hr : (rs.map fun r => r.artifacts)[0]? = some ["2"] := hrs ▸ rfl
  have hr' : (rs'.map fun r => r.artifacts)[0]? = some ["1"] := hrs' ▸ rfl
  rw [List.getElem?_map, Option.map_eq_some_iff] at hr hr'
  obtain ⟨r, hr, ha⟩ := hr
  obtain ⟨r', hr', ha'⟩ := hr'
  have hsame := (rel_of_getElem? hagree.agrees hr hr').artifacts
  rw [ha, ha'] at hsame
  exact absurd hsame (by decide)

/-- With two workers, runs of handlers with identifiers as names need not agree if a scope has a
slash in it, or if a hook, without a look at the path of its directory, sees more than what is below
it. -/
theorem not_allRunsAgree :
    pairContext.settings.isolateFailures = true ∧ 1 < pairContext.settings.maxWorkers ∧
      ((∀ c ∈ slashedBatch, IsPackageable pairContext "" c) ∧
        ¬ AllRunsAgree pairContext slashedBatch "") ∧
      (∀ c ∈ countingBatch, isIdentifier c.handler.name = true ∧ IsPathPart c.handler.scope) ∧
      (trialBuild "pkg" "f" countingHook = .ok ⟨"pkg", "f", some ["f"], [], ["1"]⟩ ∧
        trialBuild "pkg" "g" countingHook = .ok ⟨"pkg", "g", some ["g"], [], ["1"]⟩) ∧
      (∀ d d', countingHook d = countingHook d') ∧ ¬ AllRunsAgree pairContext countingBatch "" := by
  refine ⟨rfl, by decide, ⟨isPackageable_slashedBatch, not_allRunsAgree_slashedBatch⟩, ?_,
    trialBuild_countingHook, fun _ _ => rfl, not_allRunsAgree_countingBatch⟩
  simp only [countingBatch, List.forall_mem_cons, trialCandidate, IsPathPart]
  decide

end HandlerBundle
