import HandlerBundle.Proofs.Object.Walk
import HandlerBundle.Proofs.Package.Minting
import HandlerBundle.Proofs.Package.Mirror

/-!
# Candidates of a batch do not touch each other

When failures are isolated, what becomes of a candidate in a batch is what becomes of it on its own:
its directory is new and looks like the one it would have alone, it is filled in the same way, and
no later candidate changes it. Rejected candidates write nothing, and those that fail leave a
directory behind that no other one uses.

## Main definitions

* `IsPackageable` — candidates that can be packaged side by side.
* `PackageResult.Agrees` — results that agree up to the name of the directory.

## Main results

* `packageOne_agrees` — one candidate in two workspaces.
* `packageAll_isolated` — every candidate of a batch comes to what it comes to on its own.
-/

namespace HandlerBundle

open Build FileTree

/-- A candidate that can be packaged beside others: its name is an identifier, its hooks see and
change no more than their directory, and if it is accepted, its build on its own fails with nothing
but failures of packaging. -/
structure IsPackageable (ctx : PackageContext) (place : String) (c : Candidate) : Prop where
  name : isIdentifier c.handler.name = true
  hooks : ∀ a ∈ c.attributes, a.build.IsLocal
  failure : (resolve c.handler c.attributes).errors = [] → ∀ f,
    ((buildArtifact ctx c (resolve c.handler c.attributes).attributes).outcome place).1 = .error f →
      f.kind.isPackaging = true

/-- Results that agree up to the name of the directory, with the files in the directory. -/
structure PackageResult.Agrees (r : PackageResult) (t : FileTree) (r' : PackageResult)
    (t' : FileTree) : Prop where
  scope : r.scope = r'.scope
  name : r.name = r'.name
  errors : r.errors = r'.errors
  artifacts : r.artifacts = r'.artifacts
  ok : r.directory.isSome = r'.directory.isSome
  below : ∀ d ∈ r.directory, ∀ d' ∈ r'.directory, t.SameBelow d t' d'

variable {ctx : PackageContext} {place : String} {c : Candidate} {w w' : Workspace}
  {ds ds' : List String}

/-- The same errors without a directory agree. -/
theorem PackageResult.Agrees.failed (handler : Descriptor) (errors : List String)
    (t t' : FileTree) :
    (PackageResult.failed handler errors).Agrees t (PackageResult.failed handler errors) t' :=
  ⟨rfl, rfl, rfl, rfl, rfl, fun _ hd => by cases hd⟩

/-- Results with directories that look alike agree. -/
theorem PackageResult.Agrees.of_directories {r : PackageResult} {d d' : TreePath} {t t' : FileTree}
    (hd : r.directory = some d) (hbelow : t.SameBelow d t' d') :
    r.Agrees t { r with directory := some d' } t' where
  scope := rfl
  name := rfl
  errors := rfl
  artifacts := rfl
  ok := by rw [hd]; rfl
  below p hp p' hp' := by
    obtain rfl := Option.some.inj (hd.symm.trans hp)
    obtain rfl := Option.some.inj hp'
    exact hbelow

/-- Results go on to agree if their directory is left as it is. -/
theorem PackageResult.Agrees.of_sameBelow {r r' : PackageResult} {t t' t'' : FileTree}
    (h : r.Agrees t r' t') (hbelow : ∀ d ∈ r.directory, t.SameBelow d t'' d) :
    r.Agrees t'' r' t' :=
  { h with below := fun d hd d' hd' => (hbelow d hd).symm.trans (h.below d hd d' hd') }

/-! ### One build -/

/-- The attributes of a binding set are those that are attached, and the stand-in. -/
theorem mem_attributes_resolve {handler : Descriptor} {attributes : List Attribute} {a : Attribute}
    (h : a ∈ (resolve handler attributes).attributes) :
    a ∈ attributes ∨ a = noResultAttribute := by
  have hcompleted : a ∈ completed attributes → a ∈ attributes ∨ a = noResultAttribute := by
    intro h
    unfold completed at h
    split_ifs at h
    · exact .inl h
    · exact (List.mem_append.mp h).imp_right List.mem_singleton.mp
  simp only [resolve] at h
  split_ifs at h
  · exact .inl h
  · exact hcompleted h
  · exact hcompleted h

/-- What holds of the hooks that are attached holds of those of a binding set, if it holds of the
idle one. -/
theorem forall_hooks_resolve {P : BuildHook → Prop} (hidle : P .idle)
    (h : ∀ a ∈ c.attributes, P a.build) :
    ∀ a ∈ (resolve c.handler c.attributes).attributes, P a.build := by
  intro a ha
  rcases mem_attributes_resolve ha with ha | rfl
  · exact h a ha
  · exact hidle

theorem IsPackageable.hooks_resolve (hc : IsPackageable ctx place c) :
    ∀ a ∈ (resolve c.handler c.attributes).attributes, a.build.IsLocal :=
  forall_hooks_resolve BuildHook.isLocal_idle hc.hooks

/-- A build makes a new directory and fills it. -/
theorem buildArtifact_run (hname : isIdentifier c.handler.name = true)
    (hscope : IsPathPart c.handler.scope) (attributes : List Attribute) (h : w.files.Minted ds)
    (hlt : ds.length < 100) :
    ∃ d, IsEntryName d ∧ d ∉ ds ∧ (buildArtifact ctx c attributes).run.run w =
      (fillDirectory ctx c attributes [d]).run.run
        { w with files := w.files.withDirectory d } := by
  have hnames := isEntryName_of_mem_directoryNames (.of_isIdentifier hname) hscope
  obtain ⟨d, hd, hnew, hmint⟩ := mintDirectory_run h hnames hlt
  refine ⟨d, hnames d hd, hnew, ?_⟩
  rw [buildArtifact, run_bind, hmint]

/-- A tree to which at most one directory at the top has been added, with whatever is in it. -/
structure Grows (t : FileTree) (ds : List String) (t' : FileTree) (ds' : List String) : Prop where
  minted : t'.Minted ds'
  subset : ds ⊆ ds'
  length_le : ds'.length ≤ ds.length + 1
  kept : ∀ d ∈ ds, t.SameBelow [d] t' [d]

theorem Grows.refl {t : FileTree} (h : t.Minted ds) : Grows t ds t ds :=
  ⟨h, List.Subset.refl ds, Nat.le_succ _, fun d _ => .refl t [d]⟩

/-- What is done in a new directory at the top leaves the others as they are. -/
theorem Grows.of_withDirectory {t t' : FileTree} {d : String} (h : t.Minted ds) (hd : d ∉ ds)
    (houtside : SameOutside [d] (t.withDirectory d) t') : Grows t ds t' (d :: ds) where
  minted := (h.withDirectory d).of_sameOutside List.mem_cons_self houtside
  subset := List.subset_cons_self d ds
  length_le := Nat.le_refl _
  kept d' hd' := by
    have hne : d' ≠ d := fun heq => hd (heq ▸ hd')
    refine (Minted.sameBelow_of_ne hne).trans (SameBelow.of_sameOutside houtside fun rel => ?_)
    rw [singleton_prefix_append_iff]
    exact hne.symm

/-- **One build in two workspaces.** It comes to the same result up to the directory, and leaves
directories that look alike. -/
theorem buildArtifact_mirrors (hname : isIdentifier c.handler.name = true)
    (hscope : IsPathPart c.handler.scope) {attributes : List Attribute}
    (hhooks : ∀ a ∈ attributes, a.build.IsLocal) (h : w.files.Minted ds) (hlt : ds.length < 100)
    (h' : w'.files.Minted ds') (hlt' : ds'.length < 100) :
    ∃ d d', d ∉ ds ∧
      SameResult False
        (fun r r' => r.directory = some [d] ∧ r' = { r with directory := some [d'] })
        ((buildArtifact ctx c attributes).run.run w).1
        ((buildArtifact ctx c attributes).run.run w').1 ∧
      ((buildArtifact ctx c attributes).run.run w).2.files.SameBelow [d]
        ((buildArtifact ctx c attributes).run.run w').2.files [d'] ∧
      SameOutside [d] (w.files.withDirectory d)
        ((buildArtifact ctx c attributes).run.run w).2.files := by
  obtain ⟨d, hentry, hd, hrun⟩ := buildArtifact_run hname hscope attributes h hlt
  obtain ⟨d', hentry', hd', hrun'⟩ := buildArtifact_run hname hscope attributes h' hlt'
  have hbeside : Alongside False [d] [d'] := ⟨False.elim, hentry.isNullFree, hentry'.isNullFree⟩
  obtain ⟨hresult, -, hbelow, houtside, -⟩ := fillDirectory_mirrors ctx c hbeside hhooks
    { w with files := w.files.withDirectory d } { w' with files := w'.files.withDirectory d' }
    False.elim (mem_directories_withDirectory.mpr (.inr rfl))
    (mem_directories_withDirectory.mpr (.inr rfl)) (h.sameBelow_withDirectory h' hd hd')
  rw [hrun, hrun']
  exact ⟨d, d', hd, hresult, hbelow, houtside⟩

/-! ### One candidate -/

/-- A candidate that is rejected changes no files. -/
theorem packageOne_rejected (ctx : PackageContext) (w : Workspace)
    (herrors : (resolve c.handler c.attributes).errors ≠ []) :
    ((packageOne ctx c).run.run w).1 = .ok (.failed c.handler
      ((resolve c.handler c.attributes).errors.map (·.message))) ∧
    ((packageOne ctx c).run.run w).2.files = w.files := by
  have hne : ((resolve c.handler c.attributes).errors.map (·.message)).isEmpty = false := by
    rw [List.isEmpty_eq_false_iff, ne_eq, List.map_eq_nil_iff]
    exact herrors
  simp only [packageOne, hne, Bool.not_false, if_true, run_bind, run_tell, run_pure, and_self]

/-- An accepted candidate comes to what its build comes to. -/
theorem packageOne_of_build_ok (herrors : (resolve c.handler c.attributes).errors = [])
    {r : PackageResult} {v : Workspace}
    (hbuild : (buildArtifact ctx c (resolve c.handler c.attributes).attributes).run.run w =
      (.ok r, v)) :
    (packageOne ctx c).run.run w = (.ok r, v) := by
  simp only [packageOne, herrors, List.map_nil, List.isEmpty_nil, Bool.not_true, Bool.false_eq_true,
    if_false, run_tryCatch, hbuild]

/-- A failure of packaging is recorded for an accepted candidate. -/
theorem packageOne_of_build_error (hisolate : ctx.settings.isolateFailures = true)
    (herrors : (resolve c.handler c.attributes).errors = []) {f : Failure} {v : Workspace}
    (hbuild : (buildArtifact ctx c (resolve c.handler c.attributes).attributes).run.run w =
      (.error f, v)) (hf : f.kind.isPackaging = true) :
    ((packageOne ctx c).run.run w).1 = .ok (.failed c.handler [f.message]) ∧
    ((packageOne ctx c).run.run w).2.files = v.files := by
  simp only [packageOne, herrors, List.map_nil, List.isEmpty_nil, Bool.not_true, Bool.false_eq_true,
    if_false, run_tryCatch, hbuild, hisolate, hf, Bool.and_true, if_true, run_bind, run_tell,
    run_pure, and_self]

/-- A failure of an accepted candidate is one of packaging, whatever directories are there. -/
theorem IsPackageable.isPackaging (hc : IsPackageable ctx place c)
    (hscope : IsPathPart c.handler.scope) (herrors : (resolve c.handler c.attributes).errors = [])
    (h : w.files.Minted ds) (hlt : ds.length < 100) {f : Failure} {v : Workspace}
    (hbuild : (buildArtifact ctx c (resolve c.handler c.attributes).attributes).run.run w =
      (.error f, v)) : f.kind.isPackaging = true := by
  have hempty : (Workspace.empty place).files.Minted [] := minted_empty
  obtain ⟨d, d', -, hresult, -⟩ :=
    buildArtifact_mirrors hc.name hscope hc.hooks_resolve h hlt hempty (by decide)
  rw [hbuild] at hresult
  have hfails := hc.failure herrors
  rw [Build.outcome] at hfails
  generalize (buildArtifact ctx c (resolve c.handler c.attributes).attributes).run.run
    (Workspace.empty place) = p at hresult hfails
  obtain ⟨r, v'⟩ := p
  cases hresult with
  | error hlike =>
    rw [hlike.kind]
    exact hfails _ rfl

/-- **One candidate in two workspaces.** Its results agree, its directory is one of those that are
there then, and those that were there before stay as they are. -/
theorem packageOne_agrees (hisolate : ctx.settings.isolateFailures = true)
    (hc : IsPackageable ctx place c) (hscope : IsPathPart c.handler.scope)
    (h : w.files.Minted ds) (hlt : ds.length < 100) (h' : w'.files.Minted ds')
    (hlt' : ds'.length < 100) :
    ∃ r r' es, ((packageOne ctx c).run.run w).1 = .ok r ∧
      ((packageOne ctx c).run.run w').1 = .ok r' ∧
      r.Agrees ((packageOne ctx c).run.run w).2.files r' ((packageOne ctx c).run.run w').2.files ∧
      Grows w.files ds ((packageOne ctx c).run.run w).2.files es ∧
      ∀ p ∈ r.directory, ∃ d ∈ es, p = [d] := by
  by_cases herrors : (resolve c.handler c.attributes).errors = []
  · obtain ⟨d, d', hd, hresult, hbelow, houtside⟩ :=
      buildArtifact_mirrors hc.name hscope hc.hooks_resolve h hlt h' hlt'
    have hgrows := Grows.of_withDirectory h hd houtside
    rcases hbuild : (buildArtifact ctx c (resolve c.handler c.attributes).attributes).run.run w
      with ⟨r, v⟩
    rcases hbuild' : (buildArtifact ctx c (resolve c.handler c.attributes).attributes).run.run w'
      with ⟨r', v'⟩
    rw [hbuild, hbuild'] at hresult hbelow
    rw [hbuild] at hgrows
    cases hresult with
    | @ok r _ hr =>
      obtain ⟨hdirectory, rfl⟩ := hr
      rw [packageOne_of_build_ok herrors hbuild, packageOne_of_build_ok herrors hbuild']
      refine ⟨r, _, d :: ds, rfl, rfl, .of_directories hdirectory hbelow, hgrows, ?_⟩
      intro p hp
      obtain rfl := Option.some.inj (hdirectory.symm.trans hp)
      exact ⟨d, List.mem_cons_self, rfl⟩
    | @error f f' hlike =>
      have hf := hc.isPackaging hscope herrors h hlt hbuild
      obtain rfl := hlike.eq_of_isPackaging hf
      obtain ⟨hrun, hfiles⟩ := packageOne_of_build_error hisolate herrors hbuild hf
      obtain ⟨hrun', -⟩ := packageOne_of_build_error hisolate herrors hbuild' hf
      refine ⟨_, _, d :: ds, hrun, hrun', .failed _ _ _ _, hfiles ▸ hgrows, ?_⟩
      intro p hp
      cases hp
  · obtain ⟨hrun, hfiles⟩ := packageOne_rejected ctx w herrors
    obtain ⟨hrun', -⟩ := packageOne_rejected ctx w' herrors
    refine ⟨_, _, ds, hrun, hrun', .failed _ _ _ _, ?_, ?_⟩
    · rw [hfiles]
      exact .refl h
    · intro p hp
      cases hp

/-! ### A batch -/

/-- The results of a list are those of its first item and of the others after it. -/
theorem mapM_cons_run {c : Candidate} {cs : List Candidate} {r : PackageResult}
    {rs : List PackageResult} (hrun : ((packageOne ctx c).run.run w).1 = .ok r)
    (hruns : ((cs.mapM (packageOne ctx)).run.run ((packageOne ctx c).run.run w).2).1 = .ok rs) :
    ((c :: cs).mapM (packageOne ctx)).run.run w =
      (.ok (r :: rs), ((cs.mapM (packageOne ctx)).run.run ((packageOne ctx c).run.run w).2).2) :=
  run_mapM_cons_eq_ok_iff.mpr ⟨r, _, rs, Prod.ext hrun rfl, Prod.ext hruns rfl, rfl⟩

/-- The results of a batch agree with those that each candidate has from its own workspace on. -/
theorem mapM_packageOne_agrees (hisolate : ctx.settings.isolateFailures = true)
    (alone : Candidate → Workspace) (h' : ∀ c, (alone c).files.Minted []) {cs : List Candidate}
    (hcs : ∀ c ∈ cs, IsPackageable ctx place c) (hscope : ∀ c ∈ cs, IsPathPart c.handler.scope)
    (h : w.files.Minted ds) (hle : ds.length + cs.length ≤ 100) :
    ∃ rs, ((cs.mapM (packageOne ctx)).run.run w).1 = .ok rs ∧
      List.Forall₂ (fun c r => ∃ r', ((packageOne ctx c).run.run (alone c)).1 = .ok r' ∧
        r.Agrees ((cs.mapM (packageOne ctx)).run.run w).2.files r'
          ((packageOne ctx c).run.run (alone c)).2.files) cs rs ∧
      ∀ d ∈ ds, w.files.SameBelow [d] ((cs.mapM (packageOne ctx)).run.run w).2.files [d] := by
  induction cs generalizing w ds with
  | nil => exact ⟨[], rfl, .nil, fun _ _ => .refl _ _⟩
  | cons c cs ih =>
    rw [List.forall_mem_cons] at hcs hscope
    rw [List.length_cons] at hle
    obtain ⟨r, r', es, hrun, hrun', hagrees, hgrows, hdirectory⟩ :=
      packageOne_agrees hisolate hcs.1 hscope.1 h (by omega) (h' c) (by decide)
    have hlength := hgrows.length_le
    obtain ⟨rs, hruns, hall, hkept⟩ := ih hcs.2 hscope.2 hgrows.minted (by omega)
    rw [mapM_cons_run hrun hruns]
    refine ⟨r :: rs, rfl, .cons ⟨r', hrun', hagrees.of_sameBelow ?_⟩ hall, fun d hd => ?_⟩
    · intro p hp
      obtain ⟨d, hd, rfl⟩ := hdirectory p hp
      exact hkept d hd
    · exact (hgrows.kept d hd).trans (hkept d (hgrows.subset hd))

/-- A batch starts with a remark, and then its candidates are packaged one after the other. -/
theorem packageAll_outcome (ctx : PackageContext) (cs : List Candidate) (place : String) :
    ∃ events, (packageAll ctx cs).outcome place =
      (cs.mapM (packageOne ctx)).run.run ⟨place, .empty, events⟩ := by
  rw [Build.outcome, packageAll]
  simp only [run_bind, run_get, run_tell]
  exact ⟨_, rfl⟩

/-- Whether a batch comes to one result for each of its candidates that agrees with the result of
the candidate on its own. -/
def AllIsolated (ctx : PackageContext) (cs : List Candidate) (place place' : String) : Prop :=
  ∃ rs w, (packageAll ctx cs).outcome place = (.ok rs, w) ∧
    List.Forall₂ (fun c r => ∃ r' w', (packageAll ctx [c]).outcome place' = (.ok [r'], w') ∧
      r.Agrees w.files r' w'.files) cs rs

/-- **Partial failures are isolated.** When failures are isolated, a batch of at most a hundred
candidates that can be packaged side by side, with scopes that can be part of a path, comes to one
result for each of them. It agrees with the result of the candidate on its own: the same errors and
artifacts, and a directory exactly if it has one on its own, with the same entries. -/
theorem packageAll_isolated {ctx : PackageContext} (hisolate : ctx.settings.isolateFailures = true)
    {cs : List Candidate} (hlength : cs.length ≤ 100) (place place' : String)
    (hcs : ∀ c ∈ cs, IsPackageable ctx place' c) (hscope : ∀ c ∈ cs, IsPathPart c.handler.scope) :
    AllIsolated ctx cs place place' := by
  obtain ⟨events, hbatch⟩ := packageAll_outcome ctx cs place
  choose remarks halone using fun c => packageAll_outcome ctx [c] place'
  have hstart : (Workspace.mk place .empty events).files.Minted [] := minted_empty
  obtain ⟨rs, hrun, hall, -⟩ := mapM_packageOne_agrees hisolate
    (fun c => ⟨place', .empty, remarks c⟩) (fun _ => minted_empty) hcs hscope hstart
    (by rwa [List.length_nil, Nat.zero_add])
  refine ⟨rs, _, hbatch.trans (Prod.ext hrun rfl), hall.imp fun c r => ?_⟩
  rintro ⟨r', hrun', hagrees⟩
  exact ⟨r', _, (halone c).trans (mapM_cons_run hrun' rfl), hagrees⟩

/-! ### Batches with a hook that fails -/

/-- A heap with one constant. -/
def trialHeap : Heap := ⟨#[.constant .none]⟩

/-- Isolated failures, and a compiler that is content with every source. -/
def trialContext : PackageContext where
  heap := trialHeap
  table := .empty
  settings := { Settings.standard with isolateFailures := true }
  compiler _ _ := .compiled

/-- A hook that fails. -/
def failingHook : BuildHook := fun _ => throw ⟨.packaging, "boom"⟩

/-- An attribute that does no more than run a hook. -/
def hookAttribute (hook : BuildHook) : Attribute where
  className := "Custom"
  role := .binding
  fields := []
  check _ := []
  fragments := []
  build := hook

/-- A candidate with a timer and a hook, for the constant. -/
def trialCandidate (scope name : String) (hook : BuildHook) : Candidate where
  value := 0
  handler := ⟨scope, name, [⟨"timer", .cls (.known .timerInfo)⟩], Annotation.noneType, []⟩
  attributes := [(ShippedBinding.timerTrigger "0" (.bool false) "timer").toAttribute,
    hookAttribute hook]

/-- What a build of such a candidate comes to on its own. -/
def trialBuild (scope name : String) (hook : BuildHook) : Except Failure PackageResult :=
  let c := trialCandidate scope name hook
  ((buildArtifact trialContext c (resolve c.handler c.attributes).attributes).outcome "").1

/-- A constant needs no modules. -/
theorem closure_constant {h : Heap} {table : ModuleTable} {ex : Exclusion} {value : ObjectId}
    {c : Constant} (ho : h.object? value = some (.constant c)) :
    closure h table ex value = ⟨.ok [], []⟩ := by
  have hroots : h.referencedModules ex value = .ok [] :=
    Heap.referencedModules_eq_nil ho rfl rfl rfl
  rw [closure, hroots]
  simp [ModuleTable.closeOver, ModuleTable.search, sortNames]

theorem buildClosure_trialHeap : buildClosure trialHeap .empty .standard 0 = pure [] := by
  rw [buildClosure, closure_constant rfl]
  rfl

theorem trialBuild_idle : trialBuild "pkg" "g" .idle = .ok ⟨"pkg", "g", some ["g"], [], []⟩ := by
  simp only [trialBuild, buildArtifact, fillDirectory, capture, trialContext, trialCandidate,
    Settings.standard, buildClosure_trialHeap]
  decide +kernel

theorem trialBuild_failingHook :
    trialBuild "pkg" "f" failingHook = .error ⟨.packaging, "boom"⟩ ∧
      trialBuild "g/" "f" failingHook = .error ⟨.packaging, "boom"⟩ := by
  simp only [trialBuild, buildArtifact, fillDirectory, capture, trialContext, trialCandidate,
    Settings.standard, buildClosure_trialHeap]
  decide +kernel

/-- A hook that fails without a look at the files is local. -/
theorem isLocal_failingHook : failingHook.IsLocal where
  outside d t _ := .refl d t
  result _ _ _ _ _ _ _ := rfl
  below _ _ _ _ _ _ h := h

/-- A candidate with a local hook can be packaged if its build on its own comes to a good end, or
fails with a failure of packaging. -/
theorem isPackageable_trialCandidate {scope name : String} {hook : BuildHook}
    (hname : isIdentifier name = true) (hhook : hook.IsLocal)
    (hbuild : ∀ f, trialBuild scope name hook = .error f → f.kind.isPackaging = true) :
    IsPackageable trialContext "" (trialCandidate scope name hook) where
  name := hname
  hooks a ha := by
    rcases List.mem_pair.mp ha with rfl | rfl
    · exact BuildHook.isLocal_idle
    · exact hhook
  failure _ := hbuild

theorem isPackageable_idle : IsPackageable trialContext "" (trialCandidate "pkg" "g" .idle) :=
  isPackageable_trialCandidate (by decide) BuildHook.isLocal_idle fun _ hf => by
    cases trialBuild_idle.symm.trans hf

theorem isPackageable_failingHook {scope : String}
    (hbuild : trialBuild scope "f" failingHook = .error ⟨.packaging, "boom"⟩) :
    IsPackageable trialContext "" (trialCandidate scope "f" failingHook) :=
  isPackageable_trialCandidate (by decide) isLocal_failingHook fun _ hf => by
    obtain rfl := Except.error.inj (hbuild.symm.trans hf)
    rfl

/-- Two handlers that fail, under the same name, and between them one that is packaged. -/
theorem packageAll_isolated_failingHook :
    let cs := [trialCandidate "pkg" "f" failingHook, trialCandidate "pkg" "g" .idle,
      trialCandidate "pkg" "f" failingHook]
    trialContext.settings.isolateFailures = true ∧ cs.length ≤ 100 ∧
      (∀ c ∈ cs, IsPackageable trialContext "" c) ∧ (∀ c ∈ cs, IsPathPart c.handler.scope) ∧
      AllIsolated trialContext cs "" "" := by
  intro cs
  have hlength : cs.length ≤ 100 := by decide
  have hcs : ∀ c ∈ cs, IsPackageable trialContext "" c := by
    simp only [cs, List.forall_mem_cons]
    exact ⟨isPackageable_failingHook trialBuild_failingHook.1, isPackageable_idle,
      isPackageable_failingHook trialBuild_failingHook.1, List.forall_mem_nil _⟩
  have hscope : ∀ c ∈ cs, IsPathPart c.handler.scope := by
    simp only [cs, List.forall_mem_cons, trialCandidate, IsPathPart]
    decide
  exact ⟨rfl, hlength, hcs, hscope, packageAll_isolated rfl hlength "" "" hcs hscope⟩

/-- A handler that is packaged, and two that fail, the scope of one of which has a slash in it. -/
def slashedCandidates : List Candidate :=
  [trialCandidate "pkg" "g" .idle, trialCandidate "pkg" "f" failingHook,
    trialCandidate "g/" "f" failingHook]

/-- A scope with a slash in it can lead into the directory of another handler: the files of a
handler that fails are then found in the directory of one that is packaged. -/
theorem not_allIsolated_slashedCandidates : ¬ AllIsolated trialContext slashedCandidates "" "" := by
  rintro ⟨rs, w, hrun, hall⟩
  have hbatch : (((packageAll trialContext slashedCandidates).outcome "").1.map fun rs =>
        rs.map (·.directory)) = .ok [some ["g"], none, none] ∧
      (((packageAll trialContext slashedCandidates).outcome "").2.files.content?
        ["g", ".f", entryFile]).isSome = true := by
    simp only [slashedCandidates, packageAll, packageOne, buildArtifact, fillDirectory, capture,
      trialContext, trialCandidate, Settings.standard, List.mapM_cons, List.mapM_nil,
      buildClosure_trialHeap]
    decide +kernel
  have halone : (((packageAll trialContext [trialCandidate "pkg" "g" .idle]).outcome "").1.map
        fun rs => rs.map (·.directory)) = .ok [some ["g"]] ∧
      ((packageAll trialContext [trialCandidate "pkg" "g" .idle]).outcome "").2.files.content?
        ["g", ".f", entryFile] = none := by
    simp only [packageAll, packageOne, buildArtifact, fillDirectory, capture, trialContext,
      trialCandidate, Settings.standard, List.mapM_cons, List.mapM_nil, buildClosure_trialHeap]
    decide +kernel
  obtain ⟨r, rs, ⟨r', w', hrun', hagrees⟩, -, rfl⟩ := List.forall₂_cons_left_iff.mp hall
  rw [hrun] at hbatch
  rw [hrun'] at halone
  have hr : r.directory = some ["g"] := (List.cons.inj (Except.ok.inj hbatch.1)).1
  have hr' : r'.directory = some ["g"] := (List.cons.inj (Except.ok.inj halone.1)).1
  have hsame := (hagrees.below _ hr _ hr').contents [".f", entryFile]
  rw [List.singleton_append, halone.2] at hsame
  rw [hsame] at hbatch
  cases hbatch.2

/-- A hook that counts the directories there are, wherever its own one is. -/
def countingHook : BuildHook := fun _ => do
  return [toString (← get).directories.length]

/-- Two handlers with a hook that counts directories. -/
def countingBatch : List Candidate :=
  [trialCandidate "pkg" "f" countingHook, trialCandidate "pkg" "g" countingHook]

theorem trialBuild_countingHook :
    trialBuild "pkg" "f" countingHook = .ok ⟨"pkg", "f", some ["f"], [], ["1"]⟩ ∧
      trialBuild "pkg" "g" countingHook = .ok ⟨"pkg", "g", some ["g"], [], ["1"]⟩ := by
  simp only [trialBuild, buildArtifact, fillDirectory, capture, trialContext, trialCandidate,
    Settings.standard, buildClosure_trialHeap]
  decide +kernel

/-- A hook need not look at the path of its directory to see what others have done. -/
theorem not_allIsolated_countingBatch : ¬ AllIsolated trialContext countingBatch "" "" := by
  rintro ⟨rs, w, hrun, hall⟩
  have hbatch : (((packageAll trialContext countingBatch).outcome "").1.map fun rs =>
      rs.map (·.artifacts)) = .ok [["1"], ["2"]] := by
    simp only [countingBatch, packageAll, packageOne, buildArtifact, fillDirectory, capture,
      trialContext, trialCandidate, Settings.standard, List.mapM_cons, List.mapM_nil,
      buildClosure_trialHeap]
    decide +kernel
  have halone : (((packageAll trialContext [trialCandidate "pkg" "g" countingHook]).outcome
      "").1.map fun rs => rs.map (·.artifacts)) = .ok [["1"]] := by
    simp only [packageAll, packageOne, buildArtifact, fillDirectory, capture, trialContext,
      trialCandidate, Settings.standard, List.mapM_cons, List.mapM_nil, buildClosure_trialHeap]
    decide +kernel
  obtain ⟨_, _, -, hrest, rfl⟩ := List.forall₂_cons_left_iff.mp hall
  obtain ⟨r, _, ⟨r', w', hrun', hagrees⟩, -, rfl⟩ := List.forall₂_cons_left_iff.mp hrest
  rw [hrun] at hbatch
  rw [hrun'] at halone
  have hr : r.artifacts = ["2"] := (List.cons.inj (List.cons.inj (Except.ok.inj hbatch)).2).1
  have hr' : r'.artifacts = ["1"] := (List.cons.inj (Except.ok.inj halone)).1
  have hsame := hagrees.artifacts
  rw [hr, hr'] at hsame
  exact absurd hsame (by decide)

/-- Handlers with identifiers as names need not come to what they come to on their own if a scope
has a slash in it, or if a hook, without a look at the path of its directory, sees more than what is
below it. -/
theorem not_allIsolated :
    trialContext.settings.isolateFailures = true ∧
      ((∀ c ∈ slashedCandidates, IsPackageable trialContext "" c) ∧
        ¬ AllIsolated trialContext slashedCandidates "" "") ∧
      (∀ c ∈ countingBatch, isIdentifier c.handler.name = true ∧ IsPathPart c.handler.scope) ∧
      (trialBuild "pkg" "f" countingHook = .ok ⟨"pkg", "f", some ["f"], [], ["1"]⟩ ∧
        trialBuild "pkg" "g" countingHook = .ok ⟨"pkg", "g", some ["g"], [], ["1"]⟩) ∧
      (∀ d d', countingHook d = countingHook d') ∧
      ¬ AllIsolated trialContext countingBatch "" "" := by
  refine ⟨rfl, ⟨?_, not_allIsolated_slashedCandidates⟩, ?_, trialBuild_countingHook,
    fun _ _ => rfl, not_allIsolated_countingBatch⟩
  · simp only [slashedCandidates, List.forall_mem_cons]
    exact ⟨isPackageable_idle, isPackageable_failingHook trialBuild_failingHook.1,
      isPackageable_failingHook trialBuild_failingHook.2, List.forall_mem_nil _⟩
  · simp only [countingBatch, List.forall_mem_cons, trialCandidate, IsPathPart]
    decide

end HandlerBundle
