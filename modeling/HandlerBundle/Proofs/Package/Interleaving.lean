import HandlerBundle.Proofs.Package.Concurrent
import HandlerBundle.Proofs.Package.Slots

/-!
# The order of steps does not matter

When failures are isolated, the candidates of a batch can be packaged by several workers, whatever
the order of their steps is. Each of them looks for a name that is free, makes its directory in one
step, and from then on sees and changes no more than what is below it. So each comes to what it
comes to on its own, and the results agree with those that are found one after the other.

## Main definitions

* `IsStage` — how far the steps of a candidate have come.
* `PoolInvariant` — what holds of a pool between its steps.

## Main results

* `IsStage.advance` — one step of a candidate.
* `PoolInvariant.step`, `PoolInvariant.reaches` — one step of a pool, and a run.
-/

namespace HandlerBundle

open Build FileTree

variable {ctx : PackageContext} {place : String} {c : Candidate} {w w' : Workspace}
  {ds ds' : List String} {o : Option String} {s : Steps PackageResult} {r : PackageResult}
  {attributes : List Attribute} {d name : String} {names tried : List String}
  {act : Workspace → Workspace} {next : Workspace → Steps PackageResult}

/-! ### Looking for a directory -/

/-- A name that is taken is passed over. -/
theorem buildSteps_cons_of_taken (hname : IsEntryName name) (hminted : w.files.Minted ds)
    (hs : buildSteps ctx c attributes (name :: names) = .step act next) (hthere : name ∈ ds) :
    act w = w ∧ next w = buildSteps ctx c attributes names := by
  obtain ⟨rfl, rfl⟩ := Steps.step.inj hs
  have htry := tryDirectory_run hminted hname
  rw [if_pos hthere] at htry
  refine ⟨congrArg Prod.snd htry, ?_⟩
  simp only [htry]
  rfl

/-- A directory under a name that is free is made, and filled from then on. -/
theorem buildSteps_cons_of_free (hname : IsEntryName name) (hminted : w.files.Minted ds)
    (hs : buildSteps ctx c attributes (name :: names) = .step act next) (hnew : name ∉ ds) :
    act w = { w with files := w.files.withDirectory name } ∧ next w =
      tryCatch (fillSteps ctx c attributes [name]) (recordSteps ctx c.handler) := by
  obtain ⟨rfl, rfl⟩ := Steps.step.inj hs
  have htry := tryDirectory_run hminted hname
  rw [if_neg hnew] at htry
  refine ⟨congrArg Prod.snd htry, ?_⟩
  rw [hname.pathOf_eq] at htry
  simp only [hname.pathOf_eq, htry]
  rfl

/-- A build that fails at once comes to no result. -/
theorem buildSteps_ne_done_ok :
    buildSteps ctx c attributes names ≠ .done (.ok r) := by
  intro h
  cases names with
  | nil =>
    change recordSteps ctx c.handler _ = _ at h
    unfold recordSteps at h
    split_ifs at h
    · cases h
    · cases h
  | cons name names => cases h

/-- Names that are taken need not be tried again. -/
theorem mintSteps_run_of_taken {handler : Descriptor} (hentry : ∀ name ∈ tried, IsEntryName name)
    (hminted : w.files.Minted ds) (htaken : tried ⊆ ds) :
    (mintSteps handler (tried ++ names)).run w = (mintSteps handler names).run w := by
  induction tried with
  | nil => rfl
  | cons name tried ih =>
    rw [List.forall_mem_cons] at hentry
    rw [List.cons_subset] at htaken
    rw [List.cons_append, mintSteps, Steps.run_bind, Steps.run_atomic,
      tryDirectory_run hminted hentry.1, if_pos htaken.1]
    exact ih hentry.2 htaken.2

/-- A candidate comes to what it comes to on its own when it goes on behind names that are taken. -/
theorem buildSteps_run_eq (herrors : (resolve c.handler c.attributes).errors = [])
    (hnames : directoryNames c.handler = tried ++ names)
    (hentry : ∀ name ∈ tried, IsEntryName name) (hminted : w.files.Minted ds)
    (htaken : tried ⊆ ds) :
    (buildSteps ctx c (resolve c.handler c.attributes).attributes names).run w =
      (packageOne ctx c).run.run w := by
  have hmint : (mintSteps c.handler names).run w =
      (mintSteps c.handler (directoryNames c.handler)).run w := by
    rw [hnames, mintSteps_run_of_taken hentry hminted htaken]
  have hpackage : packageSteps ctx c = buildSteps ctx c
      (resolve c.handler c.attributes).attributes (directoryNames c.handler) := by
    simp only [packageSteps, herrors]
    rfl
  rw [← packageSteps_performs ctx c w, hpackage, buildSteps, buildSteps, Steps.run_tryCatch,
    Steps.run_tryCatch, Steps.run_bind, Steps.run_bind, hmint]

/-- What is built in a directory has no other one. -/
theorem directory_of_fill (hhooks : ∀ a ∈ attributes, a.build.IsLocal)
    (hnull : TreePath.IsNullFree [d]) (hd : [d] ∈ w.files.directories)
    (hrun : ((tryCatch (fillSteps ctx c attributes [d]) (recordSteps ctx c.handler)).run w).1 =
      .ok r) : ∀ p ∈ r.directory, p = [d] := by
  obtain ⟨hresult, -⟩ :=
    fillDirectory_mirrors ctx c (alongside_self hnull) hhooks w w (fun _ => rfl) hd hd (.refl _ _)
  rw [Steps.run_tryCatch, fillSteps_performs] at hrun
  generalize (fillDirectory ctx c attributes [d]).run.run w = out at hresult hrun
  obtain ⟨result, v⟩ := out
  cases hresult with
  | ok hR =>
    obtain rfl := Except.ok.inj hrun
    rw [hR.1]
    exact fun p hp => (Option.some.inj hp).symm
  | @error f =>
    dsimp only at hrun
    unfold recordSteps at hrun
    split_ifs at hrun
    · obtain rfl := Except.ok.inj hrun
      exact fun p hp => nomatch hp
    · cases hrun

/-! ### One candidate -/

/-- A result that agrees with that of the candidate on its own. -/
def AgreesAlone (ctx : PackageContext) (place : String) (c : Candidate) (r : PackageResult)
    (t : FileTree) : Prop :=
  ∃ r' v', (packageOne ctx c).outcome place = (.ok r', v') ∧ r.Agrees t r' v'.files

/-- How far the steps of a candidate have come, with the directories `ds` that have been made so far
and the one that the candidate has, if it has one. Once it has a directory, what its steps come to
in a row is what the candidate comes to on its own. -/
inductive IsStage (ctx : PackageContext) (place : String) (c : Candidate) (w : Workspace)
    (ds : List String) : Option String → Steps PackageResult → Prop
  | rejected {s : Steps PackageResult} (herrors : (resolve c.handler c.attributes).errors ≠ [])
      (hs : s = rejectSteps c.handler ((resolve c.handler c.attributes).errors.map (·.message))) :
      IsStage ctx place c w ds none s
  /-- The names that have been tried are taken. -/
  | looking {s : Steps PackageResult} {tried names : List String}
      (herrors : (resolve c.handler c.attributes).errors = [])
      (hnames : directoryNames c.handler = tried ++ names) (htaken : tried ⊆ ds)
      (hs : s = buildSteps ctx c (resolve c.handler c.attributes).attributes names) :
      IsStage ctx place c w ds none s
  /-- The directory has the name of the handler, unless that was taken. -/
  | placed {s : Steps PackageResult} {d : String} {r : PackageResult}
      (hd : d ∈ directoryNames c.handler) (hfirst : d = c.handler.name ∨ c.handler.name ∈ ds)
      (hlocal : s.LocalTo [d]) (hresult : (s.run w).1 = .ok r)
      (hdirectory : ∀ p ∈ r.directory, p = [d])
      (hagrees : AgreesAlone ctx place c r (s.run w).2.files) :
      IsStage ctx place c w ds (some d) s
  | unplaced {s : Steps PackageResult} {r : PackageResult} (hdirectory : r.directory = none)
      (hagrees : AgreesAlone ctx place c r w.files) (hs : s = .done (.ok r)) :
      IsStage ctx place c w ds none s

/-- A result goes on to agree if its directory is left as it is. -/
theorem AgreesAlone.of_sameBelow {t t' : FileTree} (h : AgreesAlone ctx place c r t)
    (hsame : ∀ p ∈ r.directory, t.SameBelow p t' p) : AgreesAlone ctx place c r t' := by
  obtain ⟨r', v', hrun, hagrees⟩ := h
  exact ⟨r', v', hrun, hagrees.of_sameBelow hsame⟩

namespace IsStage

/-- What is done elsewhere takes a candidate nowhere. -/
theorem mono (h : IsStage ctx place c w ds o s) (hplace : w'.place = w.place)
    (hminted : w.files.Minted ds) (hminted' : w'.files.Minted ds') (hds : ds ⊆ ds')
    (hkept : ∀ d ∈ o, d ∈ ds ∧ w.files.SameBelow [d] w'.files [d]) :
    IsStage ctx place c w' ds' o s := by
  cases h with
  | rejected herrors hs => exact .rejected herrors hs
  | looking herrors hnames htaken hs =>
    exact .looking herrors hnames (List.Subset.trans htaken hds) hs
  | placed hd hfirst hlocal hresult hdirectory hagrees =>
    obtain ⟨hmem, hsame⟩ := hkept _ rfl
    obtain ⟨hsteps, hbelow⟩ := hlocal.run_eq hplace.symm (hminted.mem_directories _ hmem)
      (hminted'.mem_directories _ (hds hmem)) hsame
    refine .placed hd (hfirst.imp_right fun hname => hds hname) hlocal (hsteps ▸ hresult) hdirectory
      (hagrees.of_sameBelow fun p hp => ?_)
    rw [hdirectory p hp]
    exact hbelow
  | unplaced hdirectory hagrees hs =>
    refine .unplaced hdirectory (hagrees.of_sameBelow fun p hp => ?_) hs
    rw [hdirectory] at hp
    cases hp

/-- A candidate starts with the directory still to be found, unless it is rejected. -/
theorem start (ctx : PackageContext) (place : String) (c : Candidate) (w : Workspace)
    (ds : List String) : IsStage ctx place c w ds none (packageSteps ctx c) := by
  by_cases herrors : (resolve c.handler c.attributes).errors = []
  · refine .looking herrors (List.nil_append _).symm (List.nil_subset ds) ?_
    simp only [packageSteps, herrors]
    rfl
  · refine .rejected herrors ?_
    have hne : ((resolve c.handler c.attributes).errors.map (·.message)).isEmpty = false := by
      rwa [List.isEmpty_eq_false_iff, ne_eq, List.map_eq_nil_iff]
    simp only [packageSteps, hne, Bool.not_false, if_true]

/-- The new directory of a candidate is filled, in a row, as it is on its own. -/
theorem of_free (hisolate : ctx.settings.isolateFailures = true) (hc : IsPackageable ctx place c)
    (hscope : IsPathPart c.handler.scope) (hminted : w.files.Minted ds) (hlt : ds.length < 100)
    (herrors : (resolve c.handler c.attributes).errors = [])
    (hnames : directoryNames c.handler = tried ++ name :: names) (htaken : tried ⊆ ds)
    (hname : name ∉ ds) :
    IsStage ctx place c { w with files := w.files.withDirectory name } (name :: ds) (some name)
      (tryCatch (fillSteps ctx c (resolve c.handler c.attributes).attributes [name])
        (recordSteps ctx c.handler)) := by
  have hmem : name ∈ directoryNames c.handler := by
    rw [hnames]
    exact List.mem_append_right _ List.mem_cons_self
  have hentry := isEntryName_of_mem_directoryNames (.of_isIdentifier hc.name) hscope
  have hrow : (tryCatch (fillSteps ctx c (resolve c.handler c.attributes).attributes [name])
      (recordSteps ctx c.handler)).run { w with files := w.files.withDirectory name } =
        (packageOne ctx c).run.run w := by
    obtain ⟨act, next, hs⟩ : ∃ act next, buildSteps ctx c
        (resolve c.handler c.attributes).attributes (name :: names) = .step act next :=
      ⟨_, _, rfl⟩
    obtain ⟨hact, hnext⟩ := buildSteps_cons_of_free (hentry name hmem) hminted hs hname
    have hwhole : (buildSteps ctx c (resolve c.handler c.attributes).attributes
        (name :: names)).run w = (packageOne ctx c).run.run w :=
      buildSteps_run_eq herrors hnames
        (fun n hn => hentry n (hnames ▸ List.mem_append_left _ hn)) hminted htaken
    rw [hs, Steps.run, hact, hnext] at hwhole
    exact hwhole
  have hempty : (Workspace.empty place).files.Minted [] := minted_empty
  obtain ⟨r, r', es, hrun, hrun', hagrees, -⟩ :=
    packageOne_agrees hisolate hc hscope hminted hlt hempty (by decide)
  have halone : (packageOne ctx c).outcome place =
      (.ok r', ((packageOne ctx c).run.run (.empty place)).2) := Prod.ext hrun' rfl
  rw [← hrow] at hrun hagrees
  refine .placed hmem ?_ ?_ hrun ?_ ⟨r', _, halone, hagrees⟩
  · cases tried with
    | nil => exact .inl (List.cons.inj hnames).1.symm
    | cons first tried =>
      obtain rfl : c.handler.name = first := (List.cons.inj hnames).1
      exact .inr (List.mem_cons_of_mem _ (htaken List.mem_cons_self))
  · exact (fillSteps_localTo (hentry name hmem).isNullFree ctx c hc.hooks_resolve).tryCatch fun f =>
      recordSteps_localTo ctx c.handler f
  · exact directory_of_fill hc.hooks_resolve (hentry name hmem).isNullFree
      (mem_directories_withDirectory.mpr (.inr rfl)) hrun

/-- **One step of a candidate.** It makes its directory, or changes no more than what is below
it. -/
theorem advance (hisolate : ctx.settings.isolateFailures = true) (hc : IsPackageable ctx place c)
    (hscope : IsPathPart c.handler.scope) (hminted : w.files.Minted ds)
    (hlt : o = none → ds.length < 100) (hmem : ∀ d ∈ o, d ∈ ds)
    (h : IsStage ctx place c w ds o (.step act next)) :
    (act w).place = w.place ∧
    ((∃ d, d ∉ ds ∧ o = none ∧ (act w).files = w.files.withDirectory d ∧
      IsStage ctx place c (act w) (d :: ds) (some d) (next w)) ∨
    (IsStage ctx place c (act w) ds o (next w) ∧
      ((act w).files = w.files ∨ ∃ d ∈ o, SameOutside [d] w.files (act w).files))) := by
  cases h with
  | rejected herrors hs =>
    obtain ⟨rfl, rfl⟩ := Steps.step.inj hs
    obtain ⟨halone, -⟩ := packageOne_rejected ctx (.empty place) herrors
    exact ⟨rfl, .inr ⟨.unplaced rfl ⟨_, _, Prod.ext halone rfl, .failed _ _ _ _⟩ rfl, .inl rfl⟩⟩
  | @looking _ tried names herrors hnames htaken hs =>
    cases names with
    | nil =>
      rw [List.append_nil] at hnames
      exact absurd (hnames ▸ htaken) (not_directoryNames_subset c.handler (hlt rfl))
    | cons name names =>
      have hname : name ∈ directoryNames c.handler := by
        rw [hnames]
        exact List.mem_append_right _ List.mem_cons_self
      have hentry := isEntryName_of_mem_directoryNames (.of_isIdentifier hc.name) hscope name hname
      by_cases hthere : name ∈ ds
      · obtain ⟨hact, hnext⟩ := buildSteps_cons_of_taken hentry hminted hs.symm hthere
        rw [hact, hnext]
        have hnames' : directoryNames c.handler = (tried ++ [name]) ++ names := by
          rw [hnames, List.append_assoc, List.singleton_append]
        have htaken' : tried ++ [name] ⊆ ds :=
          List.append_subset.mpr ⟨htaken, List.cons_subset.mpr ⟨hthere, List.nil_subset _⟩⟩
        exact ⟨rfl, .inr ⟨.looking herrors hnames' htaken' rfl, .inl rfl⟩⟩
      · obtain ⟨hact, hnext⟩ := buildSteps_cons_of_free hentry hminted hs.symm hthere
        rw [hact, hnext]
        exact ⟨rfl, .inl ⟨name, hthere, rfl, rfl,
          of_free hisolate hc hscope hminted (hlt rfl) herrors hnames htaken hthere⟩⟩
  | @placed _ d _ hd hfirst hlocal hresult hdirectory hagrees =>
    have hthere := hminted.mem_directories d (hmem d rfl)
    cases hlocal with
    | step hstays houtside _ hnext =>
      exact ⟨hstays w hthere, .inr ⟨.placed hd hfirst (hnext w hthere) hresult hdirectory hagrees,
        .inr ⟨d, rfl, houtside w hthere⟩⟩⟩
  | unplaced _ _ hs => cases hs

/-- A candidate whose steps are done has come to a result. -/
theorem exists_ok {result : Except Failure PackageResult} (hlt : o = none → ds.length < 100)
    (h : IsStage ctx place c w ds o (.done result)) : ∃ r, result = .ok r := by
  cases h with
  | rejected _ hs => cases hs
  | @looking _ tried names _ hnames htaken hs =>
    cases names with
    | nil =>
      rw [List.append_nil] at hnames
      exact absurd (hnames ▸ htaken) (not_directoryNames_subset c.handler (hlt rfl))
    | cons name names => cases hs
  | placed _ _ _ hresult => exact ⟨_, hresult⟩
  | unplaced _ _ hs => exact ⟨_, Steps.done.inj hs⟩

/-- What is known of a candidate whose steps have come to a result. -/
theorem of_done (h : IsStage ctx place c w ds o (.done (.ok r))) :
    AgreesAlone ctx place c r w.files ∧ (∀ p ∈ r.directory, ∃ d ∈ o, p = [d]) ∧
      ∀ d ∈ o, d ∈ directoryNames c.handler ∧ (d = c.handler.name ∨ c.handler.name ∈ ds) := by
  cases h with
  | rejected _ hs => cases hs
  | looking _ _ _ hs => exact absurd hs.symm buildSteps_ne_done_ok
  | placed hd hfirst _ hresult hdirectory hagrees =>
    obtain rfl := Except.ok.inj hresult
    refine ⟨hagrees, fun p hp => ⟨_, rfl, hdirectory p hp⟩, ?_⟩
    rintro _ ⟨⟩
    exact ⟨hd, hfirst⟩
  | unplaced hdirectory hagrees hs =>
    obtain rfl := Except.ok.inj (Steps.done.inj hs)
    refine ⟨hagrees, fun p hp => ?_, fun _ hd => nomatch hd⟩
    rw [hdirectory] at hp
    cases hp

end IsStage

/-! ### A pool -/

/-- How far the task of a candidate has come. -/
inductive IsOnCourse (ctx : PackageContext) (place : String) (c : Candidate) (w : Workspace)
    (ds : List String) : Option String → Task PackageResult → Prop
  | waiting : IsOnCourse ctx place c w ds none (.waiting (packageSteps ctx c))
  | running {o : Option String} {s : Steps PackageResult} (h : IsStage ctx place c w ds o s) :
      IsOnCourse ctx place c w ds o (.running s)
  | ended {o : Option String} {r : PackageResult}
      (h : IsStage ctx place c w ds o (.done (.ok r))) :
      IsOnCourse ctx place c w ds o (.ended (.ok r))

/-- What is done elsewhere takes a task nowhere. -/
theorem isStable_isOnCourse : IsStable (IsOnCourse ctx place) := by
  intro c w w' ds ds' o t h hplace hminted hminted' hds hkept
  cases h with
  | waiting => exact .waiting
  | running h => exact .running (h.mono hplace hminted hminted' hds hkept)
  | ended h => exact .ended (h.mono hplace hminted hminted' hds hkept)

/-- Every task of some candidates, each with its directory, is on course. -/
abbrev AreOnCourse (ctx : PackageContext) (place : String) (w : Workspace) (ds : List String) :
    List (Candidate × Option String) → List (Task PackageResult) → Prop :=
  List.Forall₂ fun slot t => IsOnCourse ctx place slot.1 w ds slot.2 t

/-- What holds of a pool between its steps, with the directory of each candidate that has one: no
failure was noticed, nothing is outside of the directories, no two of them are the same, and every
task is on course. -/
structure PoolInvariant (ctx : PackageContext) (place : String)
    (slots : List (Candidate × Option String)) (p : Pool PackageResult) : Prop where
  raised : p.raised = none
  minted : p.workspace.files.Minted (owned slots)
  nodup : (owned slots).Nodup
  tasks : AreOnCourse ctx place p.workspace (owned slots) slots p.tasks

variable {cs : List Candidate} {slots front back : List (Candidate × Option String)}
  {tasks tasks' : List (Task PackageResult)} {workers : Nat} {p q : Pool PackageResult}

/-- No task that is on course has failed. -/
theorem failure?_eq_none (h : AreOnCourse ctx place w ds slots tasks) :
    ∀ t ∈ tasks, t.failure? = none := by
  induction h with
  | nil => exact List.forall_mem_nil _
  | @cons slot t _ _ ht _ ih =>
    obtain ⟨c, o⟩ := slot
    refine List.forall_mem_cons.mpr ⟨?_, ih⟩
    cases ht <;> rfl

namespace PoolInvariant

/-- Where no failure was noticed, all that there is to a pool are the places of its tasks. -/
theorem of_hasPlaces (h : HasPlaces (IsOnCourse ctx place) slots w tasks) :
    PoolInvariant ctx place slots ⟨w, tasks, none⟩ :=
  ⟨rfl, h.minted, h.nodup, h.known⟩

theorem hasPlaces (hinv : PoolInvariant ctx place slots p) :
    HasPlaces (IsOnCourse ctx place) slots p.workspace p.tasks :=
  ⟨hinv.minted, hinv.nodup, hinv.tasks⟩

/-- **One step of a pool** keeps the invariant: the candidates stay the same, and one of them may
have got a directory. -/
theorem step (hisolate : ctx.settings.isolateFailures = true)
    (hcs : ∀ c ∈ cs, IsPackageable ctx place c ∧ IsPathPart c.handler.scope)
    (hlength : cs.length ≤ 100) (hslots : slots.map Prod.fst = cs)
    (hinv : PoolInvariant ctx place slots p) (hstep : p.Step workers q) :
    ∃ slots', slots'.map Prod.fst = cs ∧ PoolInvariant ctx place slots' q := by
  subst hslots
  rw [List.length_map] at hlength
  have hraised := hinv.raised
  cases hstep with
  | start =>
    obtain rfl : _ = none := hraised
    obtain ⟨front, ⟨c, o⟩, back, rfl, hfront, ht, hback⟩ :=
      exists_of_forall₂_append_cons hinv.tasks
    cases ht with
    | waiting =>
      exact ⟨_, rfl, of_hasPlaces (hinv.hasPlaces.of_local isStable_isOnCourse hfront hback
        rfl (.inl rfl) (.running (.start _ _ _ _ _)))⟩
  | @advance w _ act next _ _ =>
    obtain rfl : _ = none := hraised
    obtain ⟨front, ⟨c, o⟩, back, rfl, hfront, ht, hback⟩ :=
      exists_of_forall₂_append_cons hinv.tasks
    cases ht with
    | running h =>
      obtain ⟨hc, hscope⟩ := hcs c
        (List.mem_map_of_mem (f := Prod.fst) (List.mem_append_right _ List.mem_cons_self))
      have hlt : o = none → (owned (front ++ (c, o) :: back)).length < 100 := by
        rintro rfl
        exact (length_owned_lt front back c).trans_le hlength
      obtain ⟨hplace, ⟨d, hd, rfl, hfiles, hstage⟩ | ⟨hstage, hchange⟩⟩ :=
        h.advance hisolate hc hscope hinv.minted hlt fun d hd =>
          mem_owned (List.mem_append_right _ List.mem_cons_self) hd
      · refine ⟨front ++ (c, some d) :: back, ?_, of_hasPlaces (hinv.hasPlaces.of_new
          isStable_isOnCourse hfront hback hd hplace hfiles (.running hstage))⟩
        rw [List.map_append, List.map_append, List.map_cons, List.map_cons]
      · exact ⟨_, rfl, of_hasPlaces (hinv.hasPlaces.of_local isStable_isOnCourse hfront hback
          hplace hchange (.running hstage))⟩
  | finish =>
    obtain rfl : _ = none := hraised
    obtain ⟨front, ⟨c, o⟩, back, rfl, hfront, ht, hback⟩ :=
      exists_of_forall₂_append_cons hinv.tasks
    cases ht with
    | running h =>
      obtain ⟨r, rfl⟩ := h.exists_ok fun ho => by
        subst ho
        exact (length_owned_lt front back c).trans_le hlength
      exact ⟨_, rfl, of_hasPlaces (hinv.hasPlaces.of_local isStable_isOnCourse hfront hback
        rfl (.inl rfl) (.ended h))⟩
  | notice hfirst =>
    obtain ⟨t, ht, hfailure⟩ := List.exists_of_findSome?_eq_some hfirst
    cases hfailure.symm.trans (failure?_eq_none hinv.tasks t ht)
  | cancel => cases hraised

/-- **Every run of a pool** keeps the invariant. -/
theorem reaches (hisolate : ctx.settings.isolateFailures = true)
    (hcs : ∀ c ∈ cs, IsPackageable ctx place c ∧ IsPathPart c.handler.scope)
    (hlength : cs.length ≤ 100) (hslots : slots.map Prod.fst = cs)
    (hinv : PoolInvariant ctx place slots p) (hreaches : p.Reaches workers q) :
    ∃ slots', slots'.map Prod.fst = cs ∧ PoolInvariant ctx place slots' q := by
  induction hreaches with
  | refl => exact ⟨slots, hslots, hinv⟩
  | tail _ hstep ih =>
    obtain ⟨slots', hslots', hinv'⟩ := ih
    exact hinv'.step hisolate hcs hlength hslots' hstep

end PoolInvariant

end HandlerBundle
