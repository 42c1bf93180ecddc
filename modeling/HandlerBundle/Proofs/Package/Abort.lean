import HandlerBundle.Proofs.Package.Agreement
import HandlerBundle.Proofs.Package.Artifact

/-!
# Batches that are broken off

Candidates are packaged one after the other as long as their builds come to an end. Where failures
are not isolated, the first build that fails ends the batch with its failure: what the candidates
before it have is there in full, and nothing is done for those behind it. As long as no build fails,
it does not matter whether failures are isolated.

## Main definitions

* `BuildsAll` — candidates none of whose builds fails, with what they come to.
* `FileTree.Retains`, `BuildHook.OnlyAdds` — a directory that is left as it is, apart from what is
  new in it, and a hook that does no more than add.
* `HoldsArtifact` — a directory with all files of the artifact of a candidate.
* `IsPackaged` — what is there of a candidate that has been packaged.
* `KeepsArtifacts` — batches that are broken off and leave all files of those before.

## Main results

* `buildsAll_or_fails` — no build of a batch fails, or one of them is the first to do so.
* `BuildsAll.isPackaged` — what is there of the candidates that have been packaged.
* `packageAll_aborts` — what a batch comes to when failures are not isolated.
* `not_keepsArtifacts` — what it leaves need not be complete.
-/

namespace HandlerBundle

open Build FileTree

/-! ### Candidates whose builds come to an end -/

/-- The build of a candidate with the attributes of its binding set. -/
def buildOf (ctx : PackageContext) (c : Candidate) : Build PackageResult :=
  buildArtifact ctx c (resolve c.handler c.attributes).attributes

/-- The result of a candidate that is rejected. -/
def rejection (c : Candidate) : PackageResult :=
  .failed c.handler ((resolve c.handler c.attributes).errors.map (·.message))

/-- What is told of a candidate that is rejected. -/
def rejectionEvent (c : Candidate) : Event :=
  .ofKind packageSource "funcpack.handler.rejected" .warning
    [("handler", .text c.handler.qualifiedName),
      ("errors", .list (((resolve c.handler c.attributes).errors.map (·.message)).map .text))]

/-- Candidates one after the other, from a workspace on, none of whose builds fails: those that are
rejected are told of, and the others are built. -/
inductive BuildsAll (ctx : PackageContext) :
    Workspace → List Candidate → List PackageResult → Workspace → Prop
  | nil (w) : BuildsAll ctx w [] [] w
  | rejected {w c cs rs v} (hrejected : (resolve c.handler c.attributes).errors ≠ [])
      (hrest : BuildsAll ctx { w with events := rejectionEvent c :: w.events } cs rs v) :
      BuildsAll ctx w (c :: cs) (rejection c :: rs) v
  | built {w c cs r u rs v} (haccepted : (resolve c.handler c.attributes).errors = [])
      (hbuild : (buildOf ctx c).run.run w = (.ok r, u)) (hrest : BuildsAll ctx u cs rs v) :
      BuildsAll ctx w (c :: cs) (r :: rs) v

variable {ctx : PackageContext} {c : Candidate} {cs front back : List Candidate} {f : Failure}
  {r : PackageResult} {rs : List PackageResult} {w w' u v : Workspace}

/-- A candidate that is rejected comes to its errors, and is told of. -/
theorem packageOne_run_of_rejected (hrejected : (resolve c.handler c.attributes).errors ≠ []) :
    (packageOne ctx c).run.run w =
      (.ok (rejection c), { w with events := rejectionEvent c :: w.events }) := by
  have hne : ((resolve c.handler c.attributes).errors.map (·.message)).isEmpty = false := by
    rw [List.isEmpty_eq_false_iff, ne_eq, List.map_eq_nil_iff]
    exact hrejected
  simp only [packageOne, hne, Bool.not_false, if_true, run_bind, run_tell, run_pure, rejection,
    rejectionEvent]

/-- Where failures are not isolated, an accepted candidate fails as its build does. -/
theorem packageOne_run_of_fails (habort : ctx.settings.isolateFailures = false)
    (haccepted : (resolve c.handler c.attributes).errors = [])
    (hbuild : (buildOf ctx c).run.run w = (.error f, v)) :
    (packageOne ctx c).run.run w = (.error f, v) := by
  rw [buildOf] at hbuild
  simp only [packageOne, haccepted, List.map_nil, List.isEmpty_nil, Bool.not_true,
    Bool.false_eq_true, if_false, run_tryCatch, hbuild, habort, Bool.false_and, run_throw]

/-- Candidates whose builds come to an end come to their results, whether or not failures are
isolated. -/
theorem BuildsAll.run (h : BuildsAll ctx w cs rs v) :
    (cs.mapM (packageOne ctx)).run.run w = (.ok rs, v) := by
  induction h with
  | nil w => rfl
  | rejected hrejected _ ih =>
    exact run_mapM_cons_eq_ok_iff.mpr ⟨_, _, _, packageOne_run_of_rejected hrejected, ih, rfl⟩
  | built haccepted hbuild _ ih =>
    exact run_mapM_cons_eq_ok_iff.mpr ⟨_, _, _, packageOne_of_build_ok haccepted hbuild, ih, rfl⟩

/-- The first build that fails ends the batch. -/
theorem BuildsAll.run_of_fails (h : BuildsAll ctx w front rs u)
    (habort : ctx.settings.isolateFailures = false)
    (haccepted : (resolve c.handler c.attributes).errors = [])
    (hbuild : (buildOf ctx c).run.run u = (.error f, v)) (back : List Candidate) :
    ((front ++ c :: back).mapM (packageOne ctx)).run.run w = (.error f, v) := by
  rw [List.mapM_append, run_bind, h.run]
  dsimp only
  rw [List.mapM_cons, run_bind, run_bind, packageOne_run_of_fails habort haccepted hbuild]

/-- **Either no build fails, or one of them is the first to fail.** -/
theorem buildsAll_or_fails (ctx : PackageContext) (cs : List Candidate) (w : Workspace) :
    (∃ rs v, BuildsAll ctx w cs rs v) ∨
    ∃ front c back rs u f v, cs = front ++ c :: back ∧ BuildsAll ctx w front rs u ∧
      (resolve c.handler c.attributes).errors = [] ∧
      (buildOf ctx c).run.run u = (.error f, v) := by
  induction cs generalizing w with
  | nil => exact .inl ⟨[], w, .nil w⟩
  | cons c cs ih =>
    by_cases haccepted : (resolve c.handler c.attributes).errors = []
    · rcases hbuild : (buildOf ctx c).run.run w with ⟨f | r, u⟩
      · exact .inr ⟨[], c, cs, [], w, f, u, rfl, .nil w, haccepted, hbuild⟩
      · rcases ih u with ⟨rs, v, hrest⟩ | ⟨front, c', back, rs, u', f, v, rfl, hrest, hfails⟩
        · exact .inl ⟨r :: rs, v, .built haccepted hbuild hrest⟩
        · exact .inr ⟨c :: front, c', back, r :: rs, u', f, v, rfl,
            .built haccepted hbuild hrest, hfails⟩
    · rcases ih { w with events := rejectionEvent c :: w.events } with
        ⟨rs, v, hrest⟩ | ⟨front, c', back, rs, u', f, v, rfl, hrest, hfails⟩
      · exact .inl ⟨rejection c :: rs, v, .rejected haccepted hrest⟩
      · exact .inr ⟨c :: front, c', back, rejection c :: rs, u', f, v, rfl,
          .rejected haccepted hrest, hfails⟩

/-! ### Another place -/

/-- A directory is made in one workspace as in another one with the same files. -/
theorem mintAmong_relates (same : Prop) (handler : Descriptor) (names : List String) :
    Relates same Eq Eq (mintAmong handler names) (mintAmong handler names) := by
  induction names with
  | nil => exact fun _ _ _ hfiles => ⟨.error (.refl _ _), ⟨rfl, rfl⟩, hfiles⟩
  | cons name names ih =>
    have htry : Relates same Eq Eq (tryDirectory (pathOf name)) (tryDirectory (pathOf name)) := by
      intro w w' hplace hfiles
      rw [tryDirectory, run_bind, run_bind, run_get, run_get]
      dsimp only
      rw [← hfiles]
      split
      · exact ⟨.ok rfl, ⟨rfl, rfl⟩, hfiles⟩
      · next fault _ _ =>
        exact ⟨.error (fault.failure_like fun h => by simp only [Workspace.shown, hplace h]),
          ⟨rfl, rfl⟩, hfiles⟩
      · exact ⟨.ok rfl, ⟨rfl, rfl⟩, congrArg (·.ensureDirectory (pathOf name)) hfiles⟩
    rw [mintAmong]
    refine htry.bind ?_
    rintro made _ rfl
    exact Relates.ite _ (.pure rfl) ih

/-- A build sees nothing of a workspace but its files, apart from what a message shows. -/
theorem buildOf_relates (same : Prop) (ctx : PackageContext) (c : Candidate) :
    Relates same Eq Eq (buildOf ctx c) (buildOf ctx c) := by
  refine (mintAmong_relates same c.handler _).bind ?_
  rintro d _ rfl
  have hkept : IsKept same Eq d d :=
    ⟨fun _ => rfl, fun _ _ h => h ▸ rfl, fun _ h => h ▸ rfl, fun _ _ _ h => h ▸ rfl,
      fun _ h => h ▸ rfl⟩
  have hhooks : ∀ a ∈ (resolve c.handler c.attributes).attributes, a.build.Keeps Eq d d := by
    rintro a - t _ rfl
    exact ⟨rfl, rfl⟩
  intro w w' hplace hfiles
  obtain ⟨hresult, hafter⟩ := fillDirectory_relates ctx c hkept hhooks w w' hplace hfiles
  refine ⟨hresult.mono fun r r' hr => ?_, hafter⟩
  rw [hr.2, ← hr.1]

/-- A build comes to the same result, and the same files, from any workspace with the same files
on. -/
theorem buildOf_run_of_files_eq (hbuild : (buildOf ctx c).run.run w = (.ok r, u))
    (hfiles : w.files = w'.files) :
    ∃ u', (buildOf ctx c).run.run w' = (.ok r, u') ∧ u.files = u'.files := by
  obtain ⟨hresult, -, hafter⟩ := buildOf_relates False ctx c w w' False.elim hfiles
  rcases hbuild' : (buildOf ctx c).run.run w' with ⟨result, u'⟩
  rw [hbuild, hbuild'] at hresult hafter
  cases hresult with
  | ok hr => exact ⟨u', by rw [hr], hafter⟩

/-- Candidates come to the same results, and the same files, from any workspace with the same files
on, and whether or not failures are isolated. -/
theorem BuildsAll.of_files_eq {ctx' : PackageContext} (hctx : buildOf ctx' = buildOf ctx)
    (h : BuildsAll ctx w cs rs v) (hfiles : w.files = w'.files) :
    ∃ v', BuildsAll ctx' w' cs rs v' ∧ v.files = v'.files := by
  induction h generalizing w' with
  | nil w => exact ⟨w', .nil w', hfiles⟩
  | @rejected w c _ _ _ hrejected _ ih =>
    obtain ⟨v', hrest, hafter⟩ := @ih { w' with events := rejectionEvent c :: w'.events } hfiles
    exact ⟨v', .rejected hrejected hrest, hafter⟩
  | @built w c _ r u _ _ haccepted hbuild _ ih =>
    obtain ⟨u', hbuild', hafter⟩ := buildOf_run_of_files_eq hbuild hfiles
    obtain ⟨v', hrest, hafter⟩ := ih hafter
    exact ⟨v', .built haccepted (hctx ▸ hbuild') hrest, hafter⟩

/-! ### What is there of those before -/

namespace FileTree

variable {t t' t'' : FileTree} {d d' p : TreePath}

/-- If the tree `t` has the directory `d`, so has `t'`, and the files that are in it are in it there
with the same content. -/
def Retains (d : TreePath) (t t' : FileTree) : Prop :=
  d ∈ t.directories → d ∈ t'.directories ∧
    ∀ name content, t.content? (d ++ [name]) = some content →
      t'.content? (d ++ [name]) = some content

namespace Retains

theorem refl (d : TreePath) (t : FileTree) : Retains d t t :=
  fun hd => ⟨hd, fun _ _ => id⟩

theorem trans (h : Retains d t t') (h' : Retains d t' t'') : Retains d t t'' := by
  intro hd
  obtain ⟨hd', hcontents⟩ := h hd
  obtain ⟨hd'', hcontents'⟩ := h' hd'
  exact ⟨hd'', fun name content hname => hcontents' name content (hcontents name content hname)⟩

/-- The directories that are there are left as they are when one is made. -/
theorem of_made (h : t.makeDirectory? p = some t') : Retains d t t' :=
  fun hd => ⟨(mem_directories_iff_of_made h).mpr (.inl hd),
    fun _ _ hname => (content?_of_made h _).trans hname⟩

theorem ensureDirectory : Retains d t (t.ensureDirectory p) := by
  rw [FileTree.ensureDirectory]
  cases hmade : t.makeDirectory? p with
  | none => exact .refl d t
  | some t' => exact .of_made hmade

theorem append_ne_append {name : String} {rel : TreePath} (hapart : ¬ d' <+: d) (hrel : rel ≠ []) :
    d ++ [name] ≠ d' ++ rel := by
  obtain ⟨front, last, rfl⟩ := rel.eq_nil_or_concat'.resolve_left hrel
  rw [← List.append_assoc]
  exact fun heq => hapart ((List.append_inj' heq rfl).1 ▸ List.prefix_append d' front)

/-- A file that is written below a directory leaves those that are not below it as they are. -/
theorem write (hapart : ¬ d' <+: d) {rel : TreePath} (hrel : rel ≠ []) (content : FileContent) :
    Retains d t (t.write (d' ++ rel) content) :=
  fun hd => ⟨hd, fun _ _ hname => by
    rw [content?_write, if_neg (append_ne_append hapart hrel), hname]⟩

/-- A file that is removed below a directory leaves those that are not below it as they are. -/
theorem remove (hapart : ¬ d' <+: d) {rel : TreePath} (hrel : rel ≠ []) :
    Retains d t (t.remove (d' ++ rel)) :=
  fun hd => ⟨hd, fun _ _ hname => by
    rw [content?_remove, if_neg (append_ne_append hapart hrel), hname]⟩

end Retains

end FileTree

/-- A hook that leaves no entry without the directories that lead to it. -/
def BuildHook.KeepsRooted (hook : BuildHook) : Prop :=
  ∀ d t, t.IsRooted → ((hook d).run.run t).2.IsRooted

theorem BuildHook.keepsRooted_idle : BuildHook.idle.KeepsRooted := fun _ _ => id

/-- A hook that leaves all directories as they are, apart from what it adds. -/
structure BuildHook.OnlyAdds (hook : BuildHook) : Prop where
  retains : ∀ d t d', Retains d' t ((hook d).run.run t).2
  keepsRooted : hook.KeepsRooted

theorem BuildHook.onlyAdds_idle : BuildHook.idle.OnlyAdds where
  retains _ t d' := .refl d' t
  keepsRooted := BuildHook.keepsRooted_idle

/-- The directory `d` has all files of the artifact of a candidate. -/
def HoldsArtifact (ctx : PackageContext) (c : Candidate) (t : FileTree) (d : TreePath) : Prop :=
  d ∈ t.directories ∧ ∃ captured manifest,
    captureResult ctx.heap ctx.table ctx.settings.exclusion c.value = .ok captured ∧
    Manifest.ofAttributes (resolve c.handler c.attributes).attributes = .ok manifest ∧
    ∀ file ∈ artifactFiles ctx.compiler c.handler manifest captured,
      ∃ name, file.1 = [name] ∧ t.content? (d ++ [name]) = some file.2

/-- What is there of a candidate that has been packaged: a directory with all files of its artifact
if it is accepted, and none if it is rejected. -/
structure IsPackaged (ctx : PackageContext) (t : FileTree) (c : Candidate) (r : PackageResult) :
    Prop where
  accepted : (resolve c.handler c.attributes).errors = [] →
    ∃ d, r.directory = some d ∧ HoldsArtifact ctx c t d
  rejected : (resolve c.handler c.attributes).errors ≠ [] → r.directory = none

theorem HoldsArtifact.of_retains {t t' : FileTree} {d : TreePath} (h : HoldsArtifact ctx c t d)
    (hretains : Retains d t t') : HoldsArtifact ctx c t' d := by
  obtain ⟨hd, captured, manifest, hcaptured, hmanifest, hfiles⟩ := h
  obtain ⟨hd', hcontents⟩ := hretains hd
  refine ⟨hd', captured, manifest, hcaptured, hmanifest, fun file hfile => ?_⟩
  obtain ⟨name, hname, hcontent⟩ := hfiles file hfile
  exact ⟨name, hname, hcontents _ _ hcontent⟩

/-- A build leaves a rooted tree, whether or not it fails. -/
theorem isRooted_of_buildOf (hhooks : ∀ a ∈ c.attributes, a.build.KeepsRooted)
    (hrooted : w.files.IsRooted) {result : Except Failure PackageResult}
    (hbuild : (buildOf ctx c).run.run w = (result, v)) : v.files.IsRooted := by
  rcases buildArtifact_cases hbuild with ⟨f, -, rfl⟩ | ⟨name, -, u, hfree, hmade, hfill⟩
  · exact hrooted
  · have hchanges := fillDirectory_changes (R := fun t t' : FileTree => t.IsRooted → t'.IsRooted)
      (fun _ h => h) (fun h h' ht => h' (h ht)) (fun _ hfree h => h.ensureDirectory hfree)
      (fun _ _ content _ hfree h => h.write content hfree) (fun _ _ _ h => h.remove _) ctx c
      (fun a ha t =>
        forall_hooks_resolve BuildHook.keepsRooted_idle hhooks a ha (pathOf name) t) u
    rw [hfill] at hchanges
    exact hchanges (hrooted.of_made hfree hmade)

/-- A build leaves the directories that are there as they are, whether or not it fails. -/
theorem retains_of_buildOf (hhooks : ∀ a ∈ c.attributes, a.build.OnlyAdds)
    (hrooted : w.files.IsRooted) {result : Except Failure PackageResult}
    (hbuild : (buildOf ctx c).run.run w = (result, v)) {d : TreePath}
    (hd : d ∈ w.files.directories) : Retains d w.files v.files := by
  rcases buildArtifact_cases hbuild with ⟨f, -, rfl⟩ | ⟨name, -, u, -, hmade, hfill⟩
  · exact .refl d _
  · -- what is made is new, so it does not lead to what is there
    have hapart : ¬ pathOf name <+: d := by
      rintro ⟨rel, rfl⟩
      have hthere := hrooted.has_of_append rel (has_iff.mpr (.inr (.inl hd)))
      exact Bool.false_ne_true ((has_eq_false_of_made hmade).symm.trans hthere)
    have hchanges := fillDirectory_changes (R := Retains d) (Retains.refl d) Retains.trans
      (fun _ _ => .ensureDirectory) (fun _ _ content hrel _ => .write hapart hrel content)
      (fun _ _ hrel => .remove hapart hrel) ctx c
      (fun a ha t => (forall_hooks_resolve BuildHook.onlyAdds_idle hhooks a ha).retains
        (pathOf name) t d) u
    rw [hfill] at hchanges
    exact (Retains.of_made hmade).trans hchanges

/-- A build that comes to an end leaves all files of the artifact in the directory of its result. -/
theorem holdsArtifact_of_buildOf (hhooks : ∀ a ∈ c.attributes, a.build.OnlyAdds)
    (hrooted : w.files.IsRooted) (hbuild : (buildOf ctx c).run.run w = (.ok r, v)) :
    ∃ d, r.directory = some d ∧ HoldsArtifact ctx c v.files d := by
  rcases buildArtifact_cases hbuild with ⟨f, hf, -⟩ | ⟨name, -, u, -, hmade, hfill⟩
  · cases hf
  · have hthere := mem_directories_of_made hmade
    obtain ⟨captured, u₁, u₂, artifacts, hwritten, hrun, hafter, rfl⟩ := fillDirectory_eq_ok hfill
    obtain ⟨hcaptured, -, hsource, manifest, hmanifest, hfilled⟩ :=
      writeArtifact_eq_ok hthere hwritten
    -- the directory was empty, so the source of the loader went right into it
    have hright := ((hrooted.holdsExactly hmade).directories _).mp hsource
    have hretains := runHooks_changes (R := Retains (pathOf name)) (Retains.refl _) Retains.trans
      (fun a ha t => (forall_hooks_resolve BuildHook.onlyAdds_idle hhooks a ha).retains
        (pathOf name) t (pathOf name)) u₁
    rw [hrun, ← hafter] at hretains
    have hholds : HoldsArtifact ctx c u₁.files (pathOf name) := by
      refine ⟨hfilled.directories ▸ hthere, captured, manifest, hcaptured, hmanifest,
        fun file hfile => ?_⟩
      obtain ⟨entry, hentry⟩ := exists_singleton_of_mem_artifactFiles hright hfile
      exact ⟨entry, hentry, hentry ▸ hfilled.written file hfile⟩
    exact ⟨pathOf name, rfl, hholds.of_retains hretains⟩

namespace BuildsAll

/-- Candidates that are packaged leave a rooted tree. -/
theorem isRooted (h : BuildsAll ctx w cs rs v)
    (hhooks : ∀ c ∈ cs, ∀ a ∈ c.attributes, a.build.OnlyAdds) (hrooted : w.files.IsRooted) :
    v.files.IsRooted := by
  induction h with
  | nil w => exact hrooted
  | rejected _ _ ih =>
    rw [List.forall_mem_cons] at hhooks
    exact ih hhooks.2 hrooted
  | built _ hbuild _ ih =>
    rw [List.forall_mem_cons] at hhooks
    exact ih hhooks.2
      (isRooted_of_buildOf (fun a ha => (hhooks.1 a ha).keepsRooted) hrooted hbuild)

/-- The directories that are there are left as they are by the candidates that come after. -/
theorem retains (h : BuildsAll ctx w cs rs v)
    (hhooks : ∀ c ∈ cs, ∀ a ∈ c.attributes, a.build.OnlyAdds) (hrooted : w.files.IsRooted)
    {d : TreePath} (hd : d ∈ w.files.directories) : Retains d w.files v.files := by
  induction h with
  | nil w => exact .refl d _
  | rejected _ _ ih =>
    rw [List.forall_mem_cons] at hhooks
    exact ih hhooks.2 hrooted hd
  | built _ hbuild _ ih =>
    rw [List.forall_mem_cons] at hhooks
    have hfirst := retains_of_buildOf hhooks.1 hrooted hbuild hd
    have hrooted' :=
      isRooted_of_buildOf (fun a ha => (hhooks.1 a ha).keepsRooted) hrooted hbuild
    exact hfirst.trans (ih hhooks.2 hrooted' (hfirst hd).1)

/-- What is there of the candidates that have been packaged, when all of them have been. -/
theorem isPackaged (h : BuildsAll ctx w cs rs v)
    (hhooks : ∀ c ∈ cs, ∀ a ∈ c.attributes, a.build.OnlyAdds) (hrooted : w.files.IsRooted) :
    List.Forall₂ (IsPackaged ctx v.files) cs rs := by
  induction h with
  | nil w => exact .nil
  | rejected hrejected _ ih =>
    rw [List.forall_mem_cons] at hhooks
    exact .cons ⟨fun haccepted => absurd haccepted hrejected, fun _ => rfl⟩ (ih hhooks.2 hrooted)
  | built haccepted hbuild hrest ih =>
    rw [List.forall_mem_cons] at hhooks
    obtain ⟨d, hd, hholds⟩ := holdsArtifact_of_buildOf hhooks.1 hrooted hbuild
    have hrooted' :=
      isRooted_of_buildOf (fun a ha => (hhooks.1 a ha).keepsRooted) hrooted hbuild
    have hretains := hrest.retains hhooks.2 hrooted' hholds.1
    exact .cons ⟨fun _ => ⟨d, hd, hholds.of_retains hretains⟩,
      fun hrejected => absurd haccepted hrejected⟩ (ih hhooks.2 hrooted')

/-- A build that fails leaves what is there of the candidates before. -/
theorem isPackaged_of_fails (h : BuildsAll ctx w front rs u)
    (hbuild : (buildOf ctx c).run.run u = (.error f, v)) (hrooted : w.files.IsRooted)
    (hhooks : ∀ c' ∈ front ++ [c], ∀ a ∈ c'.attributes, a.build.OnlyAdds) :
    List.Forall₂ (IsPackaged ctx v.files) front rs := by
  rw [List.forall_mem_append, List.forall_mem_singleton] at hhooks
  refine (h.isPackaged hhooks.1 hrooted).imp fun c' r hr => ⟨fun haccepted => ?_, hr.rejected⟩
  obtain ⟨d, hd, hholds⟩ := hr.accepted haccepted
  have hrooted' := h.isRooted hhooks.1 hrooted
  exact ⟨d, hd, hholds.of_retains (retains_of_buildOf hhooks.2 hrooted' hbuild hholds.1)⟩

end BuildsAll

/-! ### A batch -/

/-- The same with failures isolated. -/
def PackageContext.isolated (ctx : PackageContext) : PackageContext :=
  { ctx with settings := { ctx.settings with isolateFailures := true } }

/-- **Batches that are broken off.** Let failures not be isolated.

If the build of an accepted candidate fails and none before it does, the batch fails with the same
failure, and leaves what that build leaves, as if no candidate came after. Of the candidates before,
those that are rejected have changed no files, and as long as hooks only add, each accepted one has
a directory with all files of its artifact.

If no build fails, the batch comes to the results that it comes to with isolated failures.

One of the two is always the case. -/
theorem packageAll_aborts {ctx : PackageContext} (habort : ctx.settings.isolateFailures = false)
    (cs : List Candidate) (place : String) :
    let start := (packagePool ctx cs place).workspace
    (∀ front c back rs u f v, cs = front ++ c :: back → BuildsAll ctx start front rs u →
      (resolve c.handler c.attributes).errors = [] → (buildOf ctx c).run.run u = (.error f, v) →
      (packageAll ctx cs).outcome place = (.error f, v) ∧
      ((front ++ [c]).mapM (packageOne ctx)).run.run start = (.error f, v) ∧
      (∀ front' c' back', front = front' ++ c' :: back' →
        (resolve c'.handler c'.attributes).errors ≠ [] →
        filesAfter ctx start (front' ++ [c']) = filesAfter ctx start front') ∧
      ((∀ c' ∈ front ++ [c], ∀ a ∈ c'.attributes, a.build.OnlyAdds) →
        List.Forall₂ (IsPackaged ctx v.files) front rs)) ∧
    (∀ rs v, BuildsAll ctx start cs rs v →
      (packageAll ctx cs).outcome place = (.ok rs, v) ∧
      ∀ place', ∃ v', (packageAll ctx.isolated cs).outcome place' = (.ok rs, v') ∧
        v.files = v'.files) ∧
    ((∃ rs v, BuildsAll ctx start cs rs v) ∨
      ∃ front c back rs u f v, cs = front ++ c :: back ∧ BuildsAll ctx start front rs u ∧
        (resolve c.handler c.attributes).errors = [] ∧
        (buildOf ctx c).run.run u = (.error f, v)) := by
  refine ⟨?_, fun rs v h => ⟨?_, fun place' => ?_⟩, buildsAll_or_fails ctx cs _⟩
  · rintro front c back rs u f v rfl h haccepted hbuild
    refine ⟨?_, h.run_of_fails habort haccepted hbuild [],
      fun _ _ _ _ hrejected => filesAfter_rejected hrejected,
      h.isPackaged_of_fails hbuild isRooted_empty⟩
    rw [packageAll_outcome_eq]
    exact h.run_of_fails habort haccepted hbuild back
  · rw [packageAll_outcome_eq]
    exact h.run
  · have hbuilds : buildOf ctx.isolated = buildOf ctx := rfl
    obtain ⟨v', h', hafter⟩ := h.of_files_eq hbuilds
      (show _ = (packagePool ctx.isolated cs place').workspace.files from rfl)
    rw [packageAll_outcome_eq]
    exact ⟨v', h'.run, hafter⟩

/-! ### A batch with a hook that fails -/

/-- Failures that are not isolated, and a compiler that is content with every source. -/
def strictContext : PackageContext :=
  { trialContext with settings := { trialContext.settings with isolateFailures := false } }

/-- A handler that is packaged, and one that is rejected, for it has no trigger. -/
def strictFront : List Candidate := [trialCandidate "pkg" "g" .idle, namedCandidate "third" []]

/-- The build of the first candidate comes to an end, and that of one with a failing hook fails
after it. -/
theorem buildOf_strictContext :
    ((buildOf strictContext (trialCandidate "pkg" "g" .idle)).outcome "").1 =
        .ok ⟨"pkg", "g", some ["g"], [], []⟩ ∧
      ((buildOf strictContext (trialCandidate "pkg" "f" failingHook)).run.run
        ((buildOf strictContext (trialCandidate "pkg" "g" .idle)).outcome "").2).1 =
        .error ⟨.packaging, "boom"⟩ := by
  simp only [buildOf, buildArtifact, fillDirectory, capture, strictContext, trialContext,
    trialCandidate, Settings.standard, buildClosure_trialHeap]
  decide +kernel

/-- The two candidates are packaged whatever has been told before, and then the hook fails. -/
theorem buildsAll_strictFront (hplace : w.place = "") (hfiles : w.files = .empty) :
    ∃ u v, BuildsAll strictContext w strictFront
        [⟨"pkg", "g", some ["g"], [], []⟩, rejection (namedCandidate "third" [])] u ∧
      (buildOf strictContext (trialCandidate "pkg" "f" failingHook)).run.run u =
        (.error ⟨.packaging, "boom"⟩, v) := by
  obtain ⟨hresult, hfails⟩ := buildOf_strictContext
  obtain ⟨hfirst, ⟨hstays, hstays'⟩, hafter⟩ := buildOf_relates True strictContext
    (trialCandidate "pkg" "g" .idle) w (.empty "") (fun _ => hplace) hfiles
  obtain ⟨hsecond, -⟩ := buildOf_relates True strictContext (trialCandidate "pkg" "f" failingHook)
    { ((buildOf strictContext (trialCandidate "pkg" "g" .idle)).run.run w).2 with
      events := _ :: ((buildOf strictContext (trialCandidate "pkg" "g" .idle)).run.run w).2.events }
    _ (fun _ => (hstays.trans hplace).trans hstays'.symm) hafter
  refine ⟨_, _, .built (by decide +kernel) (Prod.ext ((hfirst.eq trivial).trans hresult) rfl)
    (.rejected (by decide +kernel) (.nil _)),
    Prod.ext ((hsecond.eq trivial).trans hfails) rfl⟩

theorem onlyAdds_trialCandidate {scope name : String} {hook : BuildHook} (h : hook.OnlyAdds) :
    ∀ a ∈ (trialCandidate scope name hook).attributes, a.build.OnlyAdds := by
  intro a ha
  rcases List.mem_pair.mp ha with rfl | rfl
  · exact BuildHook.onlyAdds_idle
  · exact h

/-- Of two candidates one is packaged and one rejected, the next one fails, and nothing is done for
the last one. The first two alone come to the same results as with isolated failures. -/
theorem packageAll_aborts_failingHook :
    let c := trialCandidate "pkg" "f" failingHook
    let rejected := namedCandidate "third" []
    let cs := strictFront ++ c :: [trialCandidate "pkg" "h" .idle]
    let start := (packagePool strictContext cs "").workspace
    strictContext.settings.isolateFailures = false ∧
    (∃ rs u v, BuildsAll strictContext start strictFront rs u ∧
      (resolve c.handler c.attributes).errors = [] ∧
      (buildOf strictContext c).run.run u = (.error ⟨.packaging, "boom"⟩, v) ∧
      (resolve rejected.handler rejected.attributes).errors ≠ [] ∧
      (∀ c' ∈ strictFront ++ [c], ∀ a ∈ c'.attributes, a.build.OnlyAdds) ∧
      (packageAll strictContext cs).outcome "" = (.error ⟨.packaging, "boom"⟩, v) ∧
      filesAfter strictContext start strictFront =
        filesAfter strictContext start [trialCandidate "pkg" "g" .idle] ∧
      List.Forall₂ (IsPackaged strictContext v.files) strictFront rs) ∧
    ∃ rs v, BuildsAll strictContext (packagePool strictContext strictFront "").workspace strictFront
        rs v ∧
      (packageAll strictContext strictFront).outcome "" = (.ok rs, v) ∧
      ∃ v', (packageAll strictContext.isolated strictFront).outcome "elsewhere" = (.ok rs, v') ∧
        v.files = v'.files := by
  intro c rejected cs start
  have haccepted : (resolve c.handler c.attributes).errors = [] := by decide +kernel
  have hrejected : (resolve rejected.handler rejected.attributes).errors ≠ [] := by decide +kernel
  have hhooks : ∀ c' ∈ strictFront ++ [c], ∀ a ∈ c'.attributes, a.build.OnlyAdds := by
    simp only [strictFront, List.cons_append, List.nil_append, List.forall_mem_cons]
    exact ⟨onlyAdds_trialCandidate BuildHook.onlyAdds_idle, List.forall_mem_nil _,
      onlyAdds_trialCandidate ⟨fun _ t d' => .refl d' t, fun _ _ => id⟩, List.forall_mem_nil _⟩
  refine ⟨rfl, ?_, ?_⟩
  · obtain ⟨hfails, -⟩ := @packageAll_aborts strictContext rfl cs ""
    obtain ⟨u, v, h, hbuild⟩ := buildsAll_strictFront (w := start) rfl rfl
    obtain ⟨hrun, -, hfiles, hpackaged⟩ := hfails _ _ _ _ _ _ _ rfl h haccepted hbuild
    exact ⟨_, u, v, h, haccepted, hbuild, hrejected, hhooks, hrun,
      hfiles [_] rejected [] rfl hrejected, hpackaged hhooks⟩
  · obtain ⟨-, hsame, -⟩ := @packageAll_aborts strictContext rfl strictFront ""
    obtain ⟨u, -, h, -⟩ := buildsAll_strictFront
      (w := (packagePool strictContext strictFront "").workspace) rfl rfl
    obtain ⟨hrun, hisolated⟩ := hsame _ _ h
    exact ⟨_, u, h, hrun, hisolated "elsewhere"⟩

/-! ### Batches that do not keep what is there -/

/-- Whether each accepted candidate of a batch before the first one whose build fails has all files
of its artifact in the end, the compiled loader among them. -/
def KeepsArtifacts (ctx : PackageContext) (cs : List Candidate) (place : String) : Prop :=
  ∀ front c back rs u f v, cs = front ++ c :: back →
    BuildsAll ctx (packagePool ctx cs place).workspace front rs u →
    (resolve c.handler c.attributes).errors = [] → (buildOf ctx c).run.run u = (.error f, v) →
    List.Forall₂ (IsPackaged { ctx with compiler := fun _ _ => .compiled } v.files) front rs

/-- A batch of two does not keep what is there if the first one has no compiled loader in the
end. -/
theorem not_keepsArtifacts_of_missing {first second : Candidate} {place : String}
    (hfirst : (resolve first.handler first.attributes).errors = [])
    (hsecond : (resolve second.handler second.attributes).errors = [])
    (hbuild : (buildOf ctx first).run.run (packagePool ctx [first, second] place).workspace =
      (.ok r, u))
    (hfails : (buildOf ctx second).run.run u = (.error f, v))
    (hmissing : ∀ d, r.directory = some d →
      v.files.content? (d ++ first.handler.loaderPath) = none) :
    ¬ KeepsArtifacts ctx [first, second] place := by
  intro hkeeps
  have hfront : BuildsAll ctx (packagePool ctx [first, second] place).workspace [first] [r] u :=
    .built hfirst hbuild (.nil u)
  obtain ⟨hpackaged, -⟩ :=
    List.forall₂_cons.mp (hkeeps [first] second [] [r] u f v rfl hfront hsecond hfails)
  obtain ⟨d, hd, -, captured, manifest, -, -, hfiles⟩ := hpackaged.accepted hfirst
  have hloader : (first.handler.loaderPath, FileContent.compiled (Utf8.encode
      (loaderSource first.handler))) ∈ artifactFiles (fun _ _ => .compiled) first.handler manifest
      captured :=
    List.mem_append_left _ (List.mem_append_right _ (List.mem_singleton.mpr rfl))
  obtain ⟨name, hname, hcontent⟩ := hfiles _ hloader
  cases (hmissing d hd).symm.trans ((congrArg (v.files.content? <| d ++ ·) hname).trans hcontent)

/-- A hook that removes the directory of another candidate, and fails. -/
def clearingHook : BuildHook := fun _ => do
  modify fun t =>
    ⟨t.directories.filter (· != ["g"]), t.files.filter fun file => !isBelow file.1 ["g"]⟩
  throw ⟨.packaging, "boom"⟩

/-- Failures that are not isolated, and a compiler that says that all is well but writes nothing. -/
def carelessContext : PackageContext :=
  { strictContext with compiler := fun _ _ => .reported ⟨0, []⟩ }

/-- A handler that is packaged, and one with a hook. -/
def hookedBatch (hook : BuildHook) : List Candidate :=
  [trialCandidate "pkg" "g" .idle, trialCandidate "pkg" "f" hook]

/-- Where a hook removes what is there of another candidate, and where a compiler does not write
what it says, a batch that is broken off leaves no compiled loader of the first candidate. -/
theorem hookedBatch_builds (ctx : PackageContext) (hook : BuildHook)
    (hcase : ctx = strictContext ∧ hook = clearingHook ∨
      ctx = carelessContext ∧ hook = failingHook) :
    let built := (buildOf ctx (trialCandidate "pkg" "g" .idle)).run.run
      (packagePool ctx (hookedBatch hook) "").workspace
    let failed := (buildOf ctx (trialCandidate "pkg" "f" hook)).run.run built.2
    built.1 = .ok ⟨"pkg", "g", some ["g"], [], []⟩ ∧ failed.1 = .error ⟨.packaging, "boom"⟩ ∧
      failed.2.files.content? ["g", "g_loader.pyc"] = none := by
  rcases hcase with ⟨rfl, rfl⟩ | ⟨rfl, rfl⟩ <;>
  · simp only [buildOf, buildArtifact, fillDirectory, capture, carelessContext, strictContext,
      trialContext, trialCandidate, Settings.standard, buildClosure_trialHeap]
    decide +kernel

/-- A hook that removes the directory of another candidate leaves it incomplete, and so does a
compiler that says that all is well but writes nothing. -/
theorem not_keepsArtifacts :
    ¬ KeepsArtifacts strictContext (hookedBatch clearingHook) "" ∧
      ¬ KeepsArtifacts carelessContext (hookedBatch failingHook) "" := by
  have hmissing : ∀ ctx hook, (ctx = strictContext ∧ hook = clearingHook ∨
      ctx = carelessContext ∧ hook = failingHook) → ¬ KeepsArtifacts ctx (hookedBatch hook) "" := by
    intro ctx hook hcase
    obtain ⟨hbuild, hfails, hmissing⟩ := hookedBatch_builds ctx hook hcase
    refine not_keepsArtifacts_of_missing (by decide +kernel) ?_ (Prod.ext hbuild rfl)
      (Prod.ext hfails rfl) ?_
    · rcases hcase with ⟨-, rfl⟩ | ⟨-, rfl⟩ <;> decide +kernel
    · rintro _ ⟨⟩
      exact hmissing
  exact ⟨hmissing _ _ (.inl ⟨rfl, rfl⟩), hmissing _ _ (.inr ⟨rfl, rfl⟩)⟩

end HandlerBundle
