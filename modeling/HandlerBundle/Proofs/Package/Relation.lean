import HandlerBundle.Package.Batch
import HandlerBundle.Proofs.Closure.Capture
import HandlerBundle.Proofs.Package.FileTree

/-!
# Builds side by side

Two builds keep their files in a relation if each step of the one and the step of the other beside
it do. The directory of a candidate is filled by the same steps in every build. So a relation is
kept while it is filled if it is kept by a file that is written or removed there, and by the hooks
that run there. What a build can change at all is the case in which both builds are one.

Two builds at different places or in different directories may fail with different messages, for a
message can show the path at which something cannot be done. A failure of packaging shows no path.
The proposition `same` stands for builds that show the same paths.

## Main definitions

* `Failure.Like` — failures that differ at most in such a message.
* `Build.Relates` — steps that keep files in a relation, and have related values.
* `Build.Changes` — steps that change files in no other way than a relation allows.
* `FileTree.IsKept`, `BuildHook.Keeps` — a relation that is kept in a directory of each tree.
* `writeArtifact` — what is written into a directory before the hooks run.

## Main results

* `fillDirectory_relates` — what is kept while a directory of each tree is filled.
* `fillDirectory_changes` — how files change while a directory is filled.
-/

namespace HandlerBundle

/-! ### Relations of trees -/

/-- A relation of trees that is kept by what is written below the directory `d` of the one and `d'`
of the other, where nothing stands against it. In related trees the same can be done below these
directories. -/
structure FileTree.IsKept (same : Prop) (I : FileTree → FileTree → Prop) (d d' : TreePath) :
    Prop where
  path : same → d = d'
  fault : ∀ {t t'} (access rel), I t t' → t.fault? access (d ++ rel) = t'.fault? access (d' ++ rel)
  ensureDirectory : ∀ {t t'}, t.fault? .enter d = none → I t t' →
    I (t.ensureDirectory d) (t'.ensureDirectory d')
  write : ∀ {t t' rel} (content), rel ≠ [] → t.fault? .write (d ++ rel) = none → I t t' →
    I (t.write (d ++ rel) content) (t'.write (d' ++ rel) content)
  remove : ∀ {t t' rel}, rel ≠ [] → I t t' → I (t.remove (d ++ rel)) (t'.remove (d' ++ rel))

/-- A hook that returns the same in two directories of related trees, and leaves the trees
related. -/
def BuildHook.Keeps (hook : BuildHook) (I : FileTree → FileTree → Prop) (d d' : TreePath) : Prop :=
  ∀ t t', I t t' → ((hook d).run.run t).1 = ((hook d').run.run t').1 ∧
    I ((hook d).run.run t).2 ((hook d').run.run t').2

/-- Failures of one kind, the same ones if they are of packaging or the same paths are shown. -/
structure Failure.Like (same : Prop) (f f' : Failure) : Prop where
  kind : f.kind = f'.kind
  eq_of_isPackaging : f.kind.isPackaging = true → f = f'
  eq_of_same : same → f = f'

theorem Failure.Like.refl (same : Prop) (f : Failure) : f.Like same f :=
  ⟨rfl, fun _ => rfl, fun _ => rfl⟩

/-- What cannot be done at a path is no failure of packaging. -/
theorem FileFault.isPackaging_failure (fault : FileFault) (shown : String) :
    (fault.failure shown).kind.isPackaging = false := by
  cases fault <;> rfl

/-- The same cannot be done at two paths. -/
theorem FileFault.failure_like {same : Prop} (fault : FileFault) {shown shown' : String}
    (hshown : same → shown = shown') : (fault.failure shown).Like same (fault.failure shown') where
  kind := by cases fault <;> rfl
  eq_of_isPackaging h :=
    absurd ((fault.isPackaging_failure shown).symm.trans h) Bool.false_ne_true
  eq_of_same h := congrArg fault.failure (hshown h)

namespace Build

variable {α β : Type} {same : Prop} {I : FileTree → FileTree → Prop} {R : α → α → Prop}
  {S : β → β → Prop} {d d' : TreePath}

/-- Results that are both failures which differ at most in a path, or values that are related. -/
inductive SameResult (same : Prop) (R : α → α → Prop) : Except Failure α → Except Failure α → Prop
  | ok {a a'} (h : R a a') : SameResult same R (.ok a) (.ok a')
  | error {f f'} (h : f.Like same f') : SameResult same R (.error f) (.error f')

theorem SameResult.refl {r : Except Failure α} (h : ∀ a, R a a) : SameResult same R r r := by
  cases r with
  | ok a => exact .ok (h a)
  | error f => exact .error (.refl same f)

theorem SameResult.mono {R' : α → α → Prop} {r r' : Except Failure α} (h : SameResult same R r r')
    (himp : ∀ a a', R a a' → R' a a') : SameResult same R' r r' := by
  cases h with
  | ok ha => exact .ok (himp _ _ ha)
  | error hlike => exact .error hlike

/-- Results with the same value are the same if the same paths are shown. -/
theorem SameResult.eq {r r' : Except Failure α} (h : SameResult same Eq r r') (hsame : same) :
    r = r' := by
  cases h with
  | ok ha => rw [ha]
  | error hlike => rw [hlike.eq_of_same hsame]

/-- Steps that keep files in the relation `I` and stay at their places, and come to failures that
differ at most in a path, or to values that are related by `R`. -/
def Relates (same : Prop) (I : FileTree → FileTree → Prop) (R : α → α → Prop) (p p' : Build α) :
    Prop :=
  ∀ w w', (same → w.place = w'.place) → I w.files w'.files →
    SameResult same R (p.run.run w).1 (p'.run.run w').1 ∧
    ((p.run.run w).2.place = w.place ∧ (p'.run.run w').2.place = w'.place) ∧
    I (p.run.run w).2.files (p'.run.run w').2.files

/-- Steps that change files in no other way than the relation `R` allows. -/
def Changes (R : FileTree → FileTree → Prop) (p : Build α) : Prop :=
  ∀ w, R w.files (p.run.run w).2.files

/-- Steps change files as a relation allows if they do so from any tree on that it allows. -/
theorem Changes.of_relates {R : FileTree → FileTree → Prop} {p : Build α} (hrefl : ∀ t, R t t)
    (h : ∀ t₀, ∃ S, Relates True (fun t t' => t = t' ∧ R t₀ t) S p p) : Changes R p := by
  intro w
  obtain ⟨S, hS⟩ := h w.files
  exact (hS w w (fun _ => rfl) ⟨rfl, hrefl _⟩).2.2.2

namespace Relates

theorem pure {a a' : α} (h : R a a') : Relates same I R (Pure.pure a) (Pure.pure a') :=
  fun _ _ _ hfiles => ⟨.ok h, ⟨rfl, rfl⟩, hfiles⟩

/-- What stands behind a failure is not done. -/
theorem throw_bind (f : Failure) {q q' : α → Build β} :
    Relates same I S (MonadExcept.throw f >>= q) (MonadExcept.throw f >>= q') :=
  fun _ _ _ hfiles => ⟨.error (.refl same f), ⟨rfl, rfl⟩, hfiles⟩

theorem ofResult (r : Except Failure α) :
    Relates same I Eq (Build.ofResult r) (Build.ofResult r) := by
  intro w w' _ hfiles
  rw [run_ofResult, run_ofResult]
  exact ⟨.refl fun _ => rfl, ⟨rfl, rfl⟩, hfiles⟩

theorem get :
    Relates same I (fun w w' : Workspace => I w.files w'.files) MonadState.get MonadState.get :=
  fun _ _ _ hfiles => ⟨.ok hfiles, ⟨rfl, rfl⟩, hfiles⟩

/-- What is told is not written. -/
theorem tell (e e' : Event) : Relates same I Eq (Build.tell e) (Build.tell e') :=
  fun _ _ _ hfiles => ⟨.ok rfl, ⟨rfl, rfl⟩, hfiles⟩

/-- A change below both directories, where it can be made, keeps a relation if its making does. -/
theorem atPath (hI : FileTree.IsKept same I d d') (access : FileAccess) (rel : TreePath)
    {g h : FileTree → FileTree}
    (hchange : ∀ {t t'}, t.fault? access (d ++ rel) = none → I t t' → I (g t) (h t')) :
    Relates same I Eq (Build.atPath access (d ++ rel) g) (Build.atPath access (d' ++ rel) h) := by
  intro w w' hplace hfiles
  have hfaults := hI.fault access rel hfiles
  cases hfault : w.files.fault? access (d ++ rel) with
  | none =>
    rw [run_atPath hfault, run_atPath (hfaults.symm.trans hfault)]
    exact ⟨.ok rfl, ⟨rfl, rfl⟩, hchange hfault hfiles⟩
  | some fault =>
    rw [run_atPath_of_fault hfault, run_atPath_of_fault (hfaults.symm.trans hfault)]
    refine ⟨.error (fault.failure_like fun hsame => ?_), ⟨rfl, rfl⟩, hfiles⟩
    rw [Workspace.shown, Workspace.shown, hplace hsame, hI.path hsame]

theorem enterDirectory (hI : FileTree.IsKept same I d d') :
    Relates same I Eq (Build.enterDirectory d) (Build.enterDirectory d') := by
  have hchange := atPath hI .enter [] (g := fun t => t.ensureDirectory d)
    (h := fun t => t.ensureDirectory d')
    fun hfree => hI.ensureDirectory (by rwa [List.append_nil] at hfree)
  rwa [List.append_nil, List.append_nil] at hchange

theorem writeFile (hI : FileTree.IsKept same I d d') {rel : TreePath} (hrel : rel ≠ [])
    (content : FileContent) :
    Relates same I Eq (Build.writeFile (d ++ rel) content) (Build.writeFile (d' ++ rel) content) :=
  atPath hI .write rel (hI.write content hrel)

theorem writeCompiled (hI : FileTree.IsKept same I d d') {rel : TreePath} (hrel : rel ≠ [])
    (source : Bytes) :
    Relates same I Eq (Build.writeCompiled (d ++ rel) source)
      (Build.writeCompiled (d' ++ rel) source) :=
  atPath hI .compile rel fun hfree => hI.write _ hrel (FileTree.fault?_compile_eq_none_iff.mp hfree)

theorem removeFile (hI : FileTree.IsKept same I d d') {rel : TreePath} (hrel : rel ≠ []) :
    Relates same I Eq (Build.removeFile (d ++ rel)) (Build.removeFile (d' ++ rel)) :=
  atPath hI .remove rel fun _ => hI.remove hrel

theorem onFiles {hook : BuildHook} (h : hook.Keeps I d d') :
    Relates same I Eq (Build.onFiles (hook d)) (Build.onFiles (hook d')) := by
  intro w w' _ hfiles
  obtain ⟨hresult, hafter⟩ := h _ _ hfiles
  rw [run_onFiles, run_onFiles, hresult]
  exact ⟨.refl fun _ => rfl, ⟨rfl, rfl⟩, hafter⟩

/-- Steps one after the other keep a relation if each of them does. -/
theorem bind {p p' : Build α} {q q' : α → Build β} (hp : Relates same I R p p')
    (hq : ∀ a a', R a a' → Relates same I S (q a) (q' a')) :
    Relates same I S (p >>= q) (p' >>= q') := by
  intro w w' hplace hfiles
  obtain ⟨hresult, hstays, hafter⟩ := hp w w' hplace hfiles
  rw [run_bind, run_bind]
  generalize p.run.run w = r at hresult hstays hafter
  generalize p'.run.run w' = r' at hresult hstays hafter
  obtain ⟨r, v⟩ := r
  obtain ⟨r', v'⟩ := r'
  cases hresult with
  | error hlike => exact ⟨.error hlike, hstays, hafter⟩
  | ok hR =>
    have hthere : same → v.place = v'.place := fun hsame =>
      hstays.1.trans ((hplace hsame).trans hstays.2.symm)
    obtain ⟨hresult, hstays', hafter⟩ := hq _ _ hR v v' hthere hafter
    exact ⟨hresult, ⟨hstays'.1.trans hstays.1, hstays'.2.trans hstays.2⟩, hafter⟩

/-- Steps whose values are not looked at. -/
theorem seq {p p' : Build α} {q q' : Build β} (hp : Relates same I R p p')
    (hq : Relates same I S q q') :
    Relates same I S (do let _ ← p; q) (do let _ ← p'; q') :=
  hp.bind fun _ _ _ => hq

/-- Steps that depend on a condition keep a relation if they do in both cases. -/
theorem ite {p p' q q' : Build α} (c : Prop) [Decidable c] (hp : Relates same I R p p')
    (hq : Relates same I R q q') :
    Relates same I R (if c then p else q) (if c then p' else q') := by
  split_ifs
  · exact hp
  · exact hq

/-- Steps for each item of a list keep a relation if those for every item do. -/
theorem mapM {γ : Type} {f f' : γ → Build α} {xs : List γ}
    (h : ∀ x ∈ xs, Relates same I Eq (f x) (f' x)) :
    Relates same I Eq (xs.mapM f) (xs.mapM f') := by
  induction xs with
  | nil =>
    rw [List.mapM_nil, List.mapM_nil]
    exact pure rfl
  | cons x xs ih =>
    rw [List.forall_mem_cons] at h
    rw [List.mapM_cons, List.mapM_cons]
    refine h.1.bind ?_
    rintro a _ rfl
    refine (ih h.2).bind ?_
    rintro as _ rfl
    exact pure rfl

end Relates

end Build

/-! ### Filling a directory -/

open Build

variable {same : Prop} {I : FileTree → FileTree → Prop} {d d' : TreePath}

/-- A capture looks at no files. -/
theorem capture_relates (h : Heap) (table : ModuleTable) (ex : Exclusion) (value : ObjectId) :
    Relates same I Eq (capture h table ex value) (capture h table ex value) := by
  intro w w' _ hfiles
  obtain ⟨events, hrun⟩ := capture_run h table ex value w
  obtain ⟨events', hrun'⟩ := capture_run h table ex value w'
  rw [hrun, hrun']
  exact ⟨.refl fun _ => rfl, ⟨rfl, rfl⟩, hfiles⟩

/-- A captured value is written into both directories. -/
theorem store_relates (hI : FileTree.IsKept same I d d') (captured : CapturedValue) :
    Relates same I (fun _ _ => True) (captured.store (some d) none)
      (captured.store (some d') none) := by
  unfold CapturedValue.store
  refine (Relates.enterDirectory hI).seq ?_
  refine (Relates.writeFile hI (List.cons_ne_nil _ _) _).seq ?_
  exact (Relates.writeFile hI (List.cons_ne_nil _ _) _).seq (.pure trivial)

/-- The manifest is written into both directories. -/
theorem writeManifest_relates (hI : FileTree.IsKept same I d d') (attributes : List Attribute) :
    Relates same I Eq (writeManifest d attributes) (writeManifest d' attributes) := by
  unfold writeManifest
  refine (Relates.ofResult _).bind ?_
  rintro manifest _ rfl
  exact Relates.writeFile hI (List.cons_ne_nil _ _) _

/-- The loader and the entry point are written into both directories. -/
theorem synthesize_relates (hI : FileTree.IsKept same I d d') (compiler : Compiler)
    (handler : Descriptor) :
    Relates same I (fun _ _ => True) (synthesize compiler d handler)
      (synthesize compiler d' handler) := by
  obtain ⟨front, last, hpath⟩ := FileTree.exists_pathOf_append handler.loaderName
  have hsource : FileTree.pathOf (handler.loaderName ++ ".py") ≠ [] := by
    rw [hpath ".py" (by decide) (by decide)]
    exact List.concat_ne_nil _ _
  have hloader : FileTree.pathOf (handler.loaderName ++ ".pyc") ≠ [] := by
    rw [hpath ".pyc" (by decide) (by decide)]
    exact List.concat_ne_nil _ _
  have hentry : [entryFile] ≠ [] := List.cons_ne_nil _ _
  unfold synthesize
  refine (Relates.writeFile hI hsource _).seq ?_
  refine Relates.ite _ ?_ (Relates.ite _ ?_ ?_)
  · refine Relates.get.bind fun _ _ _ => ?_
    exact (Relates.tell _ _).seq (.throw_bind _)
  · refine (Relates.writeCompiled hI hloader _).seq ?_
    refine (Relates.removeFile hI hsource).seq ?_
    exact (Relates.writeFile hI hentry _).seq (.pure trivial)
  · refine (Relates.removeFile hI hsource).seq ?_
    exact (Relates.writeFile hI hentry _).seq (.pure trivial)

/-- Hooks run in both directories. -/
theorem runHooks_relates {attributes : List Attribute}
    (h : ∀ a ∈ attributes, a.build.Keeps I d d') :
    Relates same I Eq (runHooks attributes d) (runHooks attributes d') := by
  unfold runHooks
  refine (Relates.mapM fun a ha => .onFiles (h a ha)).bind ?_
  rintro artifacts _ rfl
  exact .pure rfl

/-- All that is written into the directory of a candidate before the hooks run. -/
def writeArtifact (ctx : PackageContext) (c : Candidate) (attributes : List Attribute)
    (directory : TreePath) : Build CapturedValue := do
  let captured ← capture ctx.heap ctx.table ctx.settings.exclusion c.value
  let _ ← captured.store (some directory) none
  Build.writeFile (directory ++ [supportFile]) .support
  writeManifest directory attributes
  let _ ← synthesize ctx.compiler directory c.handler
  return captured

/-- When the files of an artifact have been written, the hooks run, and the directory is told of. -/
theorem fillDirectory_eq (ctx : PackageContext) (c : Candidate) (attributes : List Attribute)
    (d : TreePath) :
    fillDirectory ctx c attributes d = do
      let captured ← writeArtifact ctx c attributes d
      let artifacts ← runHooks attributes d
      Build.tell <| .ofKind packageSource "funcpack.handler.packaged" .info
        [("handler", .text c.handler.qualifiedName),
          ("output_dir", .text ((← get).shown d)),
          ("modules", .int captured.modules.length)]
      return ⟨c.handler.scope, c.handler.name, some d, [], artifacts⟩ := by
  simp only [fillDirectory, writeArtifact, bind_assoc, pure_bind]

/-- The files of an artifact are written into both directories. -/
theorem writeArtifact_relates (ctx : PackageContext) (c : Candidate) (attributes : List Attribute)
    (hI : FileTree.IsKept same I d d') :
    Relates same I Eq (writeArtifact ctx c attributes d) (writeArtifact ctx c attributes d') := by
  unfold writeArtifact
  refine (capture_relates ctx.heap ctx.table ctx.settings.exclusion c.value).bind ?_
  rintro captured _ rfl
  refine (store_relates hI captured).seq ?_
  refine (Relates.writeFile hI (List.cons_ne_nil _ _) _).seq ?_
  refine (writeManifest_relates hI attributes).seq ?_
  exact (synthesize_relates hI ctx.compiler c.handler).seq (.pure rfl)

/-- **What is kept while a directory of each tree is filled.** If a relation is kept by what is
written into the directories and by the hooks, it is kept by the whole, which comes to the same
result in both up to the directory. -/
theorem fillDirectory_relates (ctx : PackageContext) (c : Candidate) {attributes : List Attribute}
    (hI : FileTree.IsKept same I d d') (h : ∀ a ∈ attributes, a.build.Keeps I d d') :
    Relates same I (fun r r' => r.directory = some d ∧ r' = { r with directory := some d' })
      (fillDirectory ctx c attributes d) (fillDirectory ctx c attributes d') := by
  rw [fillDirectory_eq, fillDirectory_eq]
  refine (writeArtifact_relates ctx c attributes hI).bind ?_
  rintro captured _ rfl
  refine (runHooks_relates h).bind ?_
  rintro artifacts _ rfl
  refine Relates.get.bind fun _ _ _ => ?_
  exact (Relates.tell _ _).seq (.pure ⟨rfl, rfl⟩)

section Changes

variable {attributes : List Attribute} {R : FileTree → FileTree → Prop} (hrefl : ∀ t, R t t)
  (htrans : ∀ {t t' t''}, R t t' → R t' t'' → R t t'')

include htrans in
theorem keeps_of_changes (hhooks : ∀ a ∈ attributes, ∀ t, R t ((a.build d).run.run t).2)
    (t₀ : FileTree) : ∀ a ∈ attributes, a.build.Keeps (fun t t' => t = t' ∧ R t₀ t) d d := by
  rintro a ha t _ ⟨rfl, h⟩
  exact ⟨rfl, rfl, htrans h (hhooks a ha t)⟩

include hrefl htrans in
/-- Files change while hooks run as a relation allows if it allows what each of them does. -/
theorem runHooks_changes (hhooks : ∀ a ∈ attributes, ∀ t, R t ((a.build d).run.run t).2) :
    Changes R (runHooks attributes d) :=
  .of_relates hrefl fun t₀ => ⟨_, runHooks_relates (keeps_of_changes (R := R) htrans hhooks t₀)⟩

variable (hensure : ∀ t, t.fault? .enter d = none → R t (t.ensureDirectory d))
  (hwrite : ∀ t rel content, rel ≠ [] → t.fault? .write (d ++ rel) = none →
    R t (t.write (d ++ rel) content))
  (hremove : ∀ t rel, rel ≠ [] → R t (t.remove (d ++ rel)))

include htrans hensure hwrite hremove in
theorem isKept_of_changes (t₀ : FileTree) :
    FileTree.IsKept True (fun t t' => t = t' ∧ R t₀ t) d d := by
  constructor
  · exact fun _ => rfl
  · rintro t _ access rel ⟨rfl, -⟩
    rfl
  · rintro t _ hfree ⟨rfl, h⟩
    exact ⟨rfl, htrans h (hensure t hfree)⟩
  · rintro t _ rel content hrel hfree ⟨rfl, h⟩
    exact ⟨rfl, htrans h (hwrite t rel content hrel hfree)⟩
  · rintro t _ rel hrel ⟨rfl, h⟩
    exact ⟨rfl, htrans h (hremove t rel hrel)⟩

include hrefl htrans hensure hwrite hremove in
/-- **How files change while a directory is filled.** They change as a relation allows if it allows
what is written there and what the hooks do, and all of that one after the other. -/
theorem fillDirectory_changes (ctx : PackageContext) (c : Candidate)
    (hhooks : ∀ a ∈ attributes, ∀ t, R t ((a.build d).run.run t).2) :
    Changes R (fillDirectory ctx c attributes d) :=
  .of_relates hrefl fun t₀ => ⟨_, fillDirectory_relates ctx c
    (isKept_of_changes (R := R) htrans hensure hwrite hremove t₀)
    (keeps_of_changes (R := R) htrans hhooks t₀)⟩

end Changes

end HandlerBundle
