import HandlerBundle.Proofs.Package.Minting
import HandlerBundle.Proofs.Package.Relation
import HandlerBundle.Proofs.Results
import Mathlib.Data.List.Nodup

/-!
# The files of an artifact

Each stage of a build writes files of its own into the directory of a candidate, under names that
are different whatever the name of the handler is. So none of them is written over, and what the
last stage leaves is what each of them has written. The source of the loader is gone by then.

## Main definitions

* `FileTree.IsFilled` — a tree with files added to a directory.
* `FileTree.HoldsExactly` — what is in a directory.
* `artifactFiles` — the files that a build leaves in the directory of a candidate.

## Main results

* `nodup_fileNames`, `nodup_filePaths` — no two stages write under one name, or one path.
* `writeArtifact_eq_ok` — what is written into a directory.
* `fillDirectory_eq_ok` — what is in a directory that has been filled.
-/

namespace HandlerBundle

open Build

/-! ### Files in a directory -/

namespace FileTree

variable {t t' : FileTree} {d rel : TreePath} {files front back : List (TreePath × FileContent)}
  {content : FileContent}

/-- The tree `t'` is `t` with the given files below the directory `d`. -/
structure IsFilled (t : FileTree) (d : TreePath) (files : List (TreePath × FileContent))
    (t' : FileTree) : Prop where
  directories : t'.directories = t.directories
  written : ∀ f ∈ files, t'.content? (d ++ f.1) = some f.2
  others : ∀ p, (∀ f ∈ files, p ≠ d ++ f.1) → t'.content? p = t.content? p

/-- Writes files below a directory, one after the other. -/
def writeAll (t : FileTree) (d : TreePath) (files : List (TreePath × FileContent)) : FileTree :=
  files.foldl (fun t f => t.write (d ++ f.1) f.2) t

namespace IsFilled

theorem refl (t : FileTree) (d : TreePath) : IsFilled t d [] t :=
  ⟨rfl, List.forall_mem_nil _, fun _ _ => rfl⟩

/-- One more file is written under a new path. -/
theorem write (h : IsFilled t d files t') (hrel : rel ∉ files.map Prod.fst) :
    IsFilled t d (files ++ [(rel, content)]) (t'.write (d ++ rel) content) where
  directories := h.directories
  written := by
    simp only [List.forall_mem_append, List.forall_mem_singleton, content?_write, if_true, and_true,
      List.append_cancel_left_eq]
    intro f hf
    rw [if_neg, h.written f hf]
    rintro rfl
    exact hrel (List.mem_map_of_mem hf)
  others p hp := by
    rw [List.forall_mem_append, List.forall_mem_singleton] at hp
    rw [content?_write, if_neg hp.2, h.others p hp.1]

/-- More files are written under new paths. -/
theorem writeAll (h : IsFilled t d files t') (more : List (TreePath × FileContent))
    (hnodup : ((files ++ more).map Prod.fst).Nodup) :
    IsFilled t d (files ++ more) (t'.writeAll d more) := by
  induction more generalizing files t' with
  | nil => rwa [List.append_nil]
  | cons f more ih =>
    have hfiles : files ++ f :: more = files ++ [f] ++ more := by
      rw [List.append_assoc, List.singleton_append]
    rw [hfiles] at hnodup ⊢
    refine ih (h.write fun hmem => ?_) hnodup
    rw [List.append_assoc, List.map_append, List.map_append] at hnodup
    exact List.disjoint_of_nodup_append hnodup hmem (List.mem_append_left _ List.mem_cons_self)

/-- One of the files is removed again: it is as if there had been none of its path before. -/
theorem remove (h : IsFilled t d (front ++ (rel, content) :: back) t')
    (hrel : rel ∉ (front ++ back).map Prod.fst) :
    IsFilled (t.remove (d ++ rel)) d (front ++ back) (t'.remove (d ++ rel)) where
  directories := h.directories
  written f hf := by
    have hne : f.1 ≠ rel := by
      rintro rfl
      exact hrel (List.mem_map_of_mem hf)
    have hmem : f ∈ front ++ (rel, content) :: back :=
      (List.Sublist.append_left (List.sublist_cons_self _ _) front).subset hf
    rw [content?_remove, if_neg fun hpath => hne (List.append_cancel_left hpath), h.written f hmem]
  others p hp := by
    rw [content?_remove, content?_remove]
    split_ifs with hpath
    · rfl
    · refine h.others p fun f hf => ?_
      rcases List.mem_append.mp hf with hf | hf
      · exact hp f (List.mem_append_left _ hf)
      · rcases List.mem_cons.mp hf with rfl | hf
        · exact hpath
        · exact hp f (List.mem_append_right _ hf)

end IsFilled

variable {held : List (String × FileContent)}

/-- The directory `d` is there, and the given files are all that is below it. -/
structure HoldsExactly (t : FileTree) (d : TreePath) (files : List (String × FileContent)) :
    Prop where
  directories : ∀ rel, d ++ rel ∈ t.directories ↔ rel = []
  contents : ∀ rel content, t.content? (d ++ rel) = some content ↔
    ∃ name, rel = [name] ∧ (name, content) ∈ files

namespace HoldsExactly

theorem mem_directories (h : t.HoldsExactly d held) : d ∈ t.directories := by
  have hself := (h.directories []).mpr rfl
  rwa [List.append_nil] at hself

theorem of_sameBelow (h : t.HoldsExactly d held) (hsame : t.SameBelow d t' d) :
    t'.HoldsExactly d held where
  directories rel := (hsame.directories rel).symm.trans (h.directories rel)
  contents rel content := by rw [← hsame.contents, h.contents]

/-- A directory that has been made is empty if nothing was below it before. -/
theorem of_made (hbelow : ∀ rel, t.has (d ++ rel) = false)
    (hmade : t.makeDirectory? d = some t') : t'.HoldsExactly d [] where
  directories rel := by
    constructor
    · intro hrel
      rcases (mem_directories_iff_of_made hmade).mp hrel with hthere | ⟨-, hfront, -⟩
      · exact absurd (has_iff.mpr (.inr (.inl hthere))) (Bool.eq_false_iff.mp (hbelow rel))
      · have := hfront.length_le
        rw [List.length_append] at this
        exact List.length_eq_zero_iff.mp (by omega)
    · rintro rfl
      rw [List.append_nil]
      exact mem_directories_of_made hmade
  contents rel content := by
    rw [content?_of_made hmade]
    constructor
    · intro hrel
      have hthere : (t.content? (d ++ rel)).isSome = true := hrel ▸ rfl
      exact absurd (has_iff.mpr (.inr (.inr hthere))) (Bool.eq_false_iff.mp (hbelow rel))
    · rintro ⟨_, -, hmem⟩
      cases hmem

end HoldsExactly

/-- A directory that is made in a rooted tree is empty. -/
theorem IsRooted.holdsExactly (h : t.IsRooted) (hmade : t.makeDirectory? d = some t') :
    t'.HoldsExactly d [] := by
  refine .of_made (fun rel => Bool.eq_false_iff.mpr fun hrel => ?_) hmade
  exact Bool.eq_false_iff.mp (has_eq_false_of_made hmade) (h.has_of_append rel hrel)

end FileTree

open FileTree

/-! ### The names -/

namespace Descriptor

/-- The file with the source of a loader, which is there only until it is compiled. -/
def loaderSourceFile (handler : Descriptor) : String := handler.loaderName ++ ".py"

/-- The file with the compiled loader. -/
def loaderFile (handler : Descriptor) : String := handler.loaderName ++ ".pyc"

/-- Where the source of a loader is in the directory of its handler. -/
def loaderSourcePath (handler : Descriptor) : TreePath := pathOf handler.loaderSourceFile

/-- Where the compiled loader is in the directory of its handler. -/
def loaderPath (handler : Descriptor) : TreePath := pathOf handler.loaderFile

/-- The source of a loader and the compiled loader are side by side. -/
theorem exists_loaderPaths (handler : Descriptor) : ∃ front last,
    handler.loaderSourcePath = front ++ [last ++ "_loader.py"] ∧
      handler.loaderPath = front ++ [last ++ "_loader.pyc"] := by
  obtain ⟨front, last, hpath⟩ := exists_pathOf_append handler.name
  refine ⟨front, last, ?_, ?_⟩
  · rw [loaderSourcePath, loaderSourceFile, loaderName, String.append_assoc]
    exact hpath "_loader.py" (by decide) (by decide)
  · rw [loaderPath, loaderFile, loaderName, String.append_assoc]
    exact hpath "_loader.pyc" (by decide) (by decide)

/-- If the name of a handler can be part of a path, the source of its loader has the name of an
entry. -/
theorem isEntryName_loaderSourceFile {handler : Descriptor} (h : IsPathPart handler.name) :
    IsEntryName handler.loaderSourceFile := by
  rw [loaderSourceFile, loaderName, String.append_assoc]
  refine .of_two_lt (h.append (by decide)) ?_
  rw [String.length_append]
  exact Nat.lt_add_left _ (by decide)

theorem isEntryName_loaderFile {handler : Descriptor} (h : IsPathPart handler.name) :
    IsEntryName handler.loaderFile := by
  rw [loaderFile, loaderName, String.append_assoc]
  refine .of_two_lt (h.append (by decide)) ?_
  rw [String.length_append]
  exact Nat.lt_add_left _ (by decide)

theorem loaderSourcePath_eq {handler : Descriptor} (h : IsPathPart handler.name) :
    handler.loaderSourcePath = [handler.loaderSourceFile] :=
  (isEntryName_loaderSourceFile h).pathOf_eq

theorem loaderPath_eq {handler : Descriptor} (h : IsPathPart handler.name) :
    handler.loaderPath = [handler.loaderFile] :=
  (isEntryName_loaderFile h).pathOf_eq

theorem loaderSourcePath_ne_nil (handler : Descriptor) : handler.loaderSourcePath ≠ [] := by
  obtain ⟨front, last, hsource, -⟩ := handler.exists_loaderPaths
  rw [hsource]
  exact List.concat_ne_nil _ _

theorem loaderPath_ne_nil (handler : Descriptor) : handler.loaderPath ≠ [] := by
  obtain ⟨front, last, -, hloader⟩ := handler.exists_loaderPaths
  rw [hloader]
  exact List.concat_ne_nil _ _

end Descriptor

/-- The files whose names do not depend on the handler. -/
def fixedFiles : List String :=
  [archiveFile, snapshotFile, supportFile, Manifest.fileName, entryFile]

theorem loaderSource_notMem_fixedFiles (s : String) : s ++ "_loader.py" ∉ fixedFiles := by
  intro hmem
  have hending : "_loader.py".toList <:+ (s ++ "_loader.py").toList := by
    rw [String.toList_append]
    exact List.suffix_append _ _
  have hfixed : ∀ name ∈ fixedFiles, ¬"_loader.py".toList <:+ name.toList := by decide
  exact hfixed _ hmem hending

theorem loader_notMem_fixedFiles (s : String) : s ++ "_loader.pyc" ∉ fixedFiles := by
  intro hmem
  have hending : "_loader.pyc".toList <:+ (s ++ "_loader.pyc").toList := by
    rw [String.toList_append]
    exact List.suffix_append _ _
  have hfixed : ∀ name ∈ fixedFiles, ¬"_loader.pyc".toList <:+ name.toList := by decide
  exact hfixed _ hmem hending

/-- Names with the endings of the two files of a loader are different from each other, and from
those that do not depend on the handler. -/
theorem nodup_loaderNames (s : String) :
    ((s ++ "_loader.py") :: (s ++ "_loader.pyc") :: fixedFiles).Nodup := by
  have hne : s ++ "_loader.py" ≠ s ++ "_loader.pyc" := by
    intro h
    have hlength := congrArg String.length h
    rw [String.length_append, String.length_append] at hlength
    exact absurd (Nat.add_left_cancel hlength) (by decide)
  rw [List.nodup_cons, List.nodup_cons, List.mem_cons, not_or]
  exact ⟨⟨hne, loaderSource_notMem_fixedFiles s⟩, loader_notMem_fixedFiles s, by decide⟩

/-- **No two stages write under one name**, whatever the name of the handler is. -/
theorem nodup_fileNames (handler : Descriptor) :
    (handler.loaderSourceFile :: handler.loaderFile :: fixedFiles).Nodup := by
  rw [Descriptor.loaderSourceFile, Descriptor.loaderFile, Descriptor.loaderName,
    String.append_assoc, String.append_assoc]
  exact nodup_loaderNames handler.name

/-- No two stages write under one path. -/
theorem nodup_filePaths (handler : Descriptor) :
    (handler.loaderSourcePath :: handler.loaderPath ::
      fixedFiles.map fun name => [name]).Nodup := by
  obtain ⟨front, last, hsource, hloader⟩ := handler.exists_loaderPaths
  have hlast : ((handler.loaderSourcePath :: handler.loaderPath ::
      fixedFiles.map fun name => [name]).map fun path => path.getLastD "").Nodup := by
    rw [hsource, hloader, List.map_cons, List.map_cons, List.getLastD_concat, List.getLastD_concat,
      List.map_map]
    exact nodup_loaderNames last
  exact hlast.of_map _

/-! ### The files -/

variable {ctx : PackageContext} {c : Candidate} {compiler : Compiler} {handler : Descriptor}
  {attributes : List Attribute} {manifest : Manifest} {captured : CapturedValue} {d : TreePath}
  {t : FileTree} {w v : Workspace}

/-- The compiled loader, if the compiler writes one. -/
def loaderFiles (compiler : Compiler) (handler : Descriptor) : List (TreePath × FileContent) :=
  let source := Utf8.encode (loaderSource handler)
  if compiler handler.loaderSourceFile source == .compiled then
    [(handler.loaderPath, .compiled source)]
  else []

/-- The files that are written before the loader. -/
def capturedFiles (manifest : Manifest) (captured : CapturedValue) :
    List (TreePath × FileContent) :=
  [([archiveFile], .bytes captured.archive),
    ([snapshotFile], .bytes captured.snapshot),
    ([supportFile], .support),
    ([Manifest.fileName], .bytes (Utf8.encode manifest.encode))]

/-- The files that a build leaves in the directory of a handler, with what they hold. -/
def artifactFiles (compiler : Compiler) (handler : Descriptor) (manifest : Manifest)
    (captured : CapturedValue) : List (TreePath × FileContent) :=
  capturedFiles manifest captured ++ loaderFiles compiler handler ++
    [([entryFile], .bytes (Utf8.encode (entrySource handler)))]

theorem loaderFiles_paths_sublist :
    ((loaderFiles compiler handler).map Prod.fst).Sublist [handler.loaderPath] := by
  rw [loaderFiles]
  split_ifs
  · exact List.Sublist.refl _
  · exact List.nil_sublist _

/-- No path is in an artifact twice, and that of the source of the loader is not in it. -/
theorem nodup_artifactFiles :
    (handler.loaderSourcePath ::
      (artifactFiles compiler handler manifest captured).map Prod.fst).Nodup := by
  have hall : (handler.loaderSourcePath :: ((capturedFiles manifest captured).map Prod.fst ++
      [handler.loaderPath] ++ [[entryFile]])).Nodup := by
    refine (List.Perm.cons _ ?_).nodup_iff.mp (nodup_filePaths handler)
    rw [List.append_assoc]
    exact (@List.perm_middle _ _ ((capturedFiles manifest captured).map Prod.fst) _).symm
  refine hall.sublist (List.Sublist.cons_cons _ ?_)
  rw [artifactFiles, List.map_append, List.map_append]
  exact (loaderFiles_paths_sublist.append_left _).append_right _

/-- The source of a loader and the files of an artifact lie right in the directory if the source
does. -/
theorem exists_singleton_of_mem_artifactFiles {file : TreePath × FileContent}
    (hsource : handler.loaderSourcePath.dropLast = [])
    (hfile : file ∈ artifactFiles compiler handler manifest captured) :
    ∃ name, file.1 = [name] := by
  obtain ⟨front, last, hpath, hloader⟩ := handler.exists_loaderPaths
  rw [hpath, List.dropLast_concat] at hsource
  rw [hsource, List.nil_append] at hloader
  rw [artifactFiles, List.mem_append, List.mem_append, List.mem_singleton] at hfile
  rcases hfile with (hfile | hfile) | rfl
  · simp only [capturedFiles, List.mem_cons, List.not_mem_nil, or_false] at hfile
    rcases hfile with rfl | rfl | rfl | rfl <;> exact ⟨_, rfl⟩
  · have hmem := loaderFiles_paths_sublist.subset (List.mem_map_of_mem (f := Prod.fst) hfile)
    exact ⟨_, (List.mem_singleton.mp hmem).trans hloader⟩
  · exact ⟨_, rfl⟩

/-- A captured value is written into a directory that is there. -/
theorem store_eq_ok {paths : TreePath × TreePath} (hd : d ∈ w.files.directories)
    (hrun : (captured.store (some d) none).run.run w = (.ok paths, v)) :
    v = { w with
      files := (w.files.write (d ++ [archiveFile]) (.bytes captured.archive)).write
        (d ++ [snapshotFile]) (.bytes captured.snapshot) } := by
  unfold CapturedValue.store at hrun
  obtain ⟨_, w₁, henter, hrun⟩ := run_bind_eq_ok_iff.mp hrun
  obtain ⟨-, rfl⟩ := run_atPath_eq_ok_iff.mp henter
  obtain ⟨_, w₂, harchive, hrun⟩ := run_bind_eq_ok_iff.mp hrun
  obtain ⟨-, rfl⟩ := run_atPath_eq_ok_iff.mp harchive
  obtain ⟨_, w₃, hsnapshot, hrun⟩ := run_bind_eq_ok_iff.mp hrun
  obtain ⟨-, rfl⟩ := run_atPath_eq_ok_iff.mp hsnapshot
  obtain ⟨-, rfl⟩ := Prod.mk.inj hrun
  rw [ensureDirectory_of_mem hd]

/-- A manifest that is written is that of the attributes. -/
theorem writeManifest_eq_ok {a : Unit}
    (hrun : (writeManifest d attributes).run.run w = (.ok a, v)) :
    ∃ manifest, Manifest.ofAttributes attributes = .ok manifest ∧
      v = { w with
        files := w.files.write (d ++ [Manifest.fileName])
          (.bytes (Utf8.encode manifest.encode)) } := by
  unfold writeManifest at hrun
  obtain ⟨manifest, w₁, hmanifest, hrun⟩ := run_bind_eq_ok_iff.mp hrun
  rw [run_ofResult, Prod.mk.injEq] at hmanifest
  obtain ⟨hok, rfl⟩ := hmanifest
  obtain ⟨-, rfl⟩ := run_atPath_eq_ok_iff.mp hrun
  exact ⟨manifest, mapError_eq_ok_iff.mp hok, rfl⟩

/-- The source of the loader is written, and removed when the compiler says that all is well. -/
theorem synthesize_eq_ok {s : Synthesis}
    (hrun : (synthesize compiler d handler).run.run w = (.ok s, v)) :
    (compiler handler.loaderSourceFile (Utf8.encode (loaderSource handler))).exitCode = 0 ∧
    w.files.fault? .write (d ++ handler.loaderSourcePath) = none ∧
    v.files = (((w.files.write (d ++ handler.loaderSourcePath)
      (.bytes (Utf8.encode (loaderSource handler)))).writeAll d
        (loaderFiles compiler handler)).remove (d ++ handler.loaderSourcePath)).write
          (d ++ [entryFile]) (.bytes (Utf8.encode (entrySource handler))) := by
  unfold synthesize at hrun
  obtain ⟨_, w₁, hsource, hrun⟩ := run_bind_eq_ok_iff.mp hrun
  obtain ⟨hfree, rfl⟩ := run_atPath_eq_ok_iff.mp hsource
  dsimp only at hrun
  split at hrun
  next =>
    simp only [run_bind, run_get, run_tell, run_throw] at hrun
    cases (Prod.mk.inj hrun).1
  next hwell =>
    refine ⟨of_not_not fun hcode => hwell (bne_iff_ne.mpr hcode), hfree, ?_⟩
    have hrest : ∀ {u : Workspace},
        (do
          Build.removeFile (d ++ handler.loaderSourcePath)
          Build.writeFile (d ++ [entryFile]) (.bytes (Utf8.encode (entrySource handler)))
          return (⟨handler.written, d ++ handler.loaderPath, d ++ [entryFile]⟩ : Synthesis) :
            Build Synthesis).run.run u = (.ok s, v) →
        v.files = (u.files.remove (d ++ handler.loaderSourcePath)).write (d ++ [entryFile])
          (.bytes (Utf8.encode (entrySource handler))) := by
      intro u hrun
      obtain ⟨_, w₂, hremoved, hrun⟩ := run_bind_eq_ok_iff.mp hrun
      obtain ⟨-, rfl⟩ := run_atPath_eq_ok_iff.mp hremoved
      obtain ⟨_, w₃, hentry, hrun⟩ := run_bind_eq_ok_iff.mp hrun
      obtain ⟨-, rfl⟩ := run_atPath_eq_ok_iff.mp hentry
      obtain ⟨-, rfl⟩ := Prod.mk.inj hrun
      rfl
    split at hrun
    next hcompiled =>
      obtain ⟨_, w₂, hloader, hrun⟩ := run_bind_eq_ok_iff.mp hrun
      obtain ⟨-, rfl⟩ := run_atPath_eq_ok_iff.mp hloader
      have hfiles : loaderFiles compiler handler =
          [(handler.loaderPath, .compiled (Utf8.encode (loaderSource handler)))] := if_pos hcompiled
      rw [hfiles]
      exact hrest hrun
    next hcompiled =>
      have hfiles : loaderFiles compiler handler = [] := if_neg hcompiled
      rw [hfiles]
      exact hrest hrun

/-- What has been captured and the loader are added to the files of a directory. -/
theorem isFilled_artifactFiles {s : Synthesis}
    (hrun : (synthesize compiler d handler).run.run w = (.ok s, v))
    (hfilled : IsFilled t d (capturedFiles manifest captured) w.files) :
    IsFilled (t.remove (d ++ handler.loaderSourcePath)) d
      (artifactFiles compiler handler manifest captured) v.files := by
  have hnodup := @nodup_artifactFiles compiler handler manifest captured
  rw [artifactFiles, List.map_append, ← List.cons_append] at hnodup
  obtain ⟨hsource, hpaths⟩ := List.nodup_cons.mp hnodup.of_append_left
  have hentry : [entryFile] ∉
      (capturedFiles manifest captured ++ loaderFiles compiler handler).map Prod.fst := fun hmem =>
    List.disjoint_of_nodup_append hnodup (List.mem_cons_of_mem _ hmem) List.mem_cons_self
  have hwritten := hfilled.writeAll
    ((handler.loaderSourcePath, .bytes (Utf8.encode (loaderSource handler))) ::
      loaderFiles compiler handler) (by
    rw [List.map_append, List.map_cons, List.nodup_middle, ← List.map_append]
    exact List.nodup_cons.mpr ⟨hsource, hpaths⟩)
  rw [(synthesize_eq_ok hrun).2.2]
  exact (hwritten.remove hsource).write hentry

/-! ### Filling a directory -/

/-- **What is written into a directory.** The files of the artifact are added to it, and nothing
else is new. The source of the loader was written into a directory that was there. -/
theorem writeArtifact_eq_ok (hd : d ∈ w.files.directories)
    (hrun : (writeArtifact ctx c attributes d).run.run w = (.ok captured, v)) :
    captureResult ctx.heap ctx.table ctx.settings.exclusion c.value = .ok captured ∧
    (ctx.compiler c.handler.loaderSourceFile (Utf8.encode (loaderSource c.handler))).exitCode = 0 ∧
    d ++ c.handler.loaderSourcePath.dropLast ∈ w.files.directories ∧
    ∃ manifest, Manifest.ofAttributes attributes = .ok manifest ∧
      IsFilled (w.files.remove (d ++ c.handler.loaderSourcePath)) d
        (artifactFiles ctx.compiler c.handler manifest captured) v.files := by
  unfold writeArtifact at hrun
  obtain ⟨captured', w₁, hcapture, hrun⟩ := run_bind_eq_ok_iff.mp hrun
  obtain ⟨events, hcaptured⟩ := capture_run ctx.heap ctx.table ctx.settings.exclusion c.value w
  obtain ⟨hresult, rfl⟩ := Prod.mk.inj (hcaptured.symm.trans hcapture)
  obtain ⟨_, w₂, hstore, hrun⟩ := run_bind_eq_ok_iff.mp hrun
  obtain rfl := store_eq_ok (w := { w with events }) hd hstore
  obtain ⟨_, w₃, hsupport, hrun⟩ := run_bind_eq_ok_iff.mp hrun
  obtain ⟨-, rfl⟩ := run_atPath_eq_ok_iff.mp hsupport
  obtain ⟨_, w₄, hwritten, hrun⟩ := run_bind_eq_ok_iff.mp hrun
  obtain ⟨manifest, hmanifest, rfl⟩ := writeManifest_eq_ok hwritten
  obtain ⟨s, u, hsynthesize, hrun⟩ := run_bind_eq_ok_iff.mp hrun
  obtain ⟨hcaptured', rfl⟩ := Prod.mk.inj hrun
  obtain rfl := Except.ok.inj hcaptured'
  have hnames : ((capturedFiles manifest captured').map Prod.fst).Nodup := by
    change [[archiveFile], [snapshotFile], [supportFile], [Manifest.fileName]].Nodup
    decide
  have hfilled := (IsFilled.refl w.files d).writeAll (capturedFiles manifest captured') hnames
  obtain ⟨hcode, hfree, -⟩ := synthesize_eq_ok hsynthesize
  refine ⟨hresult, hcode, ?_, manifest, hmanifest, isFilled_artifactFiles hsynthesize hfilled⟩
  obtain ⟨front, last, hpath, -⟩ := c.handler.exists_loaderPaths
  rw [hpath, ← List.append_assoc] at hfree
  rw [hpath, List.dropLast_concat]
  rcases mem_directories_of_fault?_write hfree with hnil | hmem
  · obtain ⟨rfl, rfl⟩ := List.append_eq_nil_iff.mp hnil
    exact hd
  · exact hmem

/-- **What is in a directory that has been filled.** The files of the artifact have been added to it
when the hooks start to run. -/
theorem fillDirectory_eq_ok {r : PackageResult}
    (hrun : (fillDirectory ctx c attributes d).run.run w = (.ok r, v)) :
    ∃ captured u u' artifacts,
      (writeArtifact ctx c attributes d).run.run w = (.ok captured, u) ∧
      (runHooks attributes d).run.run u = (.ok artifacts, u') ∧ v.files = u'.files ∧
      r = ⟨c.handler.scope, c.handler.name, some d, [], artifacts⟩ := by
  rw [fillDirectory_eq] at hrun
  obtain ⟨captured, u, hwritten, hrun⟩ := run_bind_eq_ok_iff.mp hrun
  obtain ⟨artifacts, u', hhooks, hrun⟩ := run_bind_eq_ok_iff.mp hrun
  refine ⟨captured, u, u', artifacts, hwritten, hhooks, ?_⟩
  simp only [run_bind, run_get, run_tell, run_pure] at hrun
  obtain ⟨hr, rfl⟩ := Prod.mk.inj hrun
  exact ⟨rfl, (Except.ok.inj hr).symm⟩

end HandlerBundle
