import HandlerBundle.Proofs.Package.Artifact
import HandlerBundle.Proofs.Package.Telling

/-!
# Loaders that are compiled, and loaders that are not

A backend gets the path of a source and the path under which its compiled form is wanted, and
answers with an exit code and diagnostics. What it has written by then may be anything: a part of
the compiled form beside an exit code that is not zero, or nothing beside a zero. Whatever it does
under that path, and whatever files have been in the directory before, a directory is left in one of
two states: with the source of the loader and the entry point that was there before, or without the
source and with the new entry point. A directory that has the name of one of these files is in the
way, and so is a null character in the name of the handler: then it may be left in neither.

## Main definitions

* `FileTree.SameExcept` — trees that differ only in the files of some paths.
* `Backend`, `synthesizeWith` — compilers that see the files, and the synthesis with one of them.
* `Backend.TouchesOnlyOutput` — backends that change nothing but the compiled form.
* `LeavesOneOfTwo` — a synthesis that leaves a directory in one of the two states.

## Main results

* `synthesize_eq` — a compiler that sees the source alone is such a backend.
* `synthesis_leaves_one_of_two` — where nothing is in the way, there are the two states.
* `not_leavesOneOfTwo_blockedEntry` — where something is, there may be neither.
-/

namespace HandlerBundle

open Build

/-! ### Trees that differ in some files -/

namespace FileTree

variable {ps qs : List TreePath} {t t' t'' : FileTree} {p : TreePath}

/-- The tree `t'` is `t`, apart from what the files of the paths `ps` hold. -/
structure SameExcept (ps : List TreePath) (t t' : FileTree) : Prop where
  directories : t'.directories = t.directories
  contents : ∀ p, p ∉ ps → t'.content? p = t.content? p

namespace SameExcept

theorem trans (h : SameExcept ps t t') (h' : SameExcept ps t' t'') : SameExcept ps t t'' :=
  ⟨h'.directories.trans h.directories,
    fun p hp => (h'.contents p hp).trans (h.contents p hp)⟩

theorem mono (h : SameExcept ps t t') (hsubset : ps ⊆ qs) : SameExcept qs t t' :=
  ⟨h.directories, fun p hp => h.contents p fun hmem => hp (hsubset hmem)⟩

theorem write (hp : p ∈ ps) (t : FileTree) (content : FileContent) :
    SameExcept ps t (t.write p content) where
  directories := rfl
  contents q hq := by
    rw [content?_write, if_neg]
    rintro rfl
    exact hq hp

theorem remove (hp : p ∈ ps) (t : FileTree) : SameExcept ps t (t.remove p) where
  directories := rfl
  contents q hq := by
    rw [content?_remove, if_neg]
    rintro rfl
    exact hq hp

end SameExcept

end FileTree

open FileTree

/-! ### Backends -/

namespace CompileOutcome

/-- A failure has a message, even if there are no diagnostics or they are blank. -/
theorem message_failure_ne_empty (outcome : CompileOutcome) : outcome.failure.message ≠ "" := by
  unfold failure
  dsimp only
  split_ifs with hempty
  · intro heq
    have hlength := congrArg String.length heq
    rw [String.length_append, show "compiler exited with code ".length = 26 from rfl] at hlength
    exact absurd hlength (by rw [String.length_empty]; omega)
  · exact fun heq => hempty (String.isEmpty_iff.mpr heq)

end CompileOutcome

/-- A compiler that sees the files: takes the path of a source, the path under which its compiled
form is wanted, and the directories in which the compiled form looks for imports. -/
abbrev Backend := TreePath → TreePath → List TreePath → Build CompileOutcome

/-- A backend that changes nothing but the compiled form, and tells nothing. -/
structure Backend.TouchesOnlyOutput (backend : Backend) : Prop where
  place : ∀ source output paths w, ((backend source output paths).run.run w).2.place = w.place
  events : ∀ source output paths w, ((backend source output paths).run.run w).2.events = w.events
  files : ∀ source output paths w,
    SameExcept [output] w.files ((backend source output paths).run.run w).2.files

/-- What is done when a backend has answered: if all is well, the source of the loader is removed
and the entry point written. -/
def settle (directory : TreePath) (handler : Descriptor) (outcome : CompileOutcome) :
    Build Synthesis := do
  let source := directory ++ handler.loaderSourcePath
  if outcome.exitCode != 0 then
    Build.tell (.compileFailed handler outcome.exitCode ((← get).shown source))
    throw outcome.failure
  Build.removeFile source
  let entry := directory ++ [entryFile]
  Build.writeFile entry (.bytes (Utf8.encode (entrySource handler)))
  return ⟨handler.written, directory ++ handler.loaderPath, entry⟩

/-- Writes the loader of a handler into a directory and has a backend compile it. -/
def synthesizeWith (backend : Backend) (directory : TreePath) (handler : Descriptor) :
    Build Synthesis := do
  let source := directory ++ handler.loaderSourcePath
  Build.writeFile source (.bytes (Utf8.encode (loaderSource handler)))
  let outcome ← backend source (directory ++ handler.loaderPath) [directory]
  settle directory handler outcome

/-- A compiler that sees the source alone, as a backend: it is given the name of the source and what
is in it, and writes the compiled form if there is one. -/
def Compiler.backend (compiler : Compiler) (file : String) : Backend := fun source output _ => do
  let bytes := ((← get).files.bytes? source).getD []
  let outcome := compiler file bytes
  if outcome == .compiled then Build.writeCompiled output bytes
  return outcome

section Backend

variable {backend : Backend} {compiler : Compiler} {handler : Descriptor} {d : TreePath}
  {outcome : CompileOutcome} {w u : Workspace}

theorem Compiler.backend_run (compiler : Compiler) (file : String) (source output : TreePath)
    (paths : List TreePath) (w : Workspace) :
    (compiler.backend file source output paths).run.run w =
      let bytes := (w.files.bytes? source).getD []
      let outcome := compiler file bytes
      if outcome == .compiled then
        (do Build.writeCompiled output bytes; return outcome : Build CompileOutcome).run.run w
      else (.ok outcome, w) := by
  unfold Compiler.backend
  rw [run_bind, run_get]
  dsimp only
  split_ifs <;> rfl

theorem run_writeCompiled_cases (output : TreePath) (source : Bytes) (outcome : CompileOutcome)
    (w : Workspace) :
    (∃ f, (do Build.writeCompiled output source; return outcome : Build CompileOutcome).run.run w =
      (.error f, w)) ∨
    (do Build.writeCompiled output source; return outcome : Build CompileOutcome).run.run w =
      (.ok outcome, { w with files := w.files.write output (.compiled source) }) := by
  rw [run_bind, Build.writeCompiled]
  cases hfault : w.files.fault? .compile output with
  | none =>
    rw [run_atPath hfault]
    exact .inr rfl
  | some fault =>
    rw [run_atPath_of_fault hfault]
    exact .inl ⟨_, rfl⟩

theorem Compiler.backend_touchesOnlyOutput (compiler : Compiler) (file : String) :
    (compiler.backend file).TouchesOnlyOutput := by
  have hrun : ∀ source output paths (w : Workspace),
      ((compiler.backend file source output paths).run.run w).2.place = w.place ∧
      ((compiler.backend file source output paths).run.run w).2.events = w.events ∧
      SameExcept [output] w.files
        ((compiler.backend file source output paths).run.run w).2.files := by
    intro source output paths w
    have hsame : SameExcept [output] w.files w.files := ⟨rfl, fun _ _ => rfl⟩
    rw [Compiler.backend_run]
    dsimp only
    split_ifs
    · rcases run_writeCompiled_cases output ((w.files.bytes? source).getD []) _ w with
        ⟨f, hfails⟩ | hwritten
      · rw [hfails]
        exact ⟨rfl, rfl, hsame⟩
      · rw [hwritten]
        exact ⟨rfl, rfl, .write (List.mem_singleton_self _) _ _⟩
    · exact ⟨rfl, rfl, hsame⟩
  exact ⟨fun _ _ _ w => (hrun _ _ _ w).1, fun _ _ _ w => (hrun _ _ _ w).2.1,
    fun _ _ _ w => (hrun _ _ _ w).2.2⟩

/-- The compiled form is written before it is decided what to do, for where there is one all is
well. -/
theorem synthesize_eq_settle (compiler : Compiler) (d : TreePath) (handler : Descriptor) :
    synthesize compiler d handler = (do
      Build.writeFile (d ++ handler.loaderSourcePath) (.bytes (Utf8.encode (loaderSource handler)))
      let outcome := compiler handler.loaderSourceFile (Utf8.encode (loaderSource handler))
      if outcome == .compiled then
        Build.writeCompiled (d ++ handler.loaderPath) (Utf8.encode (loaderSource handler))
      settle d handler outcome) := by
  unfold synthesize
  refine congrArg (bind _) (funext fun _ => ?_)
  rw [Descriptor.loaderSourceFile]
  dsimp only
  cases compiler (handler.loaderName ++ ".py") (Utf8.encode (loaderSource handler)) with
  | compiled => rfl
  | reported report => rfl

/-- **A compiler that sees the source alone** is a backend, and the loader is compiled by it. -/
theorem synthesize_eq (compiler : Compiler) (d : TreePath) (handler : Descriptor) :
    synthesize compiler d handler =
      synthesizeWith (compiler.backend handler.loaderSourceFile) d handler := by
  funext w
  change (synthesize compiler d handler).run.run w =
    (synthesizeWith (compiler.backend handler.loaderSourceFile) d handler).run.run w
  rw [synthesize_eq_settle]
  refine run_bind_congr fun _ v hwritten => ?_
  obtain ⟨-, rfl⟩ := run_atPath_eq_ok_iff.mp hwritten
  have hbytes : (w.files.write (d ++ handler.loaderSourcePath)
      (.bytes (Utf8.encode (loaderSource handler)))).bytes? (d ++ handler.loaderSourcePath) =
        some (Utf8.encode (loaderSource handler)) := by
    rw [FileTree.bytes?, content?_write, if_pos rfl]
  rw [run_bind, Compiler.backend_run, hbytes]
  dsimp only [Option.getD_some]
  split_ifs
  · rw [run_bind, run_bind]
    generalize (Build.writeCompiled _ _).run.run _ = result
    rcases result with ⟨f | a, v⟩ <;> rfl
  · rfl

/-! ### The two states -/

/-- The workspace in which the backend of a synthesis starts: the source of the loader has been
written. -/
def Workspace.withLoaderSource (w : Workspace) (d : TreePath) (handler : Descriptor) : Workspace :=
  { w with
    files := w.files.write (d ++ [handler.loaderSourceFile])
      (.bytes (Utf8.encode (loaderSource handler))) }

/-- What a synthesis comes to that has started in the workspace `w` and whose backend has come to an
outcome in the workspace `u`. The compiled form is what the backend has left, and nothing has
changed but the source, the compiled form and the entry point. -/
structure LeavesOneOfTwo (handler : Descriptor) (d : TreePath) (outcome : CompileOutcome)
    (w u : Workspace) (call : Except Failure Synthesis × Workspace) : Prop where
  /-- The source stays, and the entry point is as it was before. -/
  failed : outcome.exitCode ≠ 0 →
    call.1 = .error outcome.failure ∧
    outcome.failure.kind = .compile outcome.report.diagnostics ∧ outcome.failure.message ≠ "" ∧
    call.2.files.content? (d ++ [handler.loaderSourceFile]) =
      some (.bytes (Utf8.encode (loaderSource handler))) ∧
    call.2.files.content? (d ++ [entryFile]) = w.files.content? (d ++ [entryFile]) ∧
    call.2.events = .compileFailed handler outcome.exitCode
      (w.shown (d ++ [handler.loaderSourceFile])) :: w.events
  /-- The source is gone, and the entry point is that of the handler. -/
  compiled : outcome.exitCode = 0 →
    call.1 = .ok ⟨handler.written, d ++ [handler.loaderFile], d ++ [entryFile]⟩ ∧
    call.2.files.content? (d ++ [handler.loaderSourceFile]) = none ∧
    call.2.files.content? (d ++ [entryFile]) =
      some (.bytes (Utf8.encode (entrySource handler))) ∧
    call.2.events = w.events
  output : call.2.files.content? (d ++ [handler.loaderFile]) =
    u.files.content? (d ++ [handler.loaderFile])
  others : SameExcept [d ++ [handler.loaderSourceFile], d ++ [handler.loaderFile], d ++ [entryFile]]
    w.files call.2.files

/-- An outcome that is not well is told of, and the synthesis fails with it. -/
theorem settle_run_of_failed (hcode : outcome.exitCode ≠ 0) :
    (settle d handler outcome).run.run w = (.error outcome.failure,
      { w with
        events := .compileFailed handler outcome.exitCode
          (w.shown (d ++ handler.loaderSourcePath)) :: w.events }) := by
  unfold settle
  dsimp only
  rw [if_pos (bne_iff_ne.mpr hcode)]
  rfl

/-- Where nothing is in the way, the source is removed and the entry point written. -/
theorem settle_run_of_compiled (hcode : outcome.exitCode = 0)
    (hsource : w.files.fault? .remove (d ++ handler.loaderSourcePath) = none)
    (hentry : (w.files.remove (d ++ handler.loaderSourcePath)).fault? .write (d ++ [entryFile]) =
      none) :
    (settle d handler outcome).run.run w =
      (.ok ⟨handler.written, d ++ handler.loaderPath, d ++ [entryFile]⟩,
        { w with
          files := (w.files.remove (d ++ handler.loaderSourcePath)).write (d ++ [entryFile])
            (.bytes (Utf8.encode (entrySource handler))) }) := by
  unfold settle
  dsimp only
  rw [if_neg (by rwa [bne_iff_ne, not_not]), run_bind, Build.removeFile, run_atPath hsource]
  dsimp only
  rw [run_bind, Build.writeFile, run_atPath hentry]
  rfl

/-- The source of the loader, its compiled form and the entry point have paths of their own. -/
theorem Descriptor.paths_apart (handler : Descriptor) (d : TreePath) :
    d ++ [handler.loaderSourceFile] ≠ d ++ [handler.loaderFile] ∧
      d ++ [handler.loaderSourceFile] ≠ d ++ [entryFile] ∧
      d ++ [handler.loaderFile] ≠ d ++ [entryFile] := by
  have hapart : ∀ {name name' : String}, name ≠ name' → d ++ [name] ≠ d ++ [name'] :=
    fun hne heq => hne (List.cons.inj (List.append_cancel_left heq)).1
  have hentry : entryFile ∈ fixedFiles := by decide
  obtain ⟨hsource, hloader, -⟩ := List.nodup_cons.mp (nodup_fileNames handler) |>.imp_right
    List.nodup_cons.mp
  rw [List.mem_cons, not_or] at hsource
  exact ⟨hapart hsource.1, hapart fun heq => hsource.2 (heq ▸ hentry),
    hapart fun heq => hloader (heq ▸ hentry)⟩

/-- A synthesis goes on with what its backend comes to, once the source has been written. -/
theorem synthesizeWith_run (hname : IsPathPart handler.name)
    (hsource : w.files.fault? .write (d ++ [handler.loaderSourceFile]) = none)
    (hcompile : (backend (d ++ [handler.loaderSourceFile]) (d ++ [handler.loaderFile]) [d]).run.run
      (w.withLoaderSource d handler) = (.ok outcome, u)) :
    (synthesizeWith backend d handler).run.run w = (settle d handler outcome).run.run u := by
  unfold synthesizeWith
  rw [Descriptor.loaderSourcePath_eq hname, Descriptor.loaderPath_eq hname]
  dsimp only
  rw [run_bind, Build.writeFile, run_atPath hsource]
  dsimp only
  rw [Workspace.withLoaderSource] at hcompile
  rw [run_bind, hcompile]

/-- What is known of the workspace `u` when a backend has answered in a synthesis that has started
in the workspace `w`: the source of the loader is there, and nothing else is new but what is under
the name of the compiled form. -/
structure IsAnswered (handler : Descriptor) (d : TreePath) (w u : Workspace) : Prop where
  place : u.place = w.place
  events : u.events = w.events
  source : u.files.content? (d ++ [handler.loaderSourceFile]) =
    some (.bytes (Utf8.encode (loaderSource handler)))
  entry : u.files.content? (d ++ [entryFile]) = w.files.content? (d ++ [entryFile])
  others : SameExcept [d ++ [handler.loaderSourceFile], d ++ [handler.loaderFile], d ++ [entryFile]]
    w.files u.files

namespace IsAnswered

/-- A backend that changes nothing but the compiled form has answered. -/
theorem of_touchesOnlyOutput (hbackend : backend.TouchesOnlyOutput) {result}
    (hcompile : (backend (d ++ [handler.loaderSourceFile]) (d ++ [handler.loaderFile]) [d]).run.run
      (w.withLoaderSource d handler) = (result, u)) : IsAnswered handler d w u := by
  obtain ⟨hsourceLoader, hsourceEntry, hloaderEntry⟩ := handler.paths_apart d
  have hplace := hbackend.place (d ++ [handler.loaderSourceFile]) (d ++ [handler.loaderFile]) [d]
    (w.withLoaderSource d handler)
  have hevents := hbackend.events (d ++ [handler.loaderSourceFile]) (d ++ [handler.loaderFile]) [d]
    (w.withLoaderSource d handler)
  have hfiles := hbackend.files (d ++ [handler.loaderSourceFile]) (d ++ [handler.loaderFile]) [d]
    (w.withLoaderSource d handler)
  rw [hcompile] at hplace hevents hfiles
  refine ⟨hplace, hevents, ?_, ?_, ?_⟩
  · rw [hfiles.contents _ (List.mem_singleton.not.mpr hsourceLoader), Workspace.withLoaderSource,
      content?_write, if_pos rfl]
  · rw [hfiles.contents _ (List.mem_singleton.not.mpr hloaderEntry.symm),
      Workspace.withLoaderSource, content?_write, if_neg hsourceEntry.symm]
  · exact (SameExcept.write List.mem_cons_self _ _).trans (hfiles.mono
      (List.cons_subset.mpr ⟨List.mem_cons_of_mem _ List.mem_cons_self, List.nil_subset _⟩))

/-- An outcome that is not well leaves the source, and the entry point that was there. -/
theorem leavesOneOfTwo_of_failed (h : IsAnswered handler d w u) (hname : IsPathPart handler.name)
    (hcode : outcome.exitCode ≠ 0) :
    LeavesOneOfTwo handler d outcome w u ((settle d handler outcome).run.run u) := by
  rw [settle_run_of_failed hcode]
  refine ⟨fun _ => ⟨rfl, rfl, CompileOutcome.message_failure_ne_empty _, h.source, h.entry, ?_⟩,
    fun hwell => absurd hwell hcode, rfl, h.others⟩
  rw [Descriptor.loaderSourcePath_eq hname, h.events, Workspace.shown, h.place]
  rfl

/-- An outcome that is well leaves the new entry point, and no source, if nothing is in the way. -/
theorem leavesOneOfTwo_of_compiled (h : IsAnswered handler d w u)
    (hname : IsPathPart handler.name) (hd : d ∈ w.files.directories) (hnull : d.IsNullFree)
    (hsource : d ++ [handler.loaderSourceFile] ∉ w.files.directories)
    (hentry : d ++ [entryFile] ∉ w.files.directories) (hcode : outcome.exitCode = 0) :
    LeavesOneOfTwo handler d outcome w u ((settle d handler outcome).run.run u) := by
  obtain ⟨hsourceLoader, hsourceEntry, hloaderEntry⟩ := handler.paths_apart d
  have hsourcePath := Descriptor.loaderSourcePath_eq hname
  have hsourceNull : (d ++ [handler.loaderSourceFile]).IsNullFree :=
    List.forall_mem_append.mpr ⟨hnull, (Descriptor.isEntryName_loaderSourceFile hname).isNullFree⟩
  have hentryNull : (d ++ [entryFile]).IsNullFree :=
    List.forall_mem_append.mpr ⟨hnull, by decide⟩
  rw [← h.others.directories] at hd hsource hentry
  have hremove : u.files.fault? .remove (d ++ handler.loaderSourcePath) = none := by
    rw [hsourcePath]
    exact fault?_remove_eq_none hsourceNull (List.concat_ne_nil _ _) hsource h.source
  have hwrite : (u.files.remove (d ++ handler.loaderSourcePath)).fault? .write (d ++ [entryFile]) =
      none := fault?_write_eq_none hd hentryNull hentry
  rw [settle_run_of_compiled hcode hremove hwrite, hsourcePath, Descriptor.loaderPath_eq hname]
  refine ⟨fun hfailed => absurd hcode hfailed, fun _ => ⟨rfl, ?_, ?_, h.events⟩, ?_, ?_⟩
  · rw [content?_write, if_neg hsourceEntry, content?_remove, if_pos rfl]
  · rw [content?_write, if_pos rfl]
  · rw [content?_write, if_neg hloaderEntry, content?_remove, if_neg hsourceLoader.symm]
  · exact h.others.trans ((SameExcept.remove List.mem_cons_self _).trans
      (.write (List.mem_cons_of_mem _ (List.mem_cons_of_mem _ List.mem_cons_self)) _ _))

end IsAnswered

/-- **The two states after a synthesis.** Take any backend that changes nothing but the compiled
form, any directory in which no directory has the name of the source of the loader or of the entry
point, whatever files have been there before, and whatever the backend answers.

If the exit code is not zero, the synthesis fails with the diagnostics of the backend and a message
that is not empty, the source of the loader is there, the entry point is as it was before, and one
event is told. If it is zero, the source of the loader is gone, the entry point is the one of the
handler, and nothing is told. Either way the compiled form is what the backend has left, and nothing
else has changed.

Every compiler that sees the source alone is such a backend, and it answers unless a directory has
the name of the compiled form. -/
theorem synthesis_leaves_one_of_two (hbackend : backend.TouchesOnlyOutput)
    (hname : IsPathPart handler.name) (hd : d ∈ w.files.directories) (hnull : d.IsNullFree)
    (hsource : d ++ [handler.loaderSourceFile] ∉ w.files.directories)
    (hentry : d ++ [entryFile] ∉ w.files.directories) :
    (∀ outcome u,
      (backend (d ++ [handler.loaderSourceFile]) (d ++ [handler.loaderFile]) [d]).run.run
        (w.withLoaderSource d handler) = (.ok outcome, u) →
      LeavesOneOfTwo handler d outcome w u ((synthesizeWith backend d handler).run.run w)) ∧
    ∀ compiler : Compiler,
      let compiling := compiler.backend handler.loaderSourceFile
      compiling.TouchesOnlyOutput ∧
      synthesize compiler d handler = synthesizeWith compiling d handler ∧
      (d ++ [handler.loaderFile] ∉ w.files.directories → ∃ u,
        (compiling (d ++ [handler.loaderSourceFile]) (d ++ [handler.loaderFile]) [d]).run.run
          (w.withLoaderSource d handler) = (.ok (compiler handler.loaderSourceFile
            (Utf8.encode (loaderSource handler))), u)) := by
  have hsourceName := Descriptor.isEntryName_loaderSourceFile hname
  have hloaderName := Descriptor.isEntryName_loaderFile hname
  refine ⟨fun outcome u hcompile => ?_, fun compiler => ⟨compiler.backend_touchesOnlyOutput _,
    synthesize_eq compiler d handler, fun hloader => ?_⟩⟩
  · have hanswered := IsAnswered.of_touchesOnlyOutput hbackend hcompile
    have hwrite := fault?_write_eq_none hd
      (List.forall_mem_append.mpr ⟨hnull, hsourceName.isNullFree⟩) hsource
    rw [synthesizeWith_run hname hwrite hcompile]
    by_cases hcode : outcome.exitCode = 0
    · exact hanswered.leavesOneOfTwo_of_compiled hname hd hnull hsource hentry hcode
    · exact hanswered.leavesOneOfTwo_of_failed hname hcode
  · have hwrite := fault?_write_eq_none (t := (w.withLoaderSource d handler).files) hd
      (List.forall_mem_append.mpr ⟨hnull, hloaderName.isNullFree⟩) hloader
    have hbytes : (w.withLoaderSource d handler).files.bytes? (d ++ [handler.loaderSourceFile]) =
        some (Utf8.encode (loaderSource handler)) := by
      rw [Workspace.withLoaderSource, FileTree.bytes?, content?_write, if_pos rfl]
    rw [Compiler.backend_run, hbytes]
    dsimp only [Option.getD_some]
    split_ifs
    · rw [run_bind, Build.writeCompiled, run_atPath (fault?_compile_eq_none_iff.mpr hwrite)]
      exact ⟨_, rfl⟩
    · exact ⟨_, rfl⟩

end Backend

/-! ### A backend that is stopped -/

/-- A backend that gives up with a blank line in the middle of the compiled form. -/
def stoppedBackend : Backend := fun _ output _ => do
  modify fun w => { w with files := w.files.write output (.bytes [0]) }
  return .reported ⟨2, [""]⟩

/-- A handler without parameters. -/
def refundHandler : Descriptor where
  scope := "shop"
  name := "refund"
  parameters := []
  result := Annotation.noneType
  shapeErrors := []

/-- The directory of the handler, with an entry point that an earlier synthesis has left. -/
def refundWorkspace : Workspace where
  place := "/srv"
  files := ⟨[["refund"]], [(["refund", entryFile], .bytes [1])]⟩
  events := []

/-- The exit code is what there is to tell, and the earlier entry point stays. -/
theorem synthesis_leaves_one_of_two_stoppedBackend :
    let call := (synthesizeWith stoppedBackend ["refund"] refundHandler).run.run refundWorkspace
    stoppedBackend.TouchesOnlyOutput ∧ IsPathPart refundHandler.name ∧
      ["refund"] ∈ refundWorkspace.files.directories ∧ TreePath.IsNullFree ["refund"] ∧
      ["refund", refundHandler.loaderSourceFile] ∉ refundWorkspace.files.directories ∧
      ["refund", entryFile] ∉ refundWorkspace.files.directories ∧
      call.1 = .error ⟨.compile [""], "compiler exited with code 2"⟩ ∧
      call.2.files.content? ["refund", refundHandler.loaderSourceFile] =
        some (.bytes (Utf8.encode (loaderSource refundHandler))) ∧
      call.2.files.content? ["refund", entryFile] = some (.bytes [1]) ∧
      call.2.events.length = 1 := by
  intro call
  have hbackend : stoppedBackend.TouchesOnlyOutput := ⟨fun _ _ _ _ => rfl, fun _ _ _ _ => rfl,
    fun _ _ _ w => .write (List.mem_singleton_self _) w.files _⟩
  have hname : IsPathPart refundHandler.name := by decide
  have hd : ["refund"] ∈ refundWorkspace.files.directories := by decide
  have hnull : TreePath.IsNullFree ["refund"] :=
    (IsEntryName.of_isIdentifier (by decide)).isNullFree
  have hsource : ["refund", refundHandler.loaderSourceFile] ∉
      refundWorkspace.files.directories := by decide
  have hentry : ["refund", entryFile] ∉ refundWorkspace.files.directories := by decide
  obtain ⟨htwo, -⟩ := synthesis_leaves_one_of_two hbackend hname hd hnull hsource hentry
  obtain ⟨hresult, -, -, hkept, hearlier, hevents⟩ :=
    (htwo (.reported ⟨2, [""]⟩) _ rfl).failed (by decide)
  have hfailure : (CompileOutcome.reported ⟨2, [""]⟩).failure =
      ⟨.compile [""], "compiler exited with code 2"⟩ := by decide
  exact ⟨hbackend, hname, hd, hnull, hsource, hentry,
    hresult.trans (congrArg Except.error hfailure), hkept, hearlier.trans rfl,
    congrArg List.length hevents⟩

/-! ### Paths that cannot be written -/

/-- A backend that says that all is well, and does nothing. -/
def idleBackend : Backend := fun _ _ _ => return .reported ⟨0, []⟩

/-- The directory of the handler, with a directory under the name of the entry point. -/
def blockedWorkspace : Workspace where
  place := "/srv"
  files := ⟨[["refund"], ["refund", entryFile]], []⟩
  events := []

/-- A handler whose name has no slash in it, but a null character. -/
def nullNamedHandler : Descriptor :=
  { refundHandler with name := "refund\x00" }

/-- Where a directory has the name of the entry point, a synthesis fails although its backend says
that all is well, and leaves neither state. So does one for a name with a null character, whatever
the backend would have said. -/
theorem not_leavesOneOfTwo_blockedEntry :
    (¬∀ (backend : Backend) (handler : Descriptor) (d : TreePath) (w u : Workspace)
        (outcome : CompileOutcome),
      backend.TouchesOnlyOutput → IsPathPart handler.name → d ∈ w.files.directories →
      d.IsNullFree →
      (backend (d ++ [handler.loaderSourceFile]) (d ++ [handler.loaderFile]) [d]).run.run
        (w.withLoaderSource d handler) = (.ok outcome, u) →
      LeavesOneOfTwo handler d outcome w u ((synthesizeWith backend d handler).run.run w)) ∧
    '/' ∉ nullNamedHandler.name.toList ∧
    ∀ outcome u, ¬LeavesOneOfTwo nullNamedHandler ["refund"] outcome refundWorkspace u
      ((synthesizeWith idleBackend ["refund"] nullNamedHandler).run.run refundWorkspace) := by
  refine ⟨fun hall => ?_, by decide, fun outcome u htwo => ?_⟩
  · have hidle : idleBackend.TouchesOnlyOutput := ⟨fun _ _ _ _ => rfl, fun _ _ _ _ => rfl,
      fun _ _ _ w => ⟨rfl, fun _ _ => rfl⟩⟩
    obtain ⟨hresult, -⟩ := (hall idleBackend refundHandler ["refund"] blockedWorkspace _ _ hidle
      (by decide) (by decide) (IsEntryName.of_isIdentifier (by decide)).isNullFree rfl).compiled rfl
    have hfails : ((synthesizeWith idleBackend ["refund"] refundHandler).run.run
        blockedWorkspace).1.toOption.isNone = true := by
      decide +kernel
    rw [hresult] at hfails
    cases hfails
  · have hstops : (((synthesizeWith idleBackend ["refund"] nullNamedHandler).run.run
        refundWorkspace).1.mapError Failure.kind).map (fun _ => ()) =
          .error (.foreign "ValueError") := by
      decide +kernel
    by_cases hcode : outcome.exitCode = 0
    · rw [(htwo.compiled hcode).1] at hstops
      cases hstops
    · obtain ⟨hresult, hkind, -⟩ := htwo.failed hcode
      rw [hresult] at hstops
      cases hkind.symm.trans (Except.error.inj hstops)

end HandlerBundle
