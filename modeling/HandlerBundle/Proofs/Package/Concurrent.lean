import HandlerBundle.Package.Concurrent
import HandlerBundle.Proofs.Package.Artifact
import HandlerBundle.Proofs.Package.Isolation
import HandlerBundle.Proofs.Package.Pool

/-!
# Packaging step by step

The steps of packaging a candidate come to what packaging it comes to when they are taken in a row,
and all of them after the directory has been made stay below that directory.

## Main definitions

* `writeSteps` — what is written into a directory before the hooks run, step by step.

## Main results

* `packageSteps_performs` — the steps of a candidate in a row.
* `writeSteps_localTo`, `fillSteps_localTo` — the steps that fill a directory.
-/

namespace HandlerBundle

open Build FileTree

variable {ctx : PackageContext} {c : Candidate} {attributes : List Attribute} {names : List String}
  {handler : Descriptor} {w : Workspace}

/-! ### Steps in a row -/

/-- The names are tried one after the other. -/
theorem mintSteps_performs (handler : Descriptor) (names : List String) :
    (mintSteps handler names).Performs (mintAmong handler names) := by
  induction names with
  | nil => exact .throw _
  | cons name names ih =>
    refine (Steps.Performs.atomic _).bind fun made => ?_
    cases made with
    | true => exact .pure _
    | false => exact ih

theorem storeSteps_performs (captured : CapturedValue) (directory : TreePath) :
    (captured.storeSteps directory).Performs (captured.store (some directory) none) :=
  (Steps.Performs.atomic _).bind fun _ => (Steps.Performs.atomic _).bind fun _ =>
    (Steps.Performs.atomic _).bind fun _ => .pure _

theorem synthesizeSteps_performs (compiler : Compiler) (directory : TreePath)
    (handler : Descriptor) :
    (synthesizeSteps compiler directory handler).Performs
      (synthesize compiler directory handler) := by
  unfold synthesizeSteps synthesize
  refine (Steps.Performs.atomic _).bind fun _ => ?_
  refine Steps.Performs.ite _ (fun _ => rfl) (Steps.Performs.ite _ ?_ ?_)
  · refine (Steps.Performs.atomic _).bind fun _ => (Steps.Performs.atomic _).bind fun _ => ?_
    exact (Steps.Performs.atomic _).bind fun _ => .pure _
  · refine (Steps.Performs.atomic _).bind fun _ => ?_
    exact (Steps.Performs.atomic _).bind fun _ => .pure _

theorem hookSteps_performs (attributes : List Attribute) (directory : TreePath) :
    (hookSteps attributes directory).Performs (runHooks attributes directory) :=
  (Steps.Performs.mapM (fun _ => .atomic _) attributes).bind fun _ => .pure _

/-- All that is written into the directory of a candidate before the hooks run, step by step. -/
def writeSteps (ctx : PackageContext) (c : Candidate) (attributes : List Attribute)
    (directory : TreePath) : Steps CapturedValue := do
  let captured ← Steps.atomic (capture ctx.heap ctx.table ctx.settings.exclusion c.value)
  let _ ← captured.storeSteps directory
  Steps.atomic <| Build.writeFile (directory ++ [supportFile]) .support
  Steps.atomic <| writeManifest directory attributes
  let _ ← synthesizeSteps ctx.compiler directory c.handler
  return captured

/-- When the files of an artifact have been written, the hooks run, and the directory is told of. -/
theorem fillSteps_eq (ctx : PackageContext) (c : Candidate) (attributes : List Attribute)
    (d : TreePath) :
    fillSteps ctx c attributes d = do
      let captured ← writeSteps ctx c attributes d
      let artifacts ← hookSteps attributes d
      Steps.atomic do
        Build.tell <| .ofKind packageSource "funcpack.handler.packaged" .info
          [("handler", .text c.handler.qualifiedName),
            ("output_dir", .text ((← get).shown d)),
            ("modules", .int captured.modules.length)]
      return ⟨c.handler.scope, c.handler.name, some d, [], artifacts⟩ := by
  simp only [fillSteps, writeSteps, bind_assoc, pure_bind]

theorem writeSteps_performs (ctx : PackageContext) (c : Candidate) (attributes : List Attribute)
    (directory : TreePath) :
    (writeSteps ctx c attributes directory).Performs
      (writeArtifact ctx c attributes directory) := by
  unfold writeSteps writeArtifact
  refine (Steps.Performs.atomic _).bind fun captured => ?_
  refine (storeSteps_performs captured directory).bind fun _ => ?_
  refine (Steps.Performs.atomic _).bind fun _ => (Steps.Performs.atomic _).bind fun _ => ?_
  exact (synthesizeSteps_performs _ _ _).bind fun _ => .pure captured

/-- A directory is filled in a row as it is filled at once. -/
theorem fillSteps_performs (ctx : PackageContext) (c : Candidate) (attributes : List Attribute)
    (directory : TreePath) :
    (fillSteps ctx c attributes directory).Performs (fillDirectory ctx c attributes directory) := by
  rw [fillSteps_eq, fillDirectory_eq]
  refine (writeSteps_performs ctx c attributes directory).bind fun _ => ?_
  exact (hookSteps_performs _ _).bind fun _ _ => rfl

/-- **The steps of packaging a candidate, taken in a row, package it.** -/
theorem packageSteps_performs (ctx : PackageContext) (c : Candidate) :
    (packageSteps ctx c).Performs (packageOne ctx c) := by
  refine Steps.Performs.ite _ (.atomic _) (Steps.Performs.tryCatch ?_ fun f => ?_)
  · exact (mintSteps_performs c.handler _).bind fun directory => fillSteps_performs _ _ _ _
  · exact Steps.Performs.ite _ (.atomic _) (.throw f)

/-! ### Steps below a directory -/

variable {d : TreePath}

theorem alongside_self (hnull : d.IsNullFree) : Alongside True d d :=
  ⟨fun _ => rfl, hnull, hnull⟩

theorem writeFile_localTo (hnull : d.IsNullFree) {rel : TreePath} (hrel : rel ≠ [])
    (content : FileContent) :
    (Steps.atomic (Build.writeFile (d ++ rel) content)).LocalTo d :=
  .atomic (.writeFile (alongside_self hnull) hrel content)

theorem storeSteps_localTo (hnull : d.IsNullFree) (captured : CapturedValue) :
    (captured.storeSteps d).LocalTo d := by
  refine (Steps.LocalTo.atomic (.enterDirectory (alongside_self hnull))).bind fun _ => ?_
  refine (writeFile_localTo hnull (List.cons_ne_nil _ _) _).bind fun _ => ?_
  exact (writeFile_localTo hnull (List.cons_ne_nil _ _) _).bind fun _ => .pure _

theorem synthesizeSteps_localTo (hnull : d.IsNullFree) (compiler : Compiler)
    (handler : Descriptor) : (synthesizeSteps compiler d handler).LocalTo d := by
  have hsource := handler.loaderSourcePath_ne_nil
  have hend : (do
      Steps.atomic <| Build.removeFile (d ++ handler.loaderSourcePath)
      Steps.atomic <| Build.writeFile (d ++ [entryFile])
        (.bytes (Utf8.encode (entrySource handler)))
      return (⟨handler.written, d ++ handler.loaderPath, d ++ [entryFile]⟩ : Synthesis) :
        Steps Synthesis).LocalTo d := by
    refine (Steps.LocalTo.atomic (.removeFile (alongside_self hnull) hsource)).bind fun _ => ?_
    exact (writeFile_localTo hnull (List.cons_ne_nil _ _) _).bind fun _ => .pure _
  unfold synthesizeSteps
  refine (writeFile_localTo hnull hsource _).bind fun _ => ?_
  refine Steps.LocalTo.ite _ ?_ (Steps.LocalTo.ite _ ?_ hend)
  · refine (Steps.LocalTo.atomic (Mirrors.get.bind fun _ _ _ => .tell _ _)).bind fun _ => ?_
    exact .done _
  · exact (Steps.LocalTo.atomic (.writeCompiled (alongside_self hnull)
      handler.loaderPath_ne_nil _)).bind fun _ => hend

/-- What is written before the hooks run is written below the directory. -/
theorem writeSteps_localTo (hnull : d.IsNullFree) (ctx : PackageContext) (c : Candidate)
    (attributes : List Attribute) : (writeSteps ctx c attributes d).LocalTo d := by
  unfold writeSteps
  refine (Steps.LocalTo.atomic (capture_mirrors _ _ _ _)).bind fun captured => ?_
  refine (storeSteps_localTo hnull captured).bind fun _ => ?_
  refine (writeFile_localTo hnull (List.cons_ne_nil _ _) _).bind fun _ => ?_
  refine (Steps.LocalTo.atomic
    (writeManifest_mirrors (alongside_self hnull) attributes)).bind fun _ => ?_
  exact (synthesizeSteps_localTo hnull ctx.compiler c.handler).bind fun _ => .pure captured

/-- A directory is filled by steps that see and change no more than what is below it. -/
theorem fillSteps_localTo (hnull : d.IsNullFree) (ctx : PackageContext) (c : Candidate)
    (hhooks : ∀ a ∈ attributes, a.build.IsLocal) :
    (fillSteps ctx c attributes d).LocalTo d := by
  rw [fillSteps_eq]
  refine (writeSteps_localTo hnull ctx c attributes).bind fun _ => ?_
  have hsteps : (hookSteps attributes d).LocalTo d :=
    (Steps.LocalTo.mapM fun a ha => .atomic (.onFiles (hhooks a ha))).bind fun _ => .pure _
  refine hsteps.bind fun _ => ?_
  exact (Steps.LocalTo.atomic (Mirrors.get.bind fun _ _ _ => .tell _ _)).bind fun _ => .pure _

theorem recordSteps_localTo (ctx : PackageContext) (handler : Descriptor) (f : Failure) :
    (recordSteps ctx handler f).LocalTo d := by
  unfold recordSteps
  exact .ite _ (.atomic ((Mirrors.tell _ _).seq (.pure rfl))) (.throw f)

end HandlerBundle
