import HandlerBundle.Package.Batch
import HandlerBundle.Package.Pool

/-!
# Packaging a batch with several workers

With more than one worker, the candidates of a batch are the tasks of a pool. Every attempt to make
a directory is one step, and so is every file that is written or removed, every hook and every event
that is told. A capture looks at no files, so it is one step as well.

## Main definitions

* `mintSteps`, `fillSteps`, `packageSteps` — packaging a candidate step by step.
* `packagePool` — a batch as the tasks of a pool.
* `BatchOutcome` — what a batch can come to.
-/

namespace HandlerBundle

/-- Makes the directory of a handler, under the first of some names that is free when it is
tried. -/
def mintSteps (handler : Descriptor) : List String → Steps TreePath
  | [] => throw ⟨.packaging, "could not allocate an output directory for " ++ handler.qualifiedName⟩
  | name :: names => do
    if ← Steps.atomic (tryDirectory (FileTree.pathOf name)) then return FileTree.pathOf name
    else mintSteps handler names

/-- Writes a captured value into a directory. -/
def CapturedValue.storeSteps (c : CapturedValue) (directory : TreePath) :
    Steps (TreePath × TreePath) := do
  Steps.atomic <| Build.enterDirectory directory
  Steps.atomic <| Build.writeFile (directory ++ [archiveFile]) (.bytes c.archive)
  Steps.atomic <| Build.writeFile (directory ++ [snapshotFile]) (.bytes c.snapshot)
  return (directory ++ [archiveFile], directory ++ [snapshotFile])

/-- Writes the loader and the entry point of a handler into a directory. -/
def synthesizeSteps (compiler : Compiler) (directory : TreePath) (handler : Descriptor) :
    Steps Synthesis := do
  let sourceFile := handler.loaderName ++ ".py"
  let sourcePath := directory ++ FileTree.pathOf sourceFile
  let loader := directory ++ FileTree.pathOf (handler.loaderName ++ ".pyc")
  let source := Utf8.encode (loaderSource handler)
  Steps.atomic <| Build.writeFile sourcePath (.bytes source)
  let outcome := compiler sourceFile source
  if outcome.exitCode != 0 then
    Steps.atomic do
      Build.tell <| .ofKind synthesisSource "funcpack.compile.failed" .error
        [("handler", .text handler.qualifiedName), ("exit_code", .int outcome.exitCode),
          ("source", .text ((← get).shown sourcePath))]
    throw outcome.failure
  if outcome == .compiled then Steps.atomic <| Build.writeCompiled loader source
  Steps.atomic <| Build.removeFile sourcePath
  let entry := directory ++ [entryFile]
  Steps.atomic <| Build.writeFile entry (.bytes (Utf8.encode (entrySource handler)))
  return ⟨handler.written, loader, entry⟩

/-- Runs what attributes do after a build, and returns the names of the artifacts. -/
def hookSteps (attributes : List Attribute) (directory : TreePath) : Steps (List String) := do
  let artifacts ← attributes.mapM fun a => Steps.atomic (Build.onFiles (a.build directory))
  return artifacts.flatten

/-- Fills the directory of a candidate with the given attributes. -/
def fillSteps (ctx : PackageContext) (c : Candidate) (attributes : List Attribute)
    (directory : TreePath) : Steps PackageResult := do
  let handler := c.handler
  let captured ← Steps.atomic (capture ctx.heap ctx.table ctx.settings.exclusion c.value)
  let _ ← captured.storeSteps directory
  Steps.atomic <| Build.writeFile (directory ++ [supportFile]) .support
  Steps.atomic <| writeManifest directory attributes
  let _ ← synthesizeSteps ctx.compiler directory handler
  let artifacts ← hookSteps attributes directory
  Steps.atomic do
    Build.tell <| .ofKind packageSource "funcpack.handler.packaged" .info
      [("handler", .text handler.qualifiedName),
        ("output_dir", .text ((← get).shown directory)),
        ("modules", .int captured.modules.length)]
  return ⟨handler.scope, handler.name, some directory, [], artifacts⟩

/-- Rejects a candidate with errors in its bindings. -/
def rejectSteps (handler : Descriptor) (errors : List String) : Steps PackageResult :=
  Steps.atomic do
    Build.tell <| .ofKind packageSource "funcpack.handler.rejected" .warning
      [("handler", .text handler.qualifiedName), ("errors", .list (errors.map .text))]
    return .failed handler errors

/-- Records a failure of packaging, if failures are isolated. -/
def recordSteps (ctx : PackageContext) (handler : Descriptor) (f : Failure) :
    Steps PackageResult :=
  if ctx.settings.isolateFailures && f.kind.isPackaging then
    Steps.atomic do
      Build.tell <| .ofKind packageSource "funcpack.handler.failed" .error
        [("handler", .text handler.qualifiedName),
          ("error", .text (f.kind.name ++ ": " ++ f.message))]
      return .failed handler [f.message]
  else throw f

/-- Builds the artifact of a candidate with the given attributes, in a directory under one of some
names. -/
def buildSteps (ctx : PackageContext) (c : Candidate) (attributes : List Attribute)
    (names : List String) : Steps PackageResult :=
  tryCatch (do
    let directory ← mintSteps c.handler names
    fillSteps ctx c attributes directory) (recordSteps ctx c.handler)

/-- Packages one candidate. -/
def packageSteps (ctx : PackageContext) (c : Candidate) : Steps PackageResult :=
  let binding := resolve c.handler c.attributes
  let errors := binding.errors.map (·.message)
  if !errors.isEmpty then rejectSteps c.handler errors
  else buildSteps ctx c binding.attributes (directoryNames c.handler)

/-- The candidates of a batch as the tasks of a pool, in a new directory at a place. -/
def packagePool (ctx : PackageContext) (cs : List Candidate) (place : String) :
    Pool PackageResult where
  workspace := ((Build.tell <| .ofKind packageSource "funcpack.build.start" .info
    [("build_dir", .text place),
      ("handlers", .list (cs.map fun c => .text c.handler.qualifiedName))]).outcome place).2
  tasks := cs.map fun c => .waiting (packageSteps ctx c)
  raised := none

/-- What a batch can come to in a new directory at a place. With more than one worker and more than
one candidate it depends on the order of their steps. -/
inductive BatchOutcome (ctx : PackageContext) (cs : List Candidate) (place : String) :
    Except Failure (List PackageResult) → Workspace → Prop
  | sequential {result w} (hmany : ¬ (1 < ctx.settings.maxWorkers ∧ 1 < cs.length))
      (hrun : (packageAll ctx cs).outcome place = (result, w)) : BatchOutcome ctx cs place result w
  | concurrent {result pool} (hmany : 1 < ctx.settings.maxWorkers ∧ 1 < cs.length)
      (hrun : (packagePool ctx cs place).Reaches ctx.settings.maxWorkers.toNat pool)
      (hresult : pool.outcome? = some result) : BatchOutcome ctx cs place result pool.workspace

end HandlerBundle
