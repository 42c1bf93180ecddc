import HandlerBundle.Binding.Candidate
import HandlerBundle.Binding.Resolution
import HandlerBundle.Closure.Capture
import HandlerBundle.Package.Artifact
import HandlerBundle.Package.Manifest
import HandlerBundle.Package.Settings

/-!
# Packaging a batch

The candidates of an input are packaged one after the other, each into a directory of its own. A
candidate whose bindings are in error is rejected, and that concerns no other one. A failure of
packaging ends the batch, unless failures are isolated: then it is recorded for its candidate.
What fails otherwise always ends the batch.

## Main definitions

* `PackageResult` — what becomes of one candidate.
* `fillDirectory` — fills the directory of a candidate.
* `packageOne`, `packageAll` — packages a candidate, and a batch of them.
* `packageInput` — packages an input.
-/

namespace HandlerBundle

/-- What becomes of one candidate. It has a directory exactly if it has no errors. -/
structure PackageResult where
  scope : String
  name : String
  directory : Option TreePath
  errors : List String
  artifacts : List String
  deriving DecidableEq, Repr

/-- What packaging needs to know: the objects, the modules at hand, the settings and a compiler. -/
structure PackageContext where
  heap : Heap
  table : ModuleTable
  settings : Settings
  compiler : Compiler

/-- The part of the program that packages. -/
def packageSource : String := "funcpack.orchestrator"

/-- The file that every artifact comes with. -/
def supportFile : String := "funcpack_rehydrate.py"

namespace PackageResult

/-- The result of a candidate that was not packaged. -/
def failed (handler : Descriptor) (errors : List String) : PackageResult :=
  ⟨handler.scope, handler.name, none, errors, []⟩

end PackageResult

/-- Runs what attributes do after a build, and returns the names of the artifacts. -/
def runHooks (attributes : List Attribute) (directory : TreePath) : Build (List String) := do
  let artifacts ← attributes.mapM fun a => Build.onFiles (a.build directory)
  return artifacts.flatten

/-- Writes the manifest of a handler with the given attributes into a directory. -/
def writeManifest (directory : TreePath) (attributes : List Attribute) : Build Unit := do
  let manifest ← Build.ofResult (( Manifest.ofAttributes attributes).mapError Complaint.failure)
  Build.writeFile (directory ++ [Manifest.fileName]) (.bytes (Utf8.encode manifest.encode))

/-- Fills the directory of a candidate with the given attributes. -/
def fillDirectory (ctx : PackageContext) (c : Candidate) (attributes : List Attribute)
    (directory : TreePath) : Build PackageResult := do
  let handler := c.handler
  let captured ← capture ctx.heap ctx.table ctx.settings.exclusion c.value
  let _ ← captured.store (some directory) none
  Build.writeFile (directory ++ [supportFile]) .support
  writeManifest directory attributes
  let _ ← synthesize ctx.compiler directory handler
  let artifacts ← runHooks attributes directory
  Build.tell <| .ofKind packageSource "funcpack.handler.packaged" .info
    [("handler", .text handler.qualifiedName),
      ("output_dir", .text ((← get).shown directory)),
      ("modules", .int captured.modules.length)]
  return ⟨handler.scope, handler.name, some directory, [], artifacts⟩

/-- Builds the artifact of a candidate with the given attributes, in a directory of its own. -/
def buildArtifact (ctx : PackageContext) (c : Candidate) (attributes : List Attribute) :
    Build PackageResult := do
  let directory ← mintDirectory c.handler
  fillDirectory ctx c attributes directory

/-- Packages one candidate. -/
def packageOne (ctx : PackageContext) (c : Candidate) : Build PackageResult := do
  let handler := c.handler
  let binding := resolve handler c.attributes
  let errors := binding.errors.map (·.message)
  if !errors.isEmpty then
    Build.tell <| .ofKind packageSource "funcpack.handler.rejected" .warning
      [("handler", .text handler.qualifiedName), ("errors", .list (errors.map .text))]
    return .failed handler errors
  else
    tryCatch (buildArtifact ctx c binding.attributes) fun f => do
      if ctx.settings.isolateFailures && f.kind.isPackaging then
        Build.tell <| .ofKind packageSource "funcpack.handler.failed" .error
          [("handler", .text handler.qualifiedName),
            ("error", .text (f.kind.name ++ ": " ++ f.message))]
        return .failed handler [f.message]
      else throw f

/-- Packages a batch of candidates. -/
def packageAll (ctx : PackageContext) (cs : List Candidate) : Build (List PackageResult) := do
  Build.tell <| .ofKind packageSource "funcpack.build.start" .info
    [("build_dir", .text (← get).place),
      ("handlers", .list (cs.map fun c => .text c.handler.qualifiedName))]
  cs.mapM (packageOne ctx)

/-- Packages an input into a new directory at a place. What it comes to stands beside what is in the
directory, which is not made for an input that has an element of the wrong shape. -/
def packageInput (ctx : PackageContext) (input : ObjectId) (place : String) :
    Except Failure (List PackageResult) × Option Workspace :=
  match ctx.heap.candidates input with
  | .error f => (.error f, none)
  | .ok cs =>
    let (results, w) := (packageAll ctx cs).outcome place
    (results, some w)

end HandlerBundle
