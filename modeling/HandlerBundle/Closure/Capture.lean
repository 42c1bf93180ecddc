import HandlerBundle.Closure.Compute
import HandlerBundle.Module.Archive
import HandlerBundle.Package.Workspace
import HandlerBundle.Snapshot.Save

/-!
# Capturing a value

A captured value is a snapshot of it and an archive of the modules in its closure. Both are written
side by side into a directory.

## Main definitions

* `CapturedValue` — the two byte strings, with the names of the modules.
* `capture` — captures a value.
* `CapturedValue.store` — writes a captured value into a directory.
-/

namespace HandlerBundle

/-- The part of the program that captures values. -/
def captureSource : String := "funcpack.closure"

/-- The file with the archive of modules. -/
def archiveFile : String := "closure-modules.bin"

/-- The file with the snapshot of the value. -/
def snapshotFile : String := "closure-value.bin"

/-- A value to be shipped, with the modules that it needs. -/
structure CapturedValue where
  snapshot : Bytes
  archive : Bytes
  modules : List String

/-- The remark that a module was passed over. -/
def skippedRemark (name : String) : Event :=
  .remark captureSource ("closure: module " ++ name ++ " not importable here; skipped")

/-- The closure of a value as a step of a build. -/
def buildClosure (h : Heap) (table : ModuleTable) (ex : Exclusion) (value : ObjectId) :
    Build (List ModuleRecord) := do
  let c := closure h table ex value
  c.skipped.forM fun name => Build.tell (skippedRemark name)
  Build.ofResult (c.records.mapError ClosureError.failure)

/-- The failure of a value whose modules have no archive. -/
def archiveFailure (e : Archive.EncodeError) : Failure :=
  ⟨.foreign "struct.error", e.message⟩

/-- Captures a value. -/
def capture (h : Heap) (table : ModuleTable) (ex : Exclusion) (value : ObjectId) :
    Build CapturedValue := do
  let records ← buildClosure h table ex value
  let snapshot ← Build.ofResult (h.serialize table value)
  let archive ← Build.ofResult ((Archive.encodeSorted records).mapError archiveFailure)
  let modules := records.map (·.name)
  Build.tell <| .ofKind captureSource "funcpack.closure.captured" .debug
    [("modules", .list (modules.map .text)), ("module_blob_bytes", .int archive.length),
      ("value_blob_bytes", .int snapshot.length)]
  return ⟨snapshot, archive, modules⟩

/-- Writes a captured value into a directory, or else into the one that was chosen before. -/
def CapturedValue.store (c : CapturedValue) (directory chosen : Option TreePath) :
    Build (TreePath × TreePath) := do
  match directory.or chosen with
  | none => throw ⟨.capture, "no directory to write closure blobs to"⟩
  | some target =>
    Build.enterDirectory target
    Build.writeFile (target ++ [archiveFile]) (.bytes c.archive)
    Build.writeFile (target ++ [snapshotFile]) (.bytes c.snapshot)
    return (target ++ [archiveFile], target ++ [snapshotFile])

end HandlerBundle
