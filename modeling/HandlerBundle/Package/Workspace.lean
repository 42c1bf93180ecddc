import HandlerBundle.Binding.Attribute
import HandlerBundle.Journal.Event
import HandlerBundle.Package.FileTree

/-!
# The workspace of a build

A build writes files and tells of events. A step that fails leaves what was written and told before
it in place.

## Main definitions

* `Workspace` — the files and the events.
* `Build` — steps of a build.
* `Build.atPath` — a change of the files at a path, which may fail.
-/

namespace HandlerBundle

/-- What a build leaves behind: its files, and its events with the latest first. -/
structure Workspace where
  /-- The place of the root of the files, as it is shown to readers. -/
  place : String
  files : FileTree
  events : List Event

/-- Steps of a build. -/
abbrev Build (α : Type) := ExceptT Failure (StateM Workspace) α

namespace Workspace

/-- Nothing written at a place, and nothing told. -/
def empty (place : String) : Workspace := ⟨place, .empty, []⟩

/-- A path as it is shown to readers. -/
def shown (w : Workspace) (path : TreePath) : String :=
  "/".intercalate (w.place :: path)

/-- The events in their order. -/
def told (w : Workspace) : List Event := w.events.reverse

end Workspace

/-- The failure when something cannot be done at a path, which is shown as given. -/
def FileFault.failure (shown : String) : FileFault → Failure
  | .nullByte => ⟨.foreign "ValueError", "embedded null byte"⟩
  | .isADirectory => ⟨.foreign "IsADirectoryError", "[Errno 21] Is a directory: " ++ quoted shown⟩
  | .notADirectory =>
    ⟨.foreign "NotADirectoryError", "[Errno 20] Not a directory: " ++ quoted shown⟩
  | .notFound =>
    ⟨.foreign "FileNotFoundError", "[Errno 2] No such file or directory: " ++ quoted shown⟩
  | .isAFile => ⟨.foreign "FileExistsError", "[Errno 17] File exists: " ++ quoted shown⟩
  | .notRegular =>
    ⟨.foreign "FileExistsError", shown ++ " is a non-regular file and will be changed into a " ++
      "regular one if import writes a byte-compiled file to it"⟩

namespace Build

/-- Tells of an event. -/
def tell (e : Event) : Build Unit :=
  modify fun w => { w with events := e :: w.events }

/-- A result as a step. -/
def ofResult {α : Type} : Except Failure α → Build α
  | .ok value => return value
  | .error f => throw f

/-- Changes the files by what is done at a path, unless it cannot be done. -/
def atPath (access : FileAccess) (path : TreePath) (change : FileTree → FileTree) :
    Build Unit := do
  let w ← get
  match w.files.fault? access path with
  | some fault => throw (fault.failure (w.shown path))
  | none => modify fun w => { w with files := change w.files }

/-- Makes a directory, with those that lead to it, where it is not there. -/
def enterDirectory (path : TreePath) : Build Unit :=
  atPath .enter path fun t => t.ensureDirectory path

/-- Writes a file. -/
def writeFile (path : TreePath) (content : FileContent) : Build Unit :=
  atPath .write path fun t => t.write path content

/-- Puts the compiled form of a source into a file. -/
def writeCompiled (path : TreePath) (source : Bytes) : Build Unit :=
  atPath .compile path fun t => t.write path (.compiled source)

/-- Removes a file. -/
def removeFile (path : TreePath) : Build Unit :=
  atPath .remove path fun t => t.remove path

/-- Steps that see nothing but the files. -/
def onFiles {α : Type} (steps : ExceptT Failure (StateM FileTree) α) : Build α :=
  ExceptT.mk fun w =>
    let (result, files) := steps.run.run w.files
    (result, { w with files })

/-- What the steps come to, from an empty workspace at a place on. -/
def outcome {α : Type} (steps : Build α) (place : String) : Except Failure α × Workspace :=
  steps.run.run ( Workspace.empty place)

end Build

end HandlerBundle
