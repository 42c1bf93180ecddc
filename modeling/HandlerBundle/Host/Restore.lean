import HandlerBundle.Closure.Capture
import HandlerBundle.Snapshot.Load

/-!
# Restoring a value on a host

A host reads the archive of a directory once and keeps its modules. Those that it cannot find in any
other way are taken from there, out of the archive that was read first among those that have them.
The value is loaded each time it is asked for, and it has to be something that can be called.

The modules of an archive are served by a finder, which is put behind the others first and then
entered in a table under the absolute path of its directory. So the host has two lists of what it
has read, and a step that fails leaves them as they were at that point.

## Main definitions

* `Finder`, `Host` — the archives that a host has read, and its files.
* `Hosting` — steps of a host.
* `Hosting.install` — reads the archive of a directory.
* `Hosting.restore` — the value of a directory.
* `Host.importModule` — imports a module out of the archives.
-/

namespace HandlerBundle

/-- The modules of an archive, and the directory that it comes from. -/
structure Finder where
  directory : TreePath
  records : List ModuleRecord
  deriving DecidableEq, Repr

/-- A host: its files, with the place of their root as it is shown to readers, the archives that it
has read, first one first, and the table of the directories that they come from, each with the place
of its archive among the others. -/
structure Host where
  place : String
  files : FileTree
  finders : List Finder
  installed : List (TreePath × Nat)

/-- Steps of a host. -/
abbrev Hosting (α : Type) := ExceptT Failure (StateM Host) α

/-- A module that was found in an archive. -/
structure FoundModule where
  name : String
  origin : String
  isPackage : Bool
  source : Bytes

namespace FoundModule

/-- The package that relative imports of the module start from. -/
def package (m : FoundModule) : String :=
  if m.isPackage then m.name else parentName m.name

end FoundModule

namespace Archive.DecodeError

/-- The error as a failure. -/
def failure (e : DecodeError) : Failure :=
  match e with
  | .badName _ => ⟨.foreign "UnicodeDecodeError", e.message⟩
  | _ => ⟨.foreign "RehydrationError", e.message⟩

end Archive.DecodeError

namespace Finder

/-- The record of a name; of several the last one counts. -/
def record? (f : Finder) (name : String) : Option ModuleRecord :=
  f.records.reverse.find? fun r => r.name == name

/-- The module of a name, with the root of files shown as `place`. -/
def find? (f : Finder) (place name : String) : Option FoundModule :=
  (f.record? name).map fun r =>
    ⟨name, "/".intercalate (place :: f.directory ++ [archiveFile, name]), r.isPackage, r.source⟩

end Finder

namespace Host

/-- A host that has read no archive. -/
def start (place : String) (files : FileTree) : Host := ⟨place, files, [], []⟩

/-- A path without steps back. -/
def resolvePath (path : TreePath) : TreePath :=
  path.foldl (fun done name => if name == ".." then done.dropLast else done ++ [name]) []

/-- The absolute path that a text has for those who work in a directory. Two slashes at its front
stay two, with an empty name between them; any other number is as good as one. -/
def absolutePath (workingDirectory : TreePath) (s : String) : TreePath :=
  let path := FileTree.pathOf s
  match (s.toList.takeWhile (· == '/')).length with
  | 0 => resolvePath (workingDirectory ++ path)
  | 2 => "" :: resolvePath path
  | _ => resolvePath path

/-- Reads a file of a directory. A second slash at the front of its path leads nowhere. -/
def readFile (host : Host) (directory : TreePath) (name : String) : Except Failure Bytes :=
  let path := directory.dropWhile (·.isEmpty) ++ [name]
  let refused := fun kind reason =>
    .error ⟨.foreign kind, reason ++ ": " ++
      quoted ("/".intercalate (host.place :: directory ++ [name]))⟩
  match host.files.bytes? path with
  | some bs => .ok bs
  | none =>
    if host.files.directories.contains path then
      refused "IsADirectoryError" "[Errno 21] Is a directory"
    else if host.files.files.any fun f => FileTree.isBelow path f.1 then
      refused "NotADirectoryError" "[Errno 20] Not a directory"
    else refused "FileNotFoundError" "[Errno 2] No such file or directory"

/-- Reads the archive of a directory. -/
def readArchive (host : Host) (directory : TreePath) : Except Failure Finder := do
  let bs ← host.readFile directory archiveFile
  let records ← (Archive.decode bs).mapError Archive.DecodeError.failure
  return ⟨directory, records⟩

/-- Loads the value of a directory, which is to be a function of the given type. -/
def readValue (host : Host) (h : Heap) (table : ModuleTable) (directory : TreePath)
    (functionType : String) : Except Failure (Heap × ObjectId) := do
  let bs ← host.readFile directory snapshotFile
  let (h, id) ← (h.load table bs).mapError LoadError.failure
  if h.isCallable id then return (h, id)
  else throw ⟨.foreign "RehydrationError",
    "rehydrated value is not a function of type " ++ functionType⟩

/-- Puts a finder behind the others. -/
def append (host : Host) (f : Finder) : Host :=
  { host with finders := host.finders ++ [f] }

/-- Enters the finder of a directory, which has the given place among the others, in the table. -/
def register (host : Host) (directory : TreePath) (i : Nat) : Host :=
  { host with installed := host.installed ++ [(directory, i)] }

end Host

namespace Hosting

/-- The place of the finder of a directory. The archive is read only if there is no finder for the
directory yet. -/
def install (directory : TreePath) : Hosting Nat := do
  let host ← get
  match host.installed.lookup directory with
  | some i => return i
  | none =>
    let f ← ofExcept (host.readArchive directory)
    modify (·.append f)
    modify (·.register directory host.finders.length)
    return host.finders.length

/-- The value of a directory. The host has the finder of the directory even if there is no such
value. -/
def restore (h : Heap) (table : ModuleTable) (directory : TreePath) (functionType : String) :
    Hosting (Heap × ObjectId) := do
  let _ ← install directory
  ofExcept ((← get).readValue h table directory functionType)

end Hosting

namespace Host

/-- The first module of a name among the archives. -/
def find? (host : Host) (name : String) : Option FoundModule :=
  host.finders.findSome? fun f => f.find? host.place name

/-- The names of a module and of the packages above it, from the top down. -/
def namePath (name : String) : List String :=
  let parts := components name
  (List.range parts.length).map fun i => joinComponents (parts.take (i + 1))

/-- Imports the modules of a path one after the other; all but the last have to be packages. The
module that was imported before is `last`. -/
def importPath (host : Host) (last : Option FoundModule) : List String → Except Failure FoundModule
  | [] =>
    match last with
    | some m => .ok m
    | none => .error ⟨.foreign "ValueError", "Empty module name"⟩
  | name :: rest =>
    let missing := "No module named " ++ quoted name
    let notPackage := match last with
      | some m => if m.isPackage then none else some m.name
      | none => none
    match notPackage with
    | some parent =>
      .error ⟨.foreign "ModuleNotFoundError",
        missing ++ "; " ++ quoted parent ++ " is not a package"⟩
    | none =>
      match host.find? name with
      | some m => importPath host (some m) rest
      | none => .error ⟨.foreign "ModuleNotFoundError", missing⟩

/-- Imports a module out of the archives. -/
def importModule (host : Host) (name : String) : Except Failure FoundModule :=
  host.importPath none (if name.isEmpty then [] else namePath name)

end Host

end HandlerBundle
