import HandlerBundle.Loader.Source
import HandlerBundle.Package.Compiler
import HandlerBundle.Package.Workspace

/-!
# The directory of a handler

Every handler gets a directory of its own, named after it where the name is free. The loader is
written there and compiled, and its source is removed after that; then the entry point is written.

## Main definitions

* `directoryNames`, `mintDirectory` — the directory of a handler.
* `Synthesis`, `synthesize` — writes the loader and the entry point.
-/

namespace HandlerBundle

/-- The part of the program that writes loaders. -/
def synthesisSource : String := "funcpack.shim"

/-- The file with the entry point. -/
def entryFile : String := "run.py"

/-- The names that are tried for the directory of a handler, in order. -/
def directoryNames (handler : Descriptor) : List String :=
  handler.name :: handler.qualifiedName ::
    (List.range' 2 98).map fun i => handler.qualifiedName ++ "-" ++ toString i

/-- Makes a directory, with those that lead to it, unless there is an entry of that path. -/
def tryDirectory (path : TreePath) : Build Bool := do
  let w ← get
  match w.files.fault? .make path with
  | some .isAFile => return false
  | some fault => throw (fault.failure (w.shown path))
  | none =>
    modify fun w => { w with files := w.files.ensureDirectory path }
    return true

/-- Makes the directory of a handler, under the first of some names that is free. -/
def mintAmong (handler : Descriptor) : List String → Build TreePath
  | [] => throw ⟨.packaging, "could not allocate an output directory for " ++ handler.qualifiedName⟩
  | name :: names => do
    if ← tryDirectory (FileTree.pathOf name) then return FileTree.pathOf name
    else mintAmong handler names

/-- Makes the directory of a handler. -/
def mintDirectory (handler : Descriptor) : Build TreePath :=
  mintAmong handler (directoryNames handler)

/-- What was written for a handler. -/
structure Synthesis where
  signature : WrittenSignature
  loader : TreePath
  entry : TreePath

/-- Writes the loader and the entry point of a handler into a directory. A source that cannot be
compiled stays where it is. -/
def synthesize (compiler : Compiler) (directory : TreePath) (handler : Descriptor) :
    Build Synthesis := do
  let sourceFile := handler.loaderName ++ ".py"
  let sourcePath := directory ++ FileTree.pathOf sourceFile
  let loader := directory ++ FileTree.pathOf (handler.loaderName ++ ".pyc")
  let source := Utf8.encode (loaderSource handler)
  Build.writeFile sourcePath (.bytes source)
  let outcome := compiler sourceFile source
  if outcome.exitCode != 0 then
    Build.tell <| .ofKind synthesisSource "funcpack.compile.failed" .error
      [("handler", .text handler.qualifiedName), ("exit_code", .int outcome.exitCode),
        ("source", .text ((← get).shown sourcePath))]
    throw outcome.failure
  if outcome == .compiled then Build.writeCompiled loader source
  Build.removeFile sourcePath
  let entry := directory ++ [entryFile]
  Build.writeFile entry (.bytes (Utf8.encode (entrySource handler)))
  return ⟨handler.written, loader, entry⟩

end HandlerBundle
