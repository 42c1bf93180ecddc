import HandlerBundle.Constant
import HandlerBundle.Text.Dotted

/-!
# Trees of files

What a build writes is a tree of directories and files. A path is the list of names that lead to an
entry from the root.

## Main definitions

* `FileTree` — directories and files.
* `FileTree.makeDirectory?` — adds a directory with its parents, unless it is there.
* `FileTree.write`, `FileTree.remove`, `FileTree.content?` — files.
* `FileAccess`, `FileFault`, `FileTree.fault?` — why nothing can be done at a path.
-/

namespace HandlerBundle

/-- What a file holds. -/
inductive FileContent where
  | bytes (bs : Bytes)
  /-- The compiled form of a source. -/
  | compiled (source : Bytes)
  /-- The fixed part that every artifact comes with. -/
  | support
  deriving DecidableEq, Repr

/-- What is done at a path. -/
inductive FileAccess where
  /-- A directory is made there, with its parents. -/
  | make
  /-- The same where there is none, and nothing where there is one. -/
  | enter
  | write
  /-- The compiled form of a source is put there. -/
  | compile
  | remove
  deriving DecidableEq, Repr

/-- Why something cannot be done at a path. -/
inductive FileFault where
  | nullByte
  | isADirectory
  | notADirectory
  | notFound
  | isAFile
  /-- What is there would have to be replaced by a file. -/
  | notRegular
  deriving DecidableEq, Repr

/-- The names that lead to an entry from the root. -/
abbrev TreePath := List String

/-- A tree of files; the root is always there. -/
structure FileTree where
  directories : List TreePath
  files : List (TreePath × FileContent)

namespace FileTree

/-- No directories and no files. -/
def empty : FileTree := ⟨[], []⟩

/-- The names in a path that is written with slashes. A single dot leads nowhere. -/
def pathOf (s : String) : TreePath :=
  (splitAtMark '/' s).filter fun name => !name.isEmpty && name != "."

/-- A path written with slashes. -/
def writtenPath (path : TreePath) : String :=
  String.intercalate "/" path

/-- Whether a path leads to an entry. -/
def has (tree : FileTree) (path : TreePath) : Bool :=
  path.isEmpty || tree.directories.contains path || tree.files.any fun f => f.1 == path

/-- The directories on a path, from the top down. -/
def pathPrefixes (path : TreePath) : List TreePath :=
  (List.range path.length).map fun i => path.take (i + 1)

/-- Adds a directory and those that lead to it, unless there is an entry of that path. -/
def makeDirectory? (tree : FileTree) (path : TreePath) : Option FileTree :=
  if tree.has path then none
  else
    some { tree with
      directories := tree.directories ++ (pathPrefixes path).filter fun p => !tree.has p }

/-- Adds a directory and those that lead to it where they are not there. -/
def ensureDirectory (tree : FileTree) (path : TreePath) : FileTree :=
  (tree.makeDirectory? path).getD tree

/-- Writes a file. -/
def write (tree : FileTree) (path : TreePath) (content : FileContent) : FileTree :=
  { tree with files := (tree.files.filter fun f => f.1 != path) ++ [(path, content)] }

/-- Removes a file. -/
def remove (tree : FileTree) (path : TreePath) : FileTree :=
  { tree with files := tree.files.filter fun f => f.1 != path }

/-- What the file of a path holds. -/
def content? (tree : FileTree) (path : TreePath) : Option FileContent :=
  (tree.files.find? fun f => f.1 == path).map Prod.snd

/-- The bytes of the file of a path. -/
def bytes? (tree : FileTree) (path : TreePath) : Option Bytes :=
  match tree.content? path with
  | some (.bytes bs) => some bs
  | _ => none

/-! ### What cannot be done -/

/-- What stands in the way to what is in a directory, whose path is given from its end: the nearest
entry on the way decides. -/
def barrier? (tree : FileTree) : TreePath → Option FileFault
  | [] => none
  | name :: up =>
    let path := (name :: up).reverse
    if tree.directories.contains path then none
    else if (tree.content? path).isSome then some .notADirectory
    else some ((tree.barrier? up).getD .notFound)

/-- Why something cannot be done at a path. A directory is made with its parents, so it is enough
that no file is in the way. -/
def fault? (tree : FileTree) (access : FileAccess) (path : TreePath) : Option FileFault :=
  let isDirectory := path.isEmpty || tree.directories.contains path
  let isFile := (tree.content? path).isSome
  let barrier := tree.barrier? path.reverse.tail
  if path.any fun name => name.toList.contains '\x00' then some .nullByte
  else
    match access with
    | .make =>
      if isDirectory || isFile then some .isAFile
      else if barrier == some .notADirectory then barrier
      else none
    | .enter =>
      if isDirectory then none
      else if isFile then some .isAFile
      else if barrier == some .notADirectory then barrier
      else none
    | .write => if isDirectory then some .isADirectory else barrier
    | .compile => if isDirectory then some .notRegular else barrier
    | .remove =>
      if isDirectory then some .isADirectory
      else if isFile then none
      else some (barrier.getD .notFound)

/-! ### Paths below others -/

/-- Whether a path leads below another one. -/
def isBelow (path root : TreePath) : Bool :=
  path.length != root.length && root.isPrefixOf path

/-- The directories without entries. -/
def emptyDirectories (tree : FileTree) : List TreePath :=
  tree.directories.filter fun d =>
    !(tree.directories.any fun p => isBelow p d) && !(tree.files.any fun f => isBelow f.1 d)

end FileTree

end HandlerBundle
