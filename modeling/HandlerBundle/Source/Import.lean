import HandlerBundle.Source.Statement
import HandlerBundle.Text.Dotted

/-!
# The imports of a source

The modules that the imports of a source name, level by level: first those of the statements at the
top, then those one node below, and so on, and in their order within a level. An import of names
from a module also names what could be modules below it. A relative import is resolved against the
package of the source.

## Main definitions

* `resolveRelative` — the module that a relative import names.
* `Statement.importLevels` — the imports of a statement, level by level.
* `importedModules` — the modules that the imports of a source name.
-/

namespace HandlerBundle

/-- The module that an import names, so many packages up from the given one; one package up is the
package itself. An import from above the topmost package cuts components off the end of what is
left. -/
def resolveRelative (package : String) (level : Int) (module : Option String) : String :=
  let parts := if package.isEmpty then [] else components package
  let kept :=
    if 1 < level then
      let stop : Int := parts.length - (level - 1)
      if 0 ≤ stop then parts.take stop.toNat else parts.take ((parts.length : Int) + stop).toNat
    else parts
  let base := joinComponents kept
  match module with
  | some m => if m.isEmpty then base else if base.isEmpty then m else base ++ "." ++ m
  | none => base

/-- The modules that an import from a module names: itself, and one below it for each name. -/
def modulesFrom (module : String) (names : List String) : List String :=
  if module.isEmpty then [] else module :: names.map fun name => module ++ "." ++ name

namespace Statement

/-- The modules that a statement itself names, in a source of the given package. -/
def importedBy (package : String) : Statement → List String
  | .importNames names => names
  | .importFrom level module names =>
    modulesFrom (if level = 0 then module.getD "" else resolveRelative package level module) names
  | _ => []

/-- Joins lists level by level. -/
def joinLevels : List (List String) → List (List String) → List (List String)
  | [], ys => ys
  | xs, [] => xs
  | x :: xs, y :: ys => (x ++ y) :: joinLevels xs ys

mutual

/-- The modules that the imports of a statement name, level by level from the statement itself. -/
def importLevels (package : String) : Statement → List (List String)
  | .scope _ body | .block body => [] :: levelsOf package body
  | s => [s.importedBy package]

/-- The modules that the imports of statements name, level by level. -/
def levelsOf (package : String) : List Statement → List (List String)
  | [] => []
  | s :: ss => joinLevels (importLevels package s) (levelsOf package ss)

end

end Statement

/-- The modules that the imports of a source name. The package of the source is the module itself if
it is a package, and its parent otherwise. -/
def importedModules (reader : SourceReader) (name : String) (isPackage : Bool) (source : Bytes) :
    Except SourceError (List String) :=
  (parseSource reader source).map fun ss =>
    (Statement.levelsOf (if isPackage then name else parentName name) ss).flatten

end HandlerBundle
