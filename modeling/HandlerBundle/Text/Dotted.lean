/-!
# Dotted names

A dotted name is a text cut at its dots into components; the empty text has one empty component.
The parent of a name is what stands before its last dot.

## Main definitions

* `components`, `joinComponents` — a name as its components, and back.
* `parentName`, `topName` — all but the last component, and the first one.
-/

namespace HandlerBundle

/-- Cuts characters at a mark; `part` holds the current part, backwards. -/
def cutAt (mark : Char) (part : List Char) : List Char → List (List Char)
  | [] => [part.reverse]
  | c :: rest =>
    if c == mark then part.reverse :: cutAt mark [] rest else cutAt mark (c :: part) rest

/-- The parts of a text between the marks. -/
def splitAtMark (mark : Char) (s : String) : List String :=
  (cutAt mark [] s.toList).map String.ofList

/-- The components of a dotted name. -/
def components (name : String) : List String :=
  splitAtMark '.' name

/-- Components joined by dots. -/
def joinComponents (parts : List String) : String :=
  ".".intercalate parts

/-- The first component of a dotted name. -/
def topName (name : String) : String :=
  String.ofList (name.toList.takeWhile (· != '.'))

/-- What stands before the last dot of a name; empty if it has none. -/
def parentName (name : String) : String :=
  joinComponents (components name).dropLast

end HandlerBundle
