import HandlerBundle.Text.CharSet

/-!
# Maps on characters given by runs

A `CharMap` sends some characters to another character or to several. The first kind is written
as a *run text*: hexadecimal numbers in fours, which give the distance from the start of the last
run to the start of this one, the length of the run less one, the step from one character of the
run to the next, and the image of its first character; the images advance by the same step. The
second kind is written as a *list text*: a character, the length of its image, and the image.

## Main definitions

* `CharMap.ofText` — the map that a run text and a list text describe.
* `CharMap.image?` — the image of a character that the map moves.
-/

namespace HandlerBundle

/-- Characters `first`, `first + step`, … up to `last` go to `image`, `image + step`, …. -/
structure CharRun where
  first : Nat
  last : Nat
  step : Nat
  image : Nat

/-- A map that moves some characters, to one character or to several. -/
structure CharMap where
  runs : Array CharRun
  lists : Array (Nat × List Char)

namespace CharMap

/-- Reads the runs of a run text; `last` is the start of the run before. -/
def readRuns (last : Nat) : List Nat → List CharRun
  | gap :: len :: step :: image :: rest =>
    ⟨last + gap, last + gap + len * step, step, image⟩ :: readRuns (last + gap) rest
  | _ => []

/-- Reads the entries of a list text, at most `fuel` of them. -/
def readLists : Nat → List Nat → List (Nat × List Char)
  | fuel + 1, code :: len :: rest =>
    (code, (rest.take len).map Char.ofNat) :: readLists fuel (rest.drop len)
  | _, _ => []

/-- The map that a run text and a list text describe. -/
def ofText (runText listText : String) : CharMap :=
  let numbers := hexNumbers listText
  ⟨(readRuns 0 (hexNumbers runText)).toArray, (readLists numbers.length numbers).toArray⟩

/-- Bisects the runs for the last one that starts at `n` or before. -/
def searchRun (runs : Array CharRun) (n lo hi : Nat) : Option CharRun :=
  if lo + 1 < hi then
    let mid := (lo + hi) / 2
    match runs[mid]? with
    | none => none
    | some r => if n < r.first then searchRun runs n lo mid else searchRun runs n mid hi
  else runs[lo]?
termination_by hi - lo
decreasing_by all_goals omega

/-- Bisects the lists for the entry of `n`. -/
def searchList (lists : Array (Nat × List Char)) (n lo hi : Nat) : Option (List Char) :=
  if lo < hi then
    let mid := (lo + hi) / 2
    match lists[mid]? with
    | none => none
    | some (code, image) =>
      if n < code then searchList lists n lo mid
      else if code < n then searchList lists n (mid + 1) hi
      else some image
  else none
termination_by hi - lo
decreasing_by all_goals omega

/-- Whether a run moves the code point `n`. -/
def inRun (r : CharRun) (n : Nat) : Bool :=
  r.first ≤ n && n ≤ r.last && (n - r.first) % r.step == 0

/-- The image of a character that the map moves. -/
def image? (m : CharMap) (c : Char) : Option (List Char) :=
  let n := c.toNat
  let one := match searchRun m.runs n 0 m.runs.size with
    | some r => if inRun r n then some r else none
    | none => none
  match one with
  | some r => some [Char.ofNat (r.image + (n - r.first))]
  | none => searchList m.lists n 0 m.lists.size

end CharMap

end HandlerBundle
