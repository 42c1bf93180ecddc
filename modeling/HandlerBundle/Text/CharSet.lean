/-!
# Sets of characters given by ranges

A `CharSet` holds the code points of a character property as ascending, disjoint ranges. The
properties of the Unicode character database (version 14) that this library needs are written in
their modules as *gap texts*: hexadecimal numbers, taken in pairs, each pair giving the distance
from the end of the last range to the start of the next one and the length of that range less one.

## Main definitions

* `CharSet.ofGaps` — the set that a gap text describes.
* `CharSet.contains` — membership, by bisection.
-/

namespace HandlerBundle

/-- The value of a hexadecimal digit in lower case. -/
def hexValue? (c : Char) : Option Nat :=
  if '0' ≤ c ∧ c ≤ '9' then some (c.toNat - 48)
  else if 'a' ≤ c ∧ c ≤ 'f' then some (c.toNat - 87)
  else none

/-- The hexadecimal numbers of a text, with anything but digits between them. -/
def hexNumbers (text : String) : List Nat :=
  let step := fun (done : List Nat × Option Nat) (c : Char) =>
    match hexValue? c, done.2 with
    | some d, some n => (done.1, some (16 * n + d))
    | some d, none => (done.1, some d)
    | none, some n => (n :: done.1, none)
    | none, none => done
  let (numbers, last) := text.toList.foldl step ([], none)
  (last.toList ++ numbers).reverse

/-- A set of code points as ascending ranges `(first, last)`, both ends included. -/
structure CharSet where
  ranges : Array (Nat × Nat)

namespace CharSet

/-- Turns gaps and lengths into ranges; `last` is the end of the range before. -/
def rangesOfGaps (last : Nat) : List Nat → List (Nat × Nat)
  | gap :: len :: rest => (last + gap, last + gap + len) :: rangesOfGaps (last + gap + len) rest
  | _ => []

/-- The set that a gap text describes. -/
def ofGaps (text : String) : CharSet :=
  ⟨(rangesOfGaps 0 (hexNumbers text)).toArray⟩

/-- Bisects the ranges with index in `[lo, hi)` for one that holds `n`. -/
def search (ranges : Array (Nat × Nat)) (n lo hi : Nat) : Bool :=
  if lo < hi then
    let mid := (lo + hi) / 2
    match ranges[mid]? with
    | none => false
    | some (first, last) =>
      if n < first then search ranges n lo mid
      else if last < n then search ranges n (mid + 1) hi
      else true
  else false
termination_by hi - lo

/-- Whether the set holds the character. -/
def contains (s : CharSet) (c : Char) : Bool :=
  search s.ranges c.toNat 0 s.ranges.size

end CharSet

end HandlerBundle
