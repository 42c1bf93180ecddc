import HandlerBundle.Number.Binary64

/-!
# Shortest decimals

The shortest decimal of a binary number has the fewest digits among the decimals that round back
to it, and is the nearest to it of those. A `Layout` then says how the digits are written: where
positional notation ends, and how exponents look.

## Main definitions

* `Binary64.shortest` — digits and exponent of the shortest decimal.
* `Layout`, `Layout.write` — the written form of a number.
-/

namespace HandlerBundle

namespace Binary64

/-- The position of the leading decimal digit of `m * 2 ^ q`: the least `p` such that the number is
below `10 ^ p`. -/
def leadingPosition (m : Nat) (q : Int) : Int :=
  -- Every positive number of the format is above `10 ^ (-400)`.
  let scaled := if 0 ≤ q then m * tenTo 400 * twoTo q.toNat else m * tenTo 400 / twoTo (-q).toNat
  (decimalLength scaled : Int) - 400

/-- Whether `d * 10 ^ k` rounds to `m * 2 ^ q`, as a comparison in quarters of the last binary
place. The interval of the reals that round there holds its ends when `m` is even, and reaches only
half as far downwards when `m` is the least significand of its exponent. -/
def roundsBack (m : Nat) (q : Int) (d : Nat) (k : Int) : Bool :=
  let below := if m = twoTo 52 ∧ -1074 < q then 1 else 2
  let e := q - 2
  let unit := (if 0 ≤ e then twoTo e.toNat else 1) * (if 0 ≤ k then 1 else tenTo (-k).toNat)
  let point := d * (if 0 ≤ k then tenTo k.toNat else 1) * (if 0 ≤ e then 1 else twoTo (-e).toNat)
  let low := (4 * m - below) * unit
  let high := (4 * m + 2) * unit
  if m % 2 = 0 then low ≤ point && point ≤ high else low < point && point < high

/-- The greatest `d` with `d * 10 ^ k ≤ m * 2 ^ q`, and whether the number is nearer to the next
one (an exact half counts for the even one). -/
def gridBelow (m : Nat) (q k : Int) : Nat × Bool :=
  let num := m * (if 0 ≤ q then twoTo q.toNat else 1) * (if 0 ≤ k then 1 else tenTo (-k).toNat)
  let den := (if 0 ≤ q then 1 else twoTo (-q).toNat) * (if 0 ≤ k then tenTo k.toNat else 1)
  let d := num / den
  let r := 2 * (num % den)
  (d, den < r || (r == den && d % 2 == 1))

/-- Tries the decimals of `count` digits, then of more, at most `tries` times; `top` is the position
of the leading digit. -/
def searchShortest (m : Nat) (q top : Int) (count : Nat) : Nat → Nat × Int
  | 0 => (0, 0)
  | tries + 1 =>
    let k := top - count
    let (d, nearerNext) := gridBelow m q k
    let low := roundsBack m q d k
    let high := roundsBack m q (d + 1) k
    if low && high then (if nearerNext then d + 1 else d, k)
    else if low then (d, k)
    else if high then (d + 1, k)
    else searchShortest m q top (count + 1) tries

/-- Removes trailing zeros of `d * 10 ^ k`. -/
def dropZeros (d : Nat) (k : Int) : Nat × Int :=
  if d = 0 then (0, 0)
  else if d % 10 = 0 then dropZeros (d / 10) (k + 1)
  else (d, k)
termination_by d

/-- Digits and exponent of the shortest decimal that rounds to `m * 2 ^ q`. -/
def shortest (m : Nat) (q : Int) : Nat × Int :=
  if m = 0 then (0, 0)
  else
    let (d, k) := searchShortest m q (leadingPosition m q) 1 18
    dropZeros d k

end Binary64

/-- How numbers are written. A number whose leading digit has a place from `leastPlace` up to but
not including `placeLimit` is written positionally, and any other with an exponent. -/
structure Layout where
  leastPlace : Int
  placeLimit : Int
  /-- The least number of digits of an exponent. -/
  exponentWidth : Nat
  notANumber : String
  infinity : String
  negativeInfinity : String

namespace Layout

/-- Pads digits with zeros on the left. -/
def padded (width : Nat) (digits : List Char) : List Char :=
  List.replicate (width - digits.length) '0' ++ digits

/-- The decimal digits of a natural number. -/
def digitsOf (n : Nat) : List Char :=
  (Nat.toDigits 10 n)

/-- The written form of `d * 10 ^ k`, where `d` has no trailing zeros. -/
def writeDecimal (layout : Layout) (d : Nat) (k : Int) : List Char :=
  let digits := digitsOf d
  let place := if d = 0 then 0 else k + digits.length - 1
  if layout.leastPlace ≤ place ∧ place < layout.placeLimit then
    if 0 ≤ k then digits ++ List.replicate k.toNat '0' ++ ['.', '0']
    else
      let whole := digits.length - (-k).toNat
      if whole = 0 then
        '0' :: '.' :: List.replicate ((-k).toNat - digits.length) '0' ++ digits
      else digits.take whole ++ '.' :: digits.drop whole
  else
    let fraction := digits.drop 1
    let mantissa := digits.take 1 ++ (if fraction.isEmpty then [] else '.' :: fraction)
    let exponent := padded layout.exponentWidth (digitsOf place.natAbs)
    mantissa ++ ['e', if place < 0 then '-' else '+'] ++ exponent

/-- The written form of a number. -/
def write (layout : Layout) (x : Binary64) : String :=
  match x.view with
  | .notANumber => layout.notANumber
  | .infinite negative => if negative then layout.negativeInfinity else layout.infinity
  | .finite negative m q =>
    let (d, k) := Binary64.shortest m q
    let body := layout.writeDecimal d k
    String.ofList (if negative then '-' :: body else body)

/-- The layout of numbers in messages and texts. -/
def plain : Layout := ⟨-4, 16, 2, "nan", "inf", "-inf"⟩

end Layout

end HandlerBundle
