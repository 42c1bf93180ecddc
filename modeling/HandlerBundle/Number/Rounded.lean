import HandlerBundle.Number.Shortest

/-!
# Decimals of a given length

A number is written with a given number of decimal places, or with a given number of digits before
an exponent; or with a given number of digits in whichever of the two forms is shorter. It is
rounded to the nearest decimal of that length, an exact half going to the even one.

## Main definitions

* `Binary64.places`, `Binary64.leadingDigits` — the digits of a number, rounded.
* `DecimalForm`, `DecimalForm.write` — the three forms.
-/

namespace HandlerBundle

namespace Binary64

/-- The quotient of two natural numbers, scaled by a power of ten, to the nearest integer. -/
def roundDecimal (num den : Nat) (exponent : Int) : Nat :=
  if 0 ≤ exponent then roundDiv (num * tenTo exponent.toNat) den
  else roundDiv num (den * tenTo (-exponent).toNat)

/-- The number `m * 2 ^ q` as a quotient. -/
def quotient (m : Nat) (q : Int) : Nat × Nat :=
  if 0 ≤ q then (m * twoTo q.toNat, 1) else (m, twoTo (-q).toNat)

/-- The multiple of `10 ^ (-count)` that is nearest to `m * 2 ^ q`, as a number of such units. -/
def places (m : Nat) (q : Int) (count : Nat) : Nat :=
  let (num, den) := quotient m q
  roundDecimal num den count

/-- The nearest decimal to `m * 2 ^ q` with `count` digits, and the place of its leading digit,
which is zero for a digit before the point. -/
def leadingDigits (m : Nat) (q : Int) (count : Nat) : Nat × Int :=
  if m = 0 then (0, 0)
  else
    let (num, den) := quotient m q
    let top := leadingPosition m q
    let d := roundDecimal num den (count - top)
    -- Rounding up can add a digit.
    if d = tenTo count then (d / 10, top) else (d, top - 1)

end Binary64

/-- The forms of a decimal of given length. -/
inductive DecimalForm where
  | positional
  | scientific
  /-- Positional unless the exponent is small or reaches the number of digits. -/
  | general
  deriving DecidableEq, Repr

namespace DecimalForm

/-- Digits with a point before the last `count`, which is left out before none unless `keepPoint`
is set. -/
def pointed (digits : List Char) (count : Nat) (keepPoint : Bool) : List Char :=
  let digits := Layout.padded (count + 1) digits
  let whole := digits.take (digits.length - count)
  let fraction := digits.drop (digits.length - count)
  if fraction.isEmpty && !keepPoint then whole else whole ++ '.' :: fraction

/-- Digits without the zeros at their end. -/
def withoutFinalZeros (digits : List Char) : List Char :=
  (digits.reverse.dropWhile (· == '0')).reverse

/-- An exponent of at least two digits. -/
def exponentMark (place : Int) : List Char :=
  ['e', if place < 0 then '-' else '+'] ++ Layout.padded 2 (Layout.digitsOf place.natAbs)

/-- The general form of digits whose first one has the given place. -/
def writeGeneral (digits : List Char) (place : Int) (count : Nat) (alternate : Bool) :
    List Char :=
  let kept := if alternate then digits else withoutFinalZeros digits
  if place < -4 ∨ (count : Int) ≤ place then
    pointed (Layout.padded 1 kept) (kept.length - 1) alternate ++ exponentMark place
  else if place < 0 then
    pointed kept (kept.length + (-place).toNat - 1) alternate
  else
    let whole := place.toNat + 1
    let filled := kept ++ List.replicate (whole - kept.length) '0'
    pointed filled (filled.length - whole) alternate

/-- No number has digits more than this many places behind the point, or behind its leading
digit. -/
def digitLimit : Nat := 1100

/-- Digits with as many zeros after them as `count` is above the number of digits there can be. -/
def withFurtherZeros (count : Nat) (digits : List Char) : List Char :=
  digits ++ List.replicate (count - digitLimit) '0'

/-- The leading digits of `m * 2 ^ q`, `count` of them, and the place of the first. -/
def leading (m : Nat) (q : Int) (count : Nat) : List Char × Int :=
  let (d, place) := Binary64.leadingDigits m q (min count digitLimit)
  (withFurtherZeros count (Layout.padded (min count digitLimit) (Layout.digitsOf d)), place)

/-- The written form of the magnitude of `m * 2 ^ q` with a precision; the alternate form keeps the
point and, in the general form, zeros at the end. -/
def writeMagnitude (form : DecimalForm) (m : Nat) (q : Int) (precision : Nat)
    (alternate : Bool) : List Char :=
  match form with
  | .positional =>
    let d := Binary64.places m q (min precision digitLimit)
    pointed (withFurtherZeros precision (Layout.digitsOf d)) precision alternate
  | .scientific =>
    let (digits, place) := leading m q (precision + 1)
    pointed digits precision alternate ++ exponentMark place
  | .general =>
    let count := max 1 precision
    let (digits, place) := leading m q count
    writeGeneral digits place count alternate

/-- The written form of a number, with a sign if it is negative. -/
def write (form : DecimalForm) (x : Binary64) (precision : Nat) (alternate : Bool) :
    List Char :=
  match x.view with
  | .notANumber => Layout.plain.notANumber.toList
  | .infinite negative =>
    (if negative then Layout.plain.negativeInfinity else Layout.plain.infinity).toList
  | .finite negative m q =>
    let body := form.writeMagnitude m q precision alternate
    if negative then '-' :: body else body

end DecimalForm

end HandlerBundle
