import HandlerBundle.Number.Power

/-!
# Binary floating-point numbers of 64 bits

A `Binary64` is the bit pattern of a double-precision number. `Binary64.view` takes it apart into
sign, significand and exponent, and `Binary64.ofRatio` rounds a quotient of natural numbers to the
nearest such number, ties going to the even significand.

## Main definitions

* `Binary64.view` — not a number, infinite, or `m · 2 ^ q` with a sign.
* `Binary64.ofRatio`, `Binary64.ofDecimal` — the nearest number to a quotient, to a decimal.
* `Binary64.same` — comparison of values: zeros are equal, and nothing equals what is no number.
-/

namespace HandlerBundle

/-- The bit pattern of a double-precision number. -/
structure Binary64 where
  bits : UInt64
  deriving DecidableEq, Repr, Inhabited

namespace Binary64

/-- What a bit pattern stands for. -/
inductive View where
  | notANumber
  | infinite (negative : Bool)
  /-- The number `significand * 2 ^ exponent`, negated if `negative`. -/
  | finite (negative : Bool) (significand : Nat) (exponent : Int)
  deriving DecidableEq, Repr

/-- Takes a bit pattern apart. -/
def view (x : Binary64) : View :=
  let n := x.bits.toNat
  let negative : Bool := twoTo 63 ≤ n
  let biased : Nat := n / twoTo 52 % twoTo 11
  let fraction : Nat := n % twoTo 52
  if biased = 2047 then if fraction = 0 then .infinite negative else .notANumber
  else if biased = 0 then .finite negative fraction (-1074)
  else .finite negative (twoTo 52 + fraction) ((biased : Int) - 1075)

/-- The bit pattern with the given sign bit and lower 63 bits. -/
def ofMagnitude (negative : Bool) (n : Nat) : Binary64 :=
  ⟨UInt64.ofNat ((if negative then twoTo 63 else 0) + n)⟩

/-- The infinite number of a sign. -/
def infinity (negative : Bool) : Binary64 := ofMagnitude negative (2047 * twoTo 52)

/-- The usual pattern that is not a number. -/
def notANumber : Binary64 := ⟨0x7ff8000000000000⟩

/-- The quotient of two natural numbers to the nearest integer, a half going to the even one. -/
def roundDiv (num den : Nat) : Nat :=
  let q := num / den
  let r := 2 * (num % den)
  if r < den then q else if den < r then q + 1 else q + q % 2

/-- The quotient `num / (den * 2 ^ e)` to the nearest integer. -/
def roundScaled (num den : Nat) (e : Int) : Nat :=
  if 0 ≤ e then roundDiv num (den * twoTo e.toNat) else roundDiv (num * twoTo (-e).toNat) den

/-- The nearest number to `num / den`, with the given sign. -/
def ofRatio (negative : Bool) (num den : Nat) : Binary64 :=
  if num = 0 ∨ den = 0 then ofMagnitude negative 0
  else
    let estimate : Int := (num.log2 : Int) - den.log2 - 52
    -- The quotient lies between `2 ^ 51` and `2 ^ 53` in units of `2 ^ estimate`.
    let below :=
      if 0 ≤ estimate then num < den * twoTo (52 + estimate.toNat)
      else num * twoTo (-estimate).toNat < den * twoTo 52
    let exponent := max (-1074) (if below then estimate - 1 else estimate)
    let m := roundScaled num den exponent
    let (m, exponent) := if m = twoTo 53 then (twoTo 52, exponent + 1) else (m, exponent)
    if 971 < exponent then infinity negative
    else if m < twoTo 52 then ofMagnitude negative m
    else ofMagnitude negative ((exponent + 1075).toNat * twoTo 52 + (m - twoTo 52))

/-- The number of decimal digits of a natural number, zero having none. -/
def decimalLength (n : Nat) : Nat :=
  if n = 0 then 0 else decimalLength (n / 10) + 1
termination_by n

/-- The nearest number to `digits * 10 ^ exponent`, with the given sign. -/
def ofDecimal (negative : Bool) (digits : Nat) (exponent : Int) : Binary64 :=
  let size := exponent + decimalLength digits
  if digits = 0 ∨ size < -330 then ofMagnitude negative 0
  else if 310 < size then infinity negative
  else if 0 ≤ exponent then ofRatio negative (digits * tenTo exponent.toNat) 1
  else ofRatio negative digits (tenTo (-exponent).toNat)

/-- The nearest number to an integer. -/
def ofInt (n : Int) : Binary64 :=
  ofRatio (n < 0) n.natAbs 1

/-- Whether two patterns stand for the same value. -/
def same (x y : Binary64) : Bool :=
  match x.view, y.view with
  | .notANumber, _ | _, .notANumber => false
  | .finite _ 0 _, .finite _ 0 _ => true
  | _, _ => x.bits == y.bits

/-- The integer that a number is, if it is one. -/
def toInt? (x : Binary64) : Option Int :=
  match x.view with
  | .finite negative m q =>
    let sign : Int := if negative then -1 else 1
    if 0 ≤ q then some (sign * (m * twoTo q.toNat : Nat))
    else
      let d := twoTo (-q).toNat
      if m % d = 0 then some (sign * (m / d : Nat)) else none
  | _ => none

end Binary64

end HandlerBundle
