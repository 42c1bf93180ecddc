import HandlerBundle.Binding.Attribute
import HandlerBundle.Number.Power

/-!
# Instants

An instant is a number of microseconds since the beginning of 1970. It is written as a date and a
time of the day in universal time, with the fraction of the second if there is one.

## Main definitions

* `CalendarDate.ofDay` — the date of a day.
* `Instant`, `Instant.ofSeconds` — an instant, and the nearest one to a number of seconds.
* `Instant.write` — the written form of an instant.
-/

namespace HandlerBundle

/-! ### Dates -/

/-- A date of the Gregorian calendar. -/
structure CalendarDate where
  year : Int
  month : Nat
  day : Nat
  deriving DecidableEq, Repr

namespace CalendarDate

/-- The number of days in four hundred years. -/
def cycleDays : Int := 146097

/-- The number of days from the first of March of the year zero to the first of January 1970. -/
def epochDay : Int := 719468

/-- The date of a day, counted from the first of January 1970. Years are taken to begin in March,
so that the leap day is the last of a year: year `y` of a cycle begins on day
`365 * y + y / 4 - y / 100`, and month `m` of a year on day `(153 * m + 2) / 5`. -/
def ofDay (day : Int) : CalendarDate :=
  let n := day + epochDay
  let cycle := n / cycleDays
  let inCycle := (n % cycleDays).toNat
  let year := (inCycle - inCycle / 1460 + inCycle / 36524 - inCycle / 146096) / 365
  let inYear := inCycle - (365 * year + year / 4 - year / 100)
  let month := (5 * inYear + 2) / 153
  { year := 400 * cycle + year + (if month < 10 then 0 else 1)
    month := if month < 10 then month + 3 else month - 9
    day := inYear - (153 * month + 2) / 5 + 1 }

end CalendarDate

/-! ### Instants -/

/-- An instant, in microseconds since the beginning of 1970. -/
structure Instant where
  microseconds : Int
  deriving DecidableEq, Repr

/-- Why a number of seconds is no instant, or an instant has no written form. -/
inductive InstantError where
  | notANumber
  /-- The value is no number of seconds; its class is given. -/
  | wrongClass (name : String)
  | tooManySeconds
  | tooManyYears
  | yearOutOfRange (year : Int)
  deriving DecidableEq, Repr

/-- The failure that an error is reported as. A year is told as a signed number of 32 bits. -/
def InstantError.failure : InstantError → Failure
  | .notANumber => ⟨.foreign "ValueError", "Invalid value NaN (not a number)"⟩
  | .wrongClass name =>
    ⟨.foreign "TypeError", quoted name ++ " object cannot be interpreted as an integer"⟩
  | .tooManySeconds => ⟨.foreign "OverflowError", "timestamp out of range for platform time_t"⟩
  | .tooManyYears => ⟨.foreign "OSError", "[Errno 75] Value too large for defined data type"⟩
  | .yearOutOfRange year =>
    ⟨.foreign "ValueError", "year " ++ toString (year.bmod (twoTo 32)) ++ " is out of range"⟩

namespace Instant

/-- The number of microseconds in a second. -/
def perSecond : Nat := 1000000

/-- The instant of a number of microseconds, which has less than `2 ^ 63` whole seconds. -/
def ofMicroseconds (n : Int) : Except InstantError Instant :=
  if -twoTo 63 ≤ n / perSecond ∧ n / perSecond < twoTo 63 then .ok ⟨n⟩
  else .error .tooManySeconds

/-- The nearest instant to a number of seconds. The fraction of a second is first brought to
microseconds as a binary number, and then rounded. -/
def ofSeconds (x : Binary64) : Except InstantError Instant :=
  match x.view with
  | .notANumber => .error .notANumber
  | .infinite _ => .error .tooManySeconds
  | .finite negative m q =>
    let unit := if 0 ≤ q then 1 else twoTo (-q).toNat
    let whole := if 0 ≤ q then m * twoTo q.toNat else m / unit
    let fraction := if 0 ≤ q then 0 else m % unit
    let microseconds :=
      match (Binary64.ofRatio false (fraction * perSecond) unit).view with
      | .finite _ m q => Binary64.roundScaled m 1 (-q)
      | _ => 0
    let total : Int := (whole * perSecond + microseconds : Nat)
    ofMicroseconds (if negative then -total else total)

/-- The instant that a constant stands for as a number of seconds. -/
def ofConstant (c : Constant) (className : String) : Except InstantError Instant :=
  match c with
  | .int n => ofMicroseconds (n * perSecond)
  | .bool b => ofMicroseconds (if b then perSecond else 0)
  | .float x => ofSeconds x
  | _ => .error (.wrongClass className)

/-- The last digits of a number. -/
def lastDigits (width n : Nat) : String :=
  String.ofList (Layout.padded width (Layout.digitsOf n))

/-- The written form of an instant in the years from 1 to 9999. -/
def write (t : Instant) : Except InstantError String :=
  let seconds := t.microseconds / perSecond
  let fraction := (t.microseconds % perSecond).toNat
  let inDay := (seconds % 86400).toNat
  let date := CalendarDate.ofDay (seconds / 86400)
  if date.year - 1900 < -twoTo 31 ∨ twoTo 31 ≤ date.year - 1900 then .error .tooManyYears
  else if date.year < 1 ∨ 9999 < date.year then .error (.yearOutOfRange date.year)
  else
    .ok (lastDigits 4 date.year.toNat ++ "-" ++ lastDigits 2 date.month ++ "-" ++
      lastDigits 2 date.day ++ "T" ++ lastDigits 2 (inDay / 3600) ++ ":" ++
      lastDigits 2 (inDay / 60 % 60) ++ ":" ++ lastDigits 2 (inDay % 60) ++
      (if fraction = 0 then "" else "." ++ lastDigits 6 fraction) ++ "+00:00")

end Instant

end HandlerBundle
