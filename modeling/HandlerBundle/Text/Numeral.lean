import HandlerBundle.Number.Binary64
import HandlerBundle.Text.Blank
import HandlerBundle.Text.Digit

/-!
# Numerals

Reading integers and decimal numbers from text. Digits of all scripts count, blanks around a
numeral are skipped, and a single underscore may stand between two digits.

## Main definitions

* `readInteger?` — an integer in base ten.
* `readNumber?` — a decimal number, an infinity, or the name of what is not a number.
-/

namespace HandlerBundle

/-- The greatest number of digits that an integer numeral may have. -/
def integerDigitLimit : Nat := 4300

/-- Replaces the digits of all scripts by the digits from zero to nine. -/
def plainDigits (cs : List Char) : List Char :=
  cs.map fun c =>
    match digitValue? c with
    | some d => Char.ofNat (48 + d)
    | none => c

/-- Removes single underscores between two digits; fails at any other underscore. `afterDigit`
tells whether the character before is a digit. -/
def dropUnderscores? (afterDigit : Bool) : List Char → Option (List Char)
  | [] => some []
  | '_' :: c :: rest =>
    if afterDigit && c.isDigit then (dropUnderscores? true rest).map (c :: ·) else none
  | c :: rest => if c == '_' then none else (dropUnderscores? c.isDigit rest).map (c :: ·)

/-- A sign, if there is one, and the rest. -/
def takeSign : List Char → Bool × List Char
  | '-' :: rest => (true, rest)
  | '+' :: rest => (false, rest)
  | cs => (false, cs)

/-- The value of decimal digits. -/
def digitsValue (cs : List Char) : Nat :=
  cs.foldl (fun n c => 10 * n + (c.toNat - 48)) 0

/-- Reads an integer. -/
def readInteger? (s : String) : Option Int := do
  let (negative, body) := takeSign (plainDigits (trimChars s.toList))
  let digits ← dropUnderscores? false body
  if digits.isEmpty || !digits.all Char.isDigit || integerDigitLimit < digits.length then none
  else
    let n : Int := digitsValue digits
    return if negative then -n else n

/-- Reads an exponent: nothing, or a mark, a sign and digits. -/
def readExponent? : List Char → Option Int
  | [] => some 0
  | c :: rest =>
    if c == 'e' || c == 'E' then
      let (negative, digits) := takeSign rest
      if digits.isEmpty || !digits.all Char.isDigit then none
      else
        let n : Int := digitsValue digits
        some (if negative then -n else n)
    else none

/-- Reads a decimal number without sign and underscores, as digits and an exponent of ten. -/
def readDecimal? (cs : List Char) : Option (Nat × Int) := do
  let whole := cs.takeWhile Char.isDigit
  let rest := cs.dropWhile Char.isDigit
  let (fraction, rest) := match rest with
    | '.' :: rest => (rest.takeWhile Char.isDigit, rest.dropWhile Char.isDigit)
    | _ => ([], rest)
  if whole.isEmpty && fraction.isEmpty then none
  else
    let exponent ← readExponent? rest
    return (digitsValue (whole ++ fraction), exponent - fraction.length)

/-- Reads a number. -/
def readNumber? (s : String) : Option Binary64 := do
  let cs ← dropUnderscores? false (plainDigits (trimChars s.toList))
  let (negative, body) := takeSign cs
  let word := body.map Char.toLower
  if word == "inf".toList || word == "infinity".toList then return .infinity negative
  else if word == "nan".toList then
    return if negative then ⟨0xfff8000000000000⟩ else .notANumber
  else
    let (digits, exponent) ← readDecimal? body
    return .ofDecimal negative digits exponent

end HandlerBundle
