import HandlerBundle.Text.CharSet
import HandlerBundle.Text.Printable

/-!
# Quoted texts

A quoted text stands between single quotes, or between double quotes when it holds a single quote
and no double one. The quote itself, the backslash and every character that is not printable are
written as escapes, so a quoted text is always one line. `readQuoted?` takes a quoted text off the
front of a longer one.

## Main definitions

* `quoted`, `quotedBytes` — the quoted form of a text and of a byte string.
* `readQuoted?` — reads a quoted text back.
-/

namespace HandlerBundle

/-- The digit of value `d` in the bases up to sixteen. -/
def hexDigit (d : Nat) : Char :=
  if d < 10 then Char.ofNat (48 + d) else Char.ofNat (87 + d)

/-- The last `width` hexadecimal digits of a number. -/
def hexPadded : Nat → Nat → List Char
  | 0, _ => []
  | width + 1, n => hexPadded width (n / 16) ++ [hexDigit (n % 16)]

/-- The mark that encloses a quoted text. -/
def quoteMark (cs : List Char) : Char :=
  if cs.contains '\'' && !cs.contains '"' then '"' else '\''

/-- How a character stands in a quoted text with the given mark. -/
def quotedChar (mark c : Char) : List Char :=
  if c == mark || c == '\\' then ['\\', c]
  else if c == '\n' then ['\\', 'n']
  else if c == '\r' then ['\\', 'r']
  else if c == '\t' then ['\\', 't']
  else if isPrintable c then [c]
  else if c.toNat < 0x100 then '\\' :: 'x' :: hexPadded 2 c.toNat
  else if c.toNat < 0x10000 then '\\' :: 'u' :: hexPadded 4 c.toNat
  else '\\' :: 'U' :: hexPadded 8 c.toNat

/-- The quoted form of characters. -/
def quotedChars (cs : List Char) : List Char :=
  let mark := quoteMark cs
  mark :: (cs.flatMap (quotedChar mark) ++ [mark])

/-- The quoted form of a text. -/
def quoted (s : String) : String :=
  String.ofList (quotedChars s.toList)

/-- How a byte stands in a quoted byte string with the given mark. -/
def quotedByte (mark : Char) (b : UInt8) : List Char :=
  let c := Char.ofNat b.toNat
  if c == mark || c == '\\' then ['\\', c]
  else if c == '\n' then ['\\', 'n']
  else if c == '\r' then ['\\', 'r']
  else if c == '\t' then ['\\', 't']
  else if b < 32 || 127 ≤ b then '\\' :: 'x' :: hexPadded 2 b.toNat
  else [c]

/-- The quoted form of a byte string. -/
def quotedBytes (bs : List UInt8) : String :=
  let mark := quoteMark (bs.map fun b => Char.ofNat b.toNat)
  String.ofList ('b' :: mark :: (bs.flatMap (quotedByte mark) ++ [mark]))

/-- The number that hexadecimal digits stand for. -/
def hexNumber? (cs : List Char) : Option Nat :=
  cs.foldlM (fun n c => (hexValue? c).map (16 * n + ·)) 0

/-- The character that an escape with `width` hexadecimal digits stands for, and the rest. -/
def readHexEscape? (width : Nat) (cs : List Char) : Option (Char × List Char) :=
  if cs.length < width then none
  else (hexNumber? (cs.take width)).map fun n => (Char.ofNat n, cs.drop width)

/-- One character of a quoted text, plain or escaped, and what follows it. -/
def readQuotedChar? : List Char → Option (Char × List Char)
  | '\\' :: 'n' :: rest => some ('\n', rest)
  | '\\' :: 'r' :: rest => some ('\r', rest)
  | '\\' :: 't' :: rest => some ('\t', rest)
  | '\\' :: 'x' :: rest => readHexEscape? 2 rest
  | '\\' :: 'u' :: rest => readHexEscape? 4 rest
  | '\\' :: 'U' :: rest => readHexEscape? 8 rest
  | '\\' :: c :: rest => some (c, rest)
  | c :: rest => if c == '\n' then none else some (c, rest)
  | [] => none

/-- Reads up to the closing mark. The fuel is the number of characters left. -/
def readQuotedBody? (mark : Char) : Nat → List Char → Option (List Char × List Char)
  | 0, _ => none
  | fuel + 1, cs =>
    match cs with
    | [] => none
    | c :: rest =>
      if c == mark then some ([], rest)
      else do
        let (d, rest) ← readQuotedChar? cs
        let (ds, rest) ← readQuotedBody? mark fuel rest
        return (d :: ds, rest)

/-- Reads a quoted text at the front and returns its characters and what follows. -/
def readQuoted? (cs : List Char) : Option (List Char × List Char) :=
  match cs with
  | mark :: rest =>
    if mark == '\'' || mark == '"' then readQuotedBody? mark (rest.length + 1) rest else none
  | [] => none

end HandlerBundle
