import HandlerBundle.Number.Shortest

/-!
# Templates

A template is a text with places for values. A place is a percent sign with a conversion: a key in
parentheses, flags, a width, a precision and the letter that says how the value is written. A width
or precision can be an asterisk, for which a value is taken. Two percent signs stand for one.

## Main definitions

* `Conversion`, `Piece` — a place, and a part of a template.
* `Piece.ofTemplate` — the parts of a template.
* `Conversion.align` — a written value in the width of its place.
-/

namespace HandlerBundle

/-- The key of a place. -/
inductive PlaceKey where
  | none
  | named (key : String)
  /-- The parenthesis is not closed. -/
  | unclosed
  deriving DecidableEq, Repr

/-- A width or precision. -/
inductive Measure where
  | none
  | number (n : Nat)
  /-- The next value says it. -/
  | fromValue
  deriving DecidableEq, Repr

/-- The flags of a place. -/
inductive PlaceFlag where
  | leftAligned
  | signed
  | spaced
  | alternate
  | zeroFilled
  deriving DecidableEq, Repr

namespace PlaceFlag

/-- The flag of a character. -/
def ofChar? (c : Char) : Option PlaceFlag :=
  if c == '-' then some .leftAligned
  else if c == '+' then some .signed
  else if c == ' ' then some .spaced
  else if c == '#' then some .alternate
  else if c == '0' then some .zeroFilled
  else none

end PlaceFlag

/-- A place for a value. -/
structure Conversion where
  key : PlaceKey
  flags : List PlaceFlag
  width : Measure
  precision : Measure
  /-- The letter, which is missing where the template ends before it. -/
  letter : Option Char
  /-- The index of the letter in the template. -/
  index : Nat
  deriving DecidableEq, Repr

/-- A part of a template. -/
inductive Piece where
  | text (cs : List Char)
  | place (c : Conversion)
  deriving DecidableEq, Repr

/-! ### Reading -/

/-- The characters before the parenthesis that closes `depth + 1` open ones, and the rest after
it. -/
def takeKey? (depth : Nat) : List Char → Option (List Char × List Char)
  | [] => none
  | c :: rest =>
    if c == ')' then
      match depth with
      | 0 => some ([], rest)
      | depth + 1 => (takeKey? depth rest).map fun r => (c :: r.1, r.2)
    else (takeKey? (if c == '(' then depth + 1 else depth) rest).map fun r => (c :: r.1, r.2)

/-- A key at the front, and the rest. -/
def readKey : List Char → PlaceKey × List Char
  | '(' :: rest =>
    match takeKey? 0 rest with
    | some (key, rest) => (.named (String.ofList key), rest)
    | none => (.unclosed, [])
  | cs => (.none, cs)

/-- A number or an asterisk at the front, and the rest. -/
def readMeasure (cs : List Char) : Measure × List Char :=
  match cs with
  | '*' :: rest => (.fromValue, rest)
  | _ =>
    let digits := cs.takeWhile Char.isDigit
    if digits.isEmpty then (.none, cs)
    else (.number (digits.foldl (fun n c => 10 * n + (c.toNat - 48)) 0), cs.drop digits.length)

/-- A precision at the front, and the rest: a point alone stands for zero. -/
def readPrecision : List Char → Measure × List Char
  | '.' :: rest =>
    match readMeasure rest with
    | (.none, rest) => (.number 0, rest)
    | r => r
  | cs => (.none, cs)

/-- The rest after a letter that tells a size and has no effect. -/
def dropSize : List Char → List Char
  | 'h' :: rest | 'l' :: rest | 'L' :: rest => rest
  | cs => cs

/-- The place after a percent sign, and the rest; `size` is the length of the template. -/
def readPlace (size : Nat) (cs : List Char) : Conversion × List Char :=
  let (key, cs) := readKey cs
  let flags := cs.takeWhile fun c => (PlaceFlag.ofChar? c).isSome
  let (width, cs) := readMeasure (cs.drop flags.length)
  let (precision, cs) := readPrecision cs
  let cs := dropSize cs
  (⟨key, flags.filterMap PlaceFlag.ofChar?, width, precision, cs.head?, size - cs.length⟩,
    cs.drop 1)

/-- The parts of the rest of a template. The fuel is the number of characters left. -/
def readPieces (size : Nat) : Nat → List Char → List Piece
  | 0, _ => []
  | fuel + 1, cs =>
    match cs with
    | [] => []
    | '%' :: '%' :: rest => .text ['%'] :: readPieces size fuel rest
    | '%' :: rest =>
      let (place, rest) := readPlace size rest
      .place place :: readPieces size fuel rest
    | cs =>
      .text (cs.takeWhile (· != '%')) :: readPieces size fuel (cs.dropWhile (· != '%'))

/-- The parts of a template. -/
def Piece.ofTemplate (s : String) : List Piece :=
  readPieces s.toList.length (s.toList.length + 1) s.toList

/-! ### Writing -/

/-- A written value: its sign, a mark of its base, and the rest. Only numbers are filled with
zeros. -/
structure WrittenValue where
  sign : List Char
  mark : List Char
  body : List Char
  isNumber : Bool

namespace WrittenValue

/-- A value that is no number. -/
def ofChars (cs : List Char) : WrittenValue := ⟨[], [], cs, false⟩

/-- A written number; a sign at its front is set apart, and flags add one where there is none. -/
def ofNumber (flags : List PlaceFlag) (mark cs : List Char) : WrittenValue :=
  match cs with
  | '-' :: body => ⟨['-'], mark, body, true⟩
  | body =>
    let sign := if flags.contains .signed then ['+']
      else if flags.contains .spaced then [' '] else []
    ⟨sign, mark, body, true⟩

/-- A written value in a width. -/
def align (v : WrittenValue) (flags : List PlaceFlag) (width : Nat) : List Char :=
  let head := v.sign ++ v.mark
  let missing := width - (head.length + v.body.length)
  if flags.contains .leftAligned then head ++ v.body ++ List.replicate missing ' '
  else if v.isNumber && flags.contains .zeroFilled then
    head ++ List.replicate missing '0' ++ v.body
  else List.replicate missing ' ' ++ head ++ v.body

end WrittenValue

end HandlerBundle
