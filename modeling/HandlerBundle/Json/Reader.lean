import HandlerBundle.Json.Basic
import HandlerBundle.Text.CharSet
import HandlerBundle.Text.Numeral

/-!
# Reading JSON texts

A reader for JSON values. It also takes the three words for infinities and for what is no number.
Control characters in texts, lone halves of surrogate pairs, leading zeros and anything after the
value are refused, and so are values that nest too deeply. When an object has a name twice, the
first place and the last value count.

## Main definitions

* `Json.read?` — reads a whole text.
-/

namespace HandlerBundle

namespace Json

/-- The blanks between tokens. -/
def isSpace (c : Char) : Bool :=
  c == ' ' || c == '\n' || c == '\t' || c == '\r'

/-- Drops blanks at the front. -/
def skipSpace (cs : List Char) : List Char :=
  cs.dropWhile isSpace

/-- The value of a hexadecimal digit of either case. -/
def hexDigit? (c : Char) : Option Nat :=
  hexValue? c.toLower

/-- Four hexadecimal digits and the rest. -/
def readUnit? : List Char → Option (Nat × List Char)
  | a :: b :: c :: d :: rest => do
    let a ← hexDigit? a
    let b ← hexDigit? b
    let c ← hexDigit? c
    let d ← hexDigit? d
    return (((16 * a + b) * 16 + c) * 16 + d, rest)
  | _ => none

/-- The character of a numbered escape, whose digits come first, and the rest. A high half needs
the low half in a second escape right behind it. -/
def readNumbered? (cs : List Char) : Option (Char × List Char) := do
  let (u, rest) ← readUnit? cs
  if 0xDC00 ≤ u ∧ u < 0xE000 then none
  else if 0xD800 ≤ u ∧ u < 0xDC00 then
    match rest with
    | '\\' :: 'u' :: rest =>
      let (v, rest) ← readUnit? rest
      if 0xDC00 ≤ v ∧ v < 0xE000 then
        return (Char.ofNat (0x10000 + (u - 0xD800) * 0x400 + (v - 0xDC00)), rest)
      else none
    | _ => none
  else return (Char.ofNat u, rest)

/-- The character that a single letter after a backslash stands for. -/
def shortEscape? (c : Char) : Option Char :=
  if c == '"' || c == '\\' || c == '/' then some c
  else if c == 'n' then some '\n'
  else if c == 'r' then some '\r'
  else if c == 't' then some '\t'
  else if c == 'b' then some (Char.ofNat 8)
  else if c == 'f' then some (Char.ofNat 12)
  else none

/-- Reads a text up to its closing mark; `done` holds the characters so far, backwards. The fuel
bounds their number. -/
def readChars? : Nat → List Char → List Char → Option (String × List Char)
  | 0, _, _ => none
  | fuel + 1, done, cs =>
    match cs with
    | '"' :: rest => some (String.ofList done.reverse, rest)
    | '\\' :: 'u' :: rest =>
      match readNumbered? rest with
      | some (c, rest) => readChars? fuel (c :: done) rest
      | none => none
    | '\\' :: e :: rest =>
      match shortEscape? e with
      | some c => readChars? fuel (c :: done) rest
      | none => none
    | c :: rest =>
      if c.toNat < 32 || c == '\\' then none else readChars? fuel (c :: done) rest
    | [] => none

/-- Takes a word off the front. -/
def takeWord? (word : String) (cs : List Char) : Option (List Char) :=
  if word.toList.isPrefixOf cs then some (cs.drop word.length) else none

/-- The digits of an exponent, after the sign, and the rest. -/
def readExponentDigits? (cs : List Char) : Option (Int × List Char) :=
  let (negative, cs) := takeSign cs
  let digits := cs.takeWhile Char.isDigit
  if digits.isEmpty then none
  else
    let n : Int := digitsValue digits
    some (if negative then -n else n, cs.dropWhile Char.isDigit)

/-- Reads a number after its sign. It is an integer unless a fraction or an exponent follows. -/
def readUnsigned? (negative : Bool) (cs : List Char) : Option (Json × List Char) := do
  let whole := cs.takeWhile Char.isDigit
  let rest := cs.dropWhile Char.isDigit
  let sign := if negative then 1 else 0
  if whole.isEmpty || (whole.head? == some '0' && 1 < whole.length) ||
      integerDigitLimit < whole.length + sign then none
  else
    let (fraction, rest, hasPoint) := match rest with
      | '.' :: rest => (rest.takeWhile Char.isDigit, rest.dropWhile Char.isDigit, true)
      | _ => ([], rest, false)
    if hasPoint && fraction.isEmpty then none
    else
      let float := fun (e : Int) => Json.float
        (.ofDecimal negative (digitsValue (whole ++ fraction)) (e - fraction.length))
      match rest with
      | c :: rest' =>
        if c == 'e' || c == 'E' then
          let (e, rest) ← readExponentDigits? rest'
          return (float e, rest)
        else if hasPoint then return (float 0, rest)
        else
          let n : Int := digitsValue whole
          return (.int (if negative then -n else n), rest)
      | [] =>
        if hasPoint then return (float 0, [])
        else
          let n : Int := digitsValue whole
          return (.int (if negative then -n else n), [])

/-- Reads a value that is a word or a number. -/
def readScalar? (cs : List Char) : Option (Json × List Char) :=
  match cs with
  | 't' :: _ => (takeWord? "true" cs).map fun rest => (.bool true, rest)
  | 'f' :: _ => (takeWord? "false" cs).map fun rest => (.bool false, rest)
  | 'n' :: _ => (takeWord? "null" cs).map fun rest => (.null, rest)
  | 'N' :: _ => (takeWord? "NaN" cs).map fun rest => (.float .notANumber, rest)
  | 'I' :: _ => (takeWord? "Infinity" cs).map fun rest => (.float (.infinity false), rest)
  | '-' :: 'I' :: _ =>
    (takeWord? "-Infinity" cs).map fun rest => (.float (.infinity true), rest)
  | '-' :: rest => readUnsigned? true rest
  | cs => readUnsigned? false cs

mutual

/-- Reads a value. The fuel bounds the number of calls, and `depth` the levels below this one. -/
def readValue? (depth : Nat) : Nat → List Char → Option (Json × List Char)
  | 0, _ => none
  | fuel + 1, cs =>
    match skipSpace cs with
    | '"' :: rest => (readChars? fuel [] rest).map fun (s, rest) => (.text s, rest)
    | '[' :: rest =>
      match skipSpace rest with
      | ']' :: rest => some (.list [], rest)
      | rest =>
        match depth with
        | 0 => none
        | depth + 1 =>
          (readItems? depth fuel [] rest).map fun (vs, rest) => (.list vs, rest)
    | '{' :: rest =>
      match skipSpace rest with
      | '}' :: rest => some (.object [], rest)
      | rest =>
        match depth with
        | 0 => none
        | depth + 1 =>
          (readMembers? depth fuel [] rest).map fun (ms, rest) => (.object ms, rest)
    | cs => readScalar? cs

/-- Reads the items of a list up to its end; `done` holds those before, backwards. -/
def readItems? (depth : Nat) : Nat → List Json → List Char → Option (List Json × List Char)
  | 0, _, _ => none
  | fuel + 1, done, cs =>
    match readValue? depth fuel cs with
    | none => none
    | some (v, rest) =>
      match skipSpace rest with
      | ',' :: rest => readItems? depth fuel (v :: done) rest
      | ']' :: rest => some ((v :: done).reverse, rest)
      | _ => none

/-- Reads the members of an object up to its end; `done` holds those before, backwards. -/
def readMembers? (depth : Nat) : Nat → List (String × Json) → List Char →
    Option (List (String × Json) × List Char)
  | 0, _, _ => none
  | fuel + 1, done, cs =>
    match skipSpace cs with
    | '"' :: rest =>
      match readChars? fuel [] rest with
      | none => none
      | some (k, rest) =>
        match skipSpace rest with
        | ':' :: rest =>
          match readValue? depth fuel rest with
          | none => none
          | some (v, rest) =>
            match skipSpace rest with
            | ',' :: rest => readMembers? depth fuel ((k, v) :: done) rest
            | '}' :: rest => some (((k, v) :: done).reverse, rest)
            | _ => none
        | _ => none
    | _ => none

end

/-- Reads a whole text as a value with at most `depth` levels of lists and objects that are not
empty. -/
def read? (depth : Nat) (s : String) : Option Json :=
  let cs := s.toList
  match readValue? depth (2 * cs.length + 3) cs with
  | some (v, rest) => if (skipSpace rest).isEmpty then some v else none
  | none => none

mutual

/-- A value in which every name stands once in its object, at its first place with its last
value. -/
def collapse : Json → Json
  | .list vs => .list (collapseItems vs)
  | .object ms => .object (collapseMembers [] ms)
  | v => v

/-- The items of a list with every name once in its object. -/
def collapseItems : List Json → List Json
  | [] => []
  | v :: vs => collapse v :: collapseItems vs

/-- The members of an object with every name once; `done` holds those before. -/
def collapseMembers (done : List (String × Json)) : List (String × Json) → List (String × Json)
  | [] => done
  | (k, v) :: ms => collapseMembers (put done k (collapse v)) ms

end

end Json

end HandlerBundle
