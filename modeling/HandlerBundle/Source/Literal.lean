import HandlerBundle.Source.Encoding

/-!
# Text literals

What may stand between the quotation marks of a literal. Escapes must be complete, a literal of
bytes holds ASCII characters alone, and a formatted literal holds expressions between braces, whose
texts are cut out here and read elsewhere.

## Main definitions

* `LiteralForm` — the letters in front of a literal.
* `LiteralForm.holds` — whether characters may stand in a literal that is not formatted.
* `formattedParts?` — the expressions of a formatted literal.
-/

namespace HandlerBundle

/-- The letters in front of a literal. -/
structure LiteralForm where
  isBytes : Bool := false
  isRaw : Bool := false
  isFormatted : Bool := false
  /-- Whether the letter of plain text is there, which goes with no other. -/
  isMarked : Bool := false
  deriving DecidableEq, Repr

namespace LiteralForm

/-- The form with one more letter in front of the literal, if the letters go together. -/
def with? (form : LiteralForm) (letter : Char) : Option LiteralForm :=
  let c := letter.toLower
  if c == 'b' && !(form.isBytes || form.isMarked || form.isFormatted) then
    some { form with isBytes := true }
  else if c == 'u' && !(form.isBytes || form.isMarked || form.isRaw || form.isFormatted) then
    some { form with isMarked := true }
  else if c == 'r' && !(form.isRaw || form.isMarked) then some { form with isRaw := true }
  else if c == 'f' && !(form.isFormatted || form.isBytes || form.isMarked) then
    some { form with isFormatted := true }
  else none

/-- The form that the letters of a word stand for. -/
def ofLetters? (letters : List Char) : Option LiteralForm :=
  letters.foldlM with? {}

end LiteralForm

/-- Whether a character is a hexadecimal digit of either case. -/
def isHexDigit (c : Char) : Bool := (hexValue? c.toLower).isSome

/-- Whether characters begin with a number of hexadecimal digits. -/
def beginsWithHex (width : Nat) (cs : List Char) : Bool :=
  width ≤ cs.length && (cs.take width).all isHexDigit

/-- Whether characters begin with the eight digits of a code point. -/
def beginsWithCodePoint (cs : List Char) : Bool :=
  beginsWithHex 8 cs && ((hexNumber? ((cs.take 8).map Char.toLower)).any fun n => n < 0x110000)

/-- Whether characters begin with the name of a character between braces. -/
def beginsWithName (isCharName : String → Bool) : List Char → Bool
  | '{' :: rest =>
    let name := rest.takeWhile (· != '}')
    !name.isEmpty && name.length < rest.length && isCharName (String.ofList name)
  | _ => false

/-- Whether all escapes are complete. -/
def escapesComplete (isCharName : String → Bool) (isBytes : Bool) : List Char → Bool
  | '\\' :: c :: rest =>
    (if c == 'x' then beginsWithHex 2 rest
      else if isBytes then true
      else if c == 'u' then beginsWithHex 4 rest
      else if c == 'U' then beginsWithCodePoint rest
      else if c == 'N' then beginsWithName isCharName rest
      else true) && escapesComplete isCharName isBytes rest
  | _ :: rest => escapesComplete isCharName isBytes rest
  | [] => true

/-- Whether characters may stand in a literal of the form that is not formatted. -/
def LiteralForm.holds (form : LiteralForm) (isCharName : String → Bool) (cs : List Char) : Bool :=
  !cs.contains strayMark && (!form.isBytes || cs.all fun c => c.toNat < 128) &&
    (form.isRaw || escapesComplete isCharName form.isBytes cs)

/-- The closing mark of an opening bracket. -/
def closingOf (c : Char) : Char :=
  if c == '(' then ')' else if c == '[' then ']' else '}'

/-- A quotation mark within an expression, single or triple. -/
structure InnerQuote where
  mark : Char
  isTriple : Bool

/-- Whether a character ends an expression where no bracket is open. -/
def endsExpression (c : Char) : Bool :=
  c == '!' || c == ':' || c == '}' || c == '='

/-- Whether a character and the next one are a comparison. -/
def isComparison (c next : Char) : Bool :=
  next == '=' && (c == '!' || c == '=' || c == '<' || c == '>')

/-- Cuts the expression of a formatted literal, which ends before a mark outside of all brackets and
quotation marks; `closing` holds the closing marks of open brackets, and `done` the characters so
far, backwards. The fuel bounds the number of characters. -/
def cutExpression? (quote : Option InnerQuote) (closing done : List Char) :
    Nat → List Char → Option (List Char × List Char)
  | 0, _ | _, [] => none
  | fuel + 1, c :: rest =>
    if c == '\\' then none
    else
      match quote with
      | some q =>
        if c != q.mark then cutExpression? quote closing (c :: done) fuel rest
        else if !q.isTriple then cutExpression? none closing (c :: done) fuel rest
        else
          match rest with
          | d :: e :: rest' =>
            if d == c && e == c then cutExpression? none closing (c :: c :: c :: done) fuel rest'
            else cutExpression? quote closing (c :: done) fuel rest
          | _ => none
      | none =>
        if c == '\'' || c == '"' then
          match rest with
          | d :: e :: rest' =>
            if d == c && e == c then
              cutExpression? (some ⟨c, true⟩) closing (c :: c :: c :: done) fuel rest'
            else cutExpression? (some ⟨c, false⟩) closing (c :: done) fuel rest
          | _ => cutExpression? (some ⟨c, false⟩) closing (c :: done) fuel rest
        else if c == '(' || c == '[' || c == '{' then
          cutExpression? none (closingOf c :: closing) (c :: done) fuel rest
        else if c == '#' then none
        else
          match closing with
          | mark :: closing' =>
            if c == mark then cutExpression? none closing' (c :: done) fuel rest
            else if c == ')' || c == ']' || c == '}' then none
            else cutExpression? none closing (c :: done) fuel rest
          | [] =>
            match rest with
            | next :: rest' =>
              if isComparison c next then cutExpression? none [] (next :: c :: done) fuel rest'
              else if endsExpression c then some (done.reverse, c :: rest)
              else if c == ')' || c == ']' then none
              else cutExpression? none [] (c :: done) fuel rest
            | [] => if endsExpression c then some (done.reverse, [c]) else none

/-- Skips the mark that keeps the text of an expression, with blanks, and the letter of a
conversion. -/
def skipConversion? (cs : List Char) : Option (List Char) :=
  let cs := match cs with
    | '=' :: rest =>
      rest.dropWhile fun c => c == ' ' || (9 ≤ c.toNat && c.toNat ≤ 13)
    | cs => cs
  match cs with
  | '!' :: c :: rest => if c == 's' || c == 'r' || c == 'a' then some rest else none
  | ['!'] => none
  | cs => some cs

/-- Whether an expression is nothing but blanks. -/
def isVoidExpression (cs : List Char) : Bool :=
  cs.all fun c => c == ' ' || c == '\t' || c == '\n' || c == '\r' || c.toNat == 12

/-- The deepest level at which a format may hold expressions. -/
def formatLevels : Nat := 2

/-- The expressions of a formatted literal, and what follows it. At level zero the literal goes on
to the end, and at a deeper level, within a format, up to a closing brace. `plain` holds the
characters since the last expression, backwards; the fuel bounds the number of steps. -/
def formattedParts? (isCharName : String → Bool) (form : LiteralForm) (level : Nat)
    (plain : List Char) : Nat → List Char → Option (List (List Char) × List Char)
  | 0, _ => none
  | fuel + 1, cs =>
    let fits := form.holds isCharName plain.reverse
    let expression := fun (rest : List Char) => do
      if !fits || formatLevels ≤ level then none
      else
        let (e, rest) ← cutExpression? none [] [] (rest.length + 1) rest
        if isVoidExpression e then none
        else
          let rest ← skipConversion? rest
          let (inner, rest) ← match rest with
            | ':' :: rest => formattedParts? isCharName form (level + 1) [] fuel rest
            | rest => some ([], rest)
          match rest with
          | '}' :: rest =>
            let (more, rest) ← formattedParts? isCharName form level [] fuel rest
            return (e :: (inner ++ more), rest)
          | _ => none
    let brace := fun (plain : List Char) (c : Char) (rest : List Char) =>
      if level = 0 && rest.head? == some c then
        if form.holds isCharName (c :: plain).reverse then
          formattedParts? isCharName form level [] fuel (rest.drop 1)
        else none
      else if c == '{' then if form.holds isCharName plain.reverse then expression rest else none
      else if level = 0 then none
      else if form.holds isCharName plain.reverse then some ([], c :: rest) else none
    match cs with
    | [] => if fits && level = 0 then some ([], []) else none
    | c :: rest =>
      if c == '\\' && !form.isRaw then
        match rest with
        | 'N' :: '{' :: rest' =>
          let name := rest'.takeWhile (· != '}')
          if name.length < rest'.length then
            formattedParts? isCharName form level
              (('}' :: name.reverse) ++ ('{' :: 'N' :: c :: plain)) fuel
              (rest'.drop (name.length + 1))
          else none
        | d :: rest' =>
          if d == '{' || d == '}' then brace (c :: plain) d rest'
          else formattedParts? isCharName form level (d :: c :: plain) fuel rest'
        | [] => none
      else if c == '{' || c == '}' then brace plain c rest
      else formattedParts? isCharName form level (c :: plain) fuel rest

end HandlerBundle
