import HandlerBundle.Source.Literal
import HandlerBundle.Text.Composed
import HandlerBundle.Text.Identifier
import HandlerBundle.Text.Numeral

/-!
# Tokens

The words, numbers, literals and marks of a source, and its layout: where a logical line ends, and
where a block opens and closes. Layout counts blanks twice, with wide and with narrow tabulators,
and both counts have to agree on which of two lines is indented further.

## Main definitions

* `Token`.
* `takeNumber?`, `takeWord?`, `takeLiteral?`, `takeMark?` — one token off the front.
* `tokens?` — the tokens of a source.
-/

namespace HandlerBundle

/-- A token. -/
inductive Token where
  /-- A name, in composed form. -/
  | name (s : String)
  /-- A reserved word. -/
  | word (s : String)
  | number (isImaginary : Bool)
  /-- A text literal with the texts of the expressions it holds. -/
  | literal (isBytes : Bool) (expressions : List (List Char))
  | mark (s : String)
  | lineEnd
  | indent
  | dedent
  deriving DecidableEq, Repr

/-! ### Names -/

/-- Whether a character may stand in a word, as far as its end is concerned. -/
def isWordChar (c : Char) : Bool :=
  c.isAlphanum || c == '_' || 128 ≤ c.toNat

/-- A word as a token: reserved, or a name. -/
def wordToken? (cs : List Char) : Option Token :=
  let s := String.ofList cs
  if reservedWords.contains s then some (.word s)
  else if isIdentifier s then some (.name (composedText s))
  else none

/-! ### Numbers -/

/-- Takes digits of a class, with single low lines between them, off the front. At the start and
after a low line there must be one. -/
def takeDigitsFrom? (isDigit : Char → Bool) (isDue : Bool) :
    List Char → Option (List Char × List Char)
  | [] => if isDue then none else some ([], [])
  | c :: rest =>
    if isDigit c then (takeDigitsFrom? isDigit false rest).map fun r => (c :: r.1, r.2)
    else if isDue then none
    else if c == '_' then takeDigitsFrom? isDigit true rest
    else some ([], c :: rest)

/-- Takes digits of a class off the front. -/
def takeDigits? (isDigit : Char → Bool) (cs : List Char) : Option (List Char × List Char) :=
  takeDigitsFrom? isDigit true cs

/-- Takes digits in another base, after the letter of the base and perhaps a low line. -/
def takeBaseDigits? (isDigit : Char → Bool) (cs : List Char) : Option (List Char) :=
  let cs := match cs with
    | '_' :: rest => rest
    | cs => cs
  match takeDigits? isDigit cs with
  | some (_, c :: rest) => if c.isDigit then none else some (c :: rest)
  | some (_, []) => some []
  | none => none

/-- The words that may follow a number without a blank. -/
def wordsAfterNumber : List String :=
  ["and", "else", "for", "if", "in", "is", "or", "not"]

/-- Whether a number may end in front of these characters. -/
def endsNumber (cs : List Char) : Bool :=
  match cs with
  | c :: _ => !isWordChar c || wordsAfterNumber.any fun w => w.toList.isPrefixOf cs
  | [] => true

/-- Takes an exponent off the front, if there is one: a letter is part of the number only if digits
follow. -/
def takeExponent? : List Char → Option (List Char)
  | c :: rest =>
    if c == 'e' || c == 'E' then
      match rest with
      | d :: rest' =>
        if d == '+' || d == '-' then (takeDigits? Char.isDigit rest').map Prod.snd
        else if d.isDigit then (takeDigits? Char.isDigit rest).map Prod.snd
        else some (c :: rest)
      | [] => some [c]
    else some (c :: rest)
  | [] => some []

/-- Ends a decimal number, which is imaginary if a letter says so. -/
def endDecimal? (cs : List Char) : Option (Token × List Char) :=
  match cs with
  | c :: rest =>
    if c == 'j' || c == 'J' then if endsNumber rest then some (.number true, rest) else none
    else if endsNumber cs then some (.number false, cs) else none
  | [] => some (.number false, [])

/-- Takes what follows the point of a number. -/
def takeFraction? (cs : List Char) : Option (Token × List Char) := do
  let cs ← match cs with
    | c :: _ => if c.isDigit then (takeDigits? Char.isDigit cs).map Prod.snd else some cs
    | [] => some []
  endDecimal? (← takeExponent? cs)

/-- Takes a number that begins with a digit. An integer of more than one digit does not begin with
zero, unless all its digits are zero. -/
def takeDecimal? (cs : List Char) : Option (Token × List Char) := do
  let (digits, rest) ← takeDigits? Char.isDigit cs
  match rest with
  | '.' :: rest => takeFraction? rest
  | _ =>
    let (token, after) ← endDecimal? (← takeExponent? rest)
    if after.length == rest.length then
      let leadingZero := digits.head? == some '0' && digits.any (· != '0')
      if leadingZero || integerDigitLimit < digits.length then none
      else return (token, after)
    else return (token, after)

/-- Takes a number. -/
def takeNumber? (cs : List Char) : Option (Token × List Char) :=
  let other := fun (isDigit : Char → Bool) (rest : List Char) => do
    let rest ← takeBaseDigits? isDigit rest
    if endsNumber rest then return (Token.number false, rest) else none
  match cs with
  | '0' :: c :: rest =>
    if c == 'x' || c == 'X' then other isHexDigit rest
    else if c == 'o' || c == 'O' then other (fun d => '0' ≤ d && d ≤ '7') rest
    else if c == 'b' || c == 'B' then other (fun d => d == '0' || d == '1') rest
    else takeDecimal? cs
  | '.' :: rest => takeFraction? rest
  | cs => takeDecimal? cs

/-! ### Text literals -/

/-- Cuts a literal before its closing mark, on one line unless the mark is triple; `done` holds the
characters so far, backwards. -/
def cutLiteral? (quote : InnerQuote) (done : List Char) :
    List Char → Option (List Char × List Char)
  | [] => none
  | '\\' :: c :: rest => cutLiteral? quote (c :: '\\' :: done) rest
  | c :: rest =>
    if c == '\n' && !quote.isTriple then none
    else if c != quote.mark then cutLiteral? quote (c :: done) rest
    else if !quote.isTriple then some (done.reverse, rest)
    else
      match rest with
      | d :: e :: rest' =>
        if d == c && e == c then some (done.reverse, rest') else cutLiteral? quote (c :: done) rest
      | _ => none

/-- Takes a literal whose opening mark comes next. -/
def takeLiteral? (isCharName : String → Bool) (form : LiteralForm) :
    List Char → Option (Token × List Char)
  | mark :: rest => do
    let (quote, rest) := match rest with
      | d :: e :: rest' =>
        if d == mark && e == mark then (InnerQuote.mk mark true, rest') else (⟨mark, false⟩, rest)
      | _ => (⟨mark, false⟩, rest)
    let (body, rest) ← cutLiteral? quote [] rest
    if form.isFormatted then
      let (expressions, _) ← formattedParts? isCharName form 0 [] (2 * body.length + 2) body
      return (.literal false expressions, rest)
    else if form.holds isCharName body then return (.literal form.isBytes [], rest)
    else none
  | [] => none

/-- Takes a word, or the literal that it introduces. -/
def takeWord? (isCharName : String → Bool) (cs : List Char) : Option (Token × List Char) :=
  let word := cs.takeWhile isWordChar
  let rest := cs.dropWhile isWordChar
  let plain := (wordToken? word).map fun t => (t, rest)
  match rest with
  | c :: _ =>
    if c == '\'' || c == '"' then
      match LiteralForm.ofLetters? word with
      | some form => takeLiteral? isCharName form rest
      | none => plain
    else plain
  | [] => plain

/-! ### Marks -/

/-- The marks of several characters, longer ones first. -/
def longMarks : List String :=
  ["**=", "//=", ">>=", "<<=", "...", "!=", "%=", "&=", "**", "*=", "+=", "-=", "->", "//", "/=",
    ":=", "<<", "<=", "==", ">=", ">>", "@=", "^=", "|="]

/-- The marks of one character. -/
def shortMarks : List Char :=
  ['%', '&', '(', ')', '*', '+', ',', '-', '.', '/', ':', ';', '<', '=', '>', '@', '[', ']', '^',
    '{', '|', '}', '~']

/-- Takes a mark, the longest one possible. -/
def takeMark? (cs : List Char) : Option (String × List Char) :=
  match longMarks.find? fun m => m.toList.isPrefixOf cs with
  | some m => some (m, cs.drop m.length)
  | none =>
    match cs with
    | c :: rest => if shortMarks.contains c then some (String.ofList [c], rest) else none
    | [] => none

/-! ### Layout -/

/-- The column of a line, with wide and with narrow tabulators. -/
structure Column where
  wide : Nat
  narrow : Nat
  deriving DecidableEq, Repr

namespace Column

/-- The column at the start of a line. -/
def start : Column := ⟨0, 0⟩

/-- The column after a blank. -/
def after (c : Char) (col : Column) : Column :=
  if c == ' ' then ⟨col.wide + 1, col.narrow + 1⟩
  else if c == '\t' then ⟨(col.wide / 8 + 1) * 8, col.narrow + 1⟩
  else start

end Column

/-- Whether a character is a blank within a line. -/
def isLayoutBlank (c : Char) : Bool :=
  c == ' ' || c == '\t' || c.toNat == 12

/-- Skips the blanks at the start of a line and finds its column, which is that of the first part
where a line goes on behind a backslash. -/
def skipIndentation? (col : Column) (joined : Option Column) :
    List Char → Option (Column × List Char)
  | '\\' :: '\n' :: rest =>
    if rest.isEmpty then none
    else
      let joined := match joined with
        | some first => some first
        | none => if col.wide = 0 then none else some ⟨col.wide, col.wide⟩
      skipIndentation? col joined rest
  | c :: rest =>
    if isLayoutBlank c then skipIndentation? (col.after c) joined rest
    else some (joined.getD col, c :: rest)
  | [] => some (joined.getD col, [])

/-- The greatest number of open blocks. -/
def blockLimit : Nat := 100

/-- The greatest number of open brackets. -/
def bracketLimit : Nat := 200

/-- Closes the open blocks that a line leaves; `open_` holds their columns, innermost first. The
line must stand at a column that is left. -/
def closeBlocks? (col : Column) : List Column → Option (Nat × List Column)
  | [] => if col = Column.start then some (0, []) else none
  | top :: outer =>
    if col.wide < top.wide then (closeBlocks? col outer).map fun r => (r.1 + 1, r.2)
    else if col = top then some (0, top :: outer)
    else none

/-- The layout tokens in front of a line at a column. -/
def layout? (col : Column) (blocks : List Column) : Option (List Token × List Column) :=
  let top := blocks.headD Column.start
  if col.wide = top.wide then if col.narrow = top.narrow then some ([], blocks) else none
  else if top.wide < col.wide then
    if top.narrow < col.narrow && blocks.length + 2 ≤ blockLimit then
      some ([.indent], col :: blocks)
    else none
  else
    (closeBlocks? col blocks).map fun r => (List.replicate r.1 .dedent, r.2)

/-! ### Whole sources -/

/-- Where the reading of tokens stands. -/
structure TokenState where
  /-- Whether a line begins here. -/
  atStart : Bool
  blocks : List Column
  /-- The number of open brackets. -/
  depth : Nat

/-- The number of open brackets after a mark. -/
def depthAfter? (mark : String) (depth : Nat) : Option Nat :=
  if mark == "(" || mark == "[" || mark == "\x7b" then
    if bracketLimit ≤ depth then none else some (depth + 1)
  else if mark == ")" || mark == "]" || mark == "\x7d" then
    if depth = 0 then none else some (depth - 1)
  else some depth

/-- Takes one token that is not layout. -/
def takeToken? (isCharName : String → Bool) (cs : List Char) : Option (Token × List Char) :=
  match cs with
  | c :: rest =>
    let startsNumber := c.isDigit || (c == '.' && rest.head?.any Char.isDigit)
    if startsNumber then takeNumber? cs
    else if isWordChar c then takeWord? isCharName cs
    else if c == '\'' || c == '"' then takeLiteral? isCharName {} cs
    else (takeMark? cs).map fun r => (.mark r.1, r.2)
  | [] => none

/-- Reads tokens to the end of the source; `done` holds those so far, backwards. The fuel bounds the
number of steps. -/
def readTokens? (isCharName : String → Bool) (state : TokenState) (done : List Token) :
    Nat → List Char → Option (List Token)
  | 0, _ => none
  | fuel + 1, cs =>
    if state.atStart then
      match skipIndentation? Column.start none cs with
      | none => none
      | some (col, rest) =>
        let isIdle := rest.head? == some '#' || rest.head? == some '\n'
        if isIdle || state.depth != 0 then
          -- A line without tokens has no layout, and neither has one within brackets.
          let skipped := if isIdle then rest.dropWhile (· != '\n') |>.drop 1 else rest
          if skipped.isEmpty && state.depth != 0 then none
          else readTokens? isCharName { state with atStart := isIdle } done fuel skipped
        else
          match layout? (if rest.isEmpty then Column.start else col) state.blocks with
          | none => none
          | some (marks, blocks) =>
            if rest.isEmpty then some (marks.reverse ++ done).reverse
            else readTokens? isCharName ⟨false, blocks, 0⟩ (marks ++ done) fuel rest
    else
      match cs.dropWhile isLayoutBlank with
      | [] => none
      | '\n' :: rest =>
        let done := if state.depth = 0 then .lineEnd :: done else done
        readTokens? isCharName { state with atStart := true } done fuel rest
      | '#' :: rest => readTokens? isCharName state done fuel (rest.dropWhile (· != '\n'))
      | '\\' :: '\n' :: rest =>
        if rest.isEmpty then none else readTokens? isCharName state done fuel rest
      | rest =>
        match takeToken? isCharName rest with
        | none => none
        | some (token, rest) =>
          match token with
          | .mark m =>
            match depthAfter? m state.depth with
            | some depth => readTokens? isCharName { state with depth } (token :: done) fuel rest
            | none => none
          | _ => readTokens? isCharName state (token :: done) fuel rest

/-- The tokens of a source whose last character is a line feed. -/
def tokens? (isCharName : String → Bool) (cs : List Char) : Option (List Token) :=
  readTokens? isCharName ⟨true, [], 0⟩ [] (2 * cs.length + 2) cs

end HandlerBundle
