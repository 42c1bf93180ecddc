import HandlerBundle.Source.Expression

/-!
# Patterns

Whether tokens are a pattern, as it stands behind the word `case`: alternatives of closed patterns,
perhaps with a name for the whole. Closed patterns are constants, names, attributes, sequences,
mappings and classes.

## Main definitions

* `readPattern` — takes one pattern.
* `readPatterns` — takes the patterns of a case.
-/

namespace HandlerBundle

/-- Whether a name in front of these tokens stands alone. -/
def nameEnds : List Token → Bool
  | .mark m :: _ => !(m == "." || m == "(" || m == "=")
  | _ => true

/-- Takes a name that a pattern gives to something. -/
def takeCapture : List Token → Option (List Token)
  | .name s :: rest => if s != "_" && nameEnds rest then some rest else none
  | _ => none

/-- Takes a number, or the sum of a real and an imaginary one, behind its sign. -/
def takePatternNumber : List Token → Option (List Token)
  | .number isImaginary :: rest =>
    match rest with
    | .mark m :: rest' =>
      if m == "+" || m == "-" then
        match rest' with
        | .number true :: rest'' => if isImaginary then none else some rest''
        | _ => none
      else some rest
    | rest => some rest
  | _ => none

/-- Takes a constant of a pattern. -/
def takePatternConstant (g : Grammar) (ts : List Token) : Option (List Token) :=
  match ts with
  | .mark "-" :: rest => takePatternNumber rest
  | .number _ :: _ => takePatternNumber ts
  | .literal .. :: _ => (readAtom g ts).map Prod.snd
  | .word w :: rest => if w == "None" || w == "True" || w == "False" then some rest else none
  | _ => none

/-- Takes the further components of a dotted name, and tells whether there are any. -/
def takeDotted : Nat → List Token → Option (Bool × List Token)
  | 0, _ => none
  | fuel + 1, ts =>
    match ts with
    | .mark "." :: rest => do
      let (_, rest) ← takeName rest
      let (_, rest) ← takeDotted fuel rest
      return (true, rest)
    | ts => some (false, ts)

/-- Whether tokens begin with a pattern, perhaps starred. -/
def patternGoesOn : List Token → Bool
  | .name _ :: _ | .number _ :: _ | .literal .. :: _ => true
  | .word w :: _ => w == "None" || w == "True" || w == "False"
  | .mark m :: _ => m == "-" || m == "(" || m == "[" || m == "\x7b" || m == "*"
  | _ => false

/-- Takes a pattern or, behind a star, a name; tells whether there is a star. -/
def readStarPattern (pattern : Reader Unit) : Reader Bool
  | .mark "*" :: .name "_" :: rest => some (true, rest)
  | .mark "*" :: rest => (takeCapture rest).map fun rest => (true, rest)
  | ts => (pattern ts).map fun r => (false, r.2)

/-- Takes patterns with commas between them; one alone has no star unless a comma follows. -/
def readPatternRow (pattern : Reader Unit) (ts : List Token) : Option (Unit × List Token) := do
  let ((stars, ended), ts) ← takeItems (readStarPattern pattern) patternGoesOn (ts.length + 1) ts
  if stars == [true] && !ended then none else return ((), ts)

/-- Takes the entries of a mapping up to its closing brace. What is left over may be named behind
two stars, at the end. -/
def closeMapping (g : Grammar) (pattern : Reader Unit) : Nat → List Token → Option (List Token)
  | 0, _ => none
  | fuel + 1, ts =>
    match ts with
    | .mark "\x7d" :: rest => some rest
    | .mark "**" :: rest => do
      let rest ← takeCapture rest
      takeMark "\x7d" ((takeMark "," rest).getD rest)
    | ts => do
      let rest ← match ts with
        | .name _ :: rest => do
          let (isDotted, rest) ← takeDotted (rest.length + 1) rest
          if isDotted then some rest else none
        | ts => takePatternConstant g ts
      let (_, rest) ← pattern (← takeMark ":" rest)
      match rest with
      | .mark "," :: rest => closeMapping g pattern fuel rest
      | rest => takeMark "\x7d" rest

/-- Takes the patterns for the parts of a class up to the closing parenthesis: first those by
position, then those by keyword. Behind a position a low line is always taken as a pattern, so it is
not the first keyword there. -/
def closeClass (pattern : Reader Unit) (positionSeen keywordSeen : Bool) :
    Nat → List Token → Option (List Token)
  | 0, _ => none
  | fuel + 1, ts =>
    let next := fun (positionSeen keywordSeen : Bool) (ts : List Token) =>
      match ts with
      | .mark "," :: rest => closeClass pattern positionSeen keywordSeen fuel rest
      | ts => takeMark ")" ts
    match ts with
    | .mark ")" :: rest => some rest
    | .name s :: .mark "=" :: rest =>
      if s == "_" && positionSeen && !keywordSeen then none
      else do next positionSeen true (← pattern rest).2
    | ts => if keywordSeen then none else do next true false (← pattern ts).2

/-- Takes a closed pattern, by way of a reader for the patterns within. -/
def readClosedPattern (g : Grammar) (pattern : Reader Unit) (ts : List Token) :
    Option (Unit × List Token) :=
  match ts with
  | .name "_" :: rest => if nameEnds rest then some ((), rest) else none
  | .name _ :: rest => do
    let (_, rest) ← takeDotted (rest.length + 1) rest
    match rest with
    | .mark "(" :: rest => return ((), ← closeClass pattern false false (rest.length + 1) rest)
    | rest => if nameEnds rest then return ((), rest) else none
  | .mark "(" :: .mark ")" :: rest => some ((), rest)
  | .mark "[" :: .mark "]" :: rest => some ((), rest)
  | .mark "(" :: rest => do
    let (_, rest) ← readPatternRow pattern rest
    return ((), ← takeMark ")" rest)
  | .mark "[" :: rest => do
    let (_, rest) ← takeItems (readStarPattern pattern) patternGoesOn (rest.length + 1) rest
    return ((), ← takeMark "]" rest)
  | .mark "\x7b" :: rest => do return ((), ← closeMapping g pattern (rest.length + 1) rest)
  | ts => do return ((), ← takePatternConstant g ts)

/-- Takes one pattern. The fuel bounds the depth of patterns within patterns. -/
def readPattern (g : Grammar) : Nat → Reader Unit
  | 0, _ => none
  | fuel + 1, ts => do
    let (_, ts) ← takeChain () (readClosedPattern g (readPattern g fuel)) (takeMark "|")
      (ts.length + 1) ts
    match ts with
    | .word "as" :: rest => return ((), ← takeCapture rest)
    | ts => return ((), ts)

/-- Takes the patterns of a case. -/
def readPatterns (g : Grammar) (ts : List Token) : Option (List Token) :=
  (readPatternRow (readPattern g (ts.length + 1)) ts).map Prod.snd

end HandlerBundle
