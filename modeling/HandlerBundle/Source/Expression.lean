import HandlerBundle.Source.Token

/-!
# Expressions

Whether tokens are an expression of the program grammar. A reader takes an expression off the front
and returns its shape, which says no more than what an assignment can do with it. The readers call
each other through a `Grammar`, which a bound on the depth of calls ties together.

## Main definitions

* `Shape` — the shape of an expression; `Shape.isTarget`, `Shape.isSingle`, `Shape.isRemovable`.
* `Goal`, `Grammar` — what is to be read, and a reader for each.
* `grammar` — the readers of expressions.
-/

namespace HandlerBundle

/-- What an assignment can do with an expression. -/
inductive Shape where
  | name
  /-- An attribute or an item of something. -/
  | part
  | group (inner : Shape)
  /-- Several expressions in a tuple or a list. -/
  | row (items : List Shape)
  | starred (inner : Shape)
  | other
  deriving Repr

namespace Shape

mutual

/-- Whether a value can be assigned to an expression of the shape. -/
def isTarget : Shape → Bool
  | .name | .part => true
  | .group inner => isTarget inner
  | .row items => areTargets items
  | .starred inner => isTarget inner
  | .other => false

/-- Whether values can be assigned to all of them. -/
def areTargets : List Shape → Bool
  | [] => true
  | s :: ss => isTarget s && areTargets ss

end

/-- Whether the expression is one name or part, perhaps in brackets. -/
def isSingle : Shape → Bool
  | .name | .part => true
  | .group inner => isSingle inner
  | _ => false

mutual

/-- Whether an expression of the shape can be removed. -/
def isRemovable : Shape → Bool
  | .name | .part => true
  | .group inner => isRemovable inner
  | .row items => areRemovable items
  | _ => false

/-- Whether all of them can be removed. -/
def areRemovable : List Shape → Bool
  | [] => true
  | s :: ss => isRemovable s && areRemovable ss

end

end Shape

/-- Takes something off the front of tokens. -/
abbrev Reader (α : Type) := List Token → Option (α × List Token)

/-- What is to be read. -/
inductive Goal where
  | expression
  /-- An expression, or a name with a value for it. -/
  | named
  /-- Expressions with commas between them, some of them starred. -/
  | list
  | disjunction
  /-- An expression above the comparisons. -/
  | operand
  | primary
  /-- Text literals one after the other. -/
  | literals
  /-- Targets of a loop with commas between them. -/
  | targets
  | yield
  deriving DecidableEq, Repr

/-- A reader for each goal. -/
abbrev Grammar := Goal → Reader Shape

/-- Takes a mark. -/
def takeMark (m : String) : List Token → Option (List Token)
  | .mark n :: rest => if m == n then some rest else none
  | _ => none

/-- Takes a reserved word. -/
def takeWord (w : String) : List Token → Option (List Token)
  | .word v :: rest => if w == v then some rest else none
  | _ => none

/-- Takes a name. -/
def takeName : Reader String
  | .name s :: rest => some (s, rest)
  | _ => none

/-- Whether a token can begin an expression. -/
def beginsExpression : Token → Bool
  | .name _ | .number _ | .literal .. => true
  | .word w => ["None", "True", "False", "not", "lambda", "await"].contains w
  | .mark m => ["(", "[", "\x7b", "-", "+", "~", "..."].contains m
  | _ => false

/-- Whether tokens begin with an expression, perhaps starred. -/
def goesOn : List Token → Bool
  | .mark "*" :: _ => true
  | t :: _ => beginsExpression t
  | [] => false

/-- Takes items with commas between them, and tells whether a comma follows the last one. An item
follows a comma if `more` says so. The fuel bounds the number of items. -/
def takeItems {α : Type} (item : Reader α) (more : List Token → Bool) :
    Nat → Reader (List α × Bool)
  | 0, _ => none
  | fuel + 1, ts => do
    let (x, ts) ← item ts
    match ts with
    | .mark "," :: rest =>
      if more rest then
        let ((xs, ended), rest) ← takeItems item more fuel rest
        return ((x :: xs, ended), rest)
      else return (([x], true), rest)
    | ts => return (([x], false), ts)

/-- Takes operands with operators between them; alone, an operand counts as it is. -/
def takeChain {α : Type} (chained : α) (operand : Reader α)
    (operator : List Token → Option (List Token)) : Nat → Reader α
  | 0, _ => none
  | fuel + 1, ts => do
    let (s, ts) ← operand ts
    match operator ts with
    | some rest =>
      let (_, rest) ← takeChain chained operand operator fuel rest
      return (chained, rest)
    | none => return (s, ts)

/-- The shape of items in a row: a single item without a comma is itself. -/
def rowShape (items : List Shape) (ended : Bool) : Shape :=
  match items with
  | [s] => if ended then .row [s] else s
  | ss => .row ss

/-! ### Operators -/

/-- The operators between operands. -/
def takeOperator : List Token → Option (List Token)
  | .mark m :: rest =>
    if ["|", "^", "&", "<<", ">>", "+", "-", "*", "/", "//", "%", "@", "**"].contains m then
      some rest
    else none
  | _ => none

/-- The comparisons. -/
def takeComparison : List Token → Option (List Token)
  | .mark m :: rest =>
    if ["==", "!=", "<=", "<", ">=", ">"].contains m then some rest else none
  | .word "in" :: rest => some rest
  | .word "not" :: .word "in" :: rest => some rest
  | .word "is" :: .word "not" :: rest => some rest
  | .word "is" :: rest => some rest
  | _ => none

/-- The words between conditions. -/
def takeConnective : List Token → Option (List Token)
  | .word "and" :: rest | .word "or" :: rest => some rest
  | _ => none

/-- Takes signs and then a primary expression, which may be awaited. -/
def readFactor (g : Grammar) : Nat → Reader Shape
  | 0, _ => none
  | fuel + 1, ts =>
    match ts with
    | .mark m :: rest =>
      if m == "-" || m == "+" || m == "~" then
        (readFactor g fuel rest).map fun r => (.other, r.2)
      else g .primary ts
    | .word "await" :: rest => (g .primary rest).map fun r => (.other, r.2)
    | ts => g .primary ts

/-- Takes negations and then a comparison. -/
def readCondition (g : Grammar) : Nat → Reader Shape
  | 0, _ => none
  | fuel + 1, ts =>
    match ts with
    | .word "not" :: rest => (readCondition g fuel rest).map fun r => (.other, r.2)
    | ts => takeChain .other (g .operand) takeComparison (ts.length + 1) ts

/-- Takes an expression or, behind a star, an operand. -/
def readStarred (g : Grammar) (goal : Goal) : Reader Shape
  | .mark "*" :: rest => (g .operand rest).map fun r => (.starred r.1, r.2)
  | ts => g goal ts

/-! ### Comprehensions -/

/-- Whether the clauses of a comprehension come next. -/
def beginsClauses : List Token → Bool
  | .word "for" :: _ | .word "async" :: .word "for" :: _ => true
  | _ => false

/-- Takes the conditions of a clause. -/
def takeConditions (g : Grammar) : Nat → List Token → Option (List Token)
  | 0, _ => none
  | fuel + 1, ts =>
    match ts with
    | .word "if" :: rest => do
      let (_, rest) ← g .disjunction rest
      takeConditions g fuel rest
    | ts => some ts

/-- Takes the clauses of a comprehension. -/
def takeClauses (g : Grammar) : Nat → List Token → Option (List Token)
  | 0, _ => none
  | fuel + 1, ts => do
    let ts := (takeWord "async" ts).getD ts
    let ts ← takeWord "for" ts
    let (_, ts) ← g .targets ts
    let ts ← takeWord "in" ts
    let (_, ts) ← g .disjunction ts
    let ts ← takeConditions g (ts.length + 1) ts
    if beginsClauses ts then takeClauses g fuel ts else return ts

/-- Takes clauses and a closing mark. -/
def closeClauses (g : Grammar) (closing : String) (ts : List Token) :
    Option (Shape × List Token) := do
  let ts ← takeClauses g (ts.length + 1) ts
  return (.other, ← takeMark closing ts)

/-! ### Displays -/

/-- Takes what follows an opening parenthesis. -/
def readParenthesis (g : Grammar) (ts : List Token) : Option (Shape × List Token) :=
  match ts with
  | .mark ")" :: rest => some (.row [], rest)
  | .word "yield" :: _ => do
    let (_, ts) ← g .yield ts
    return (.group .other, ← takeMark ")" ts)
  | _ => do
    let ((items, ended), rest) ← takeItems (readStarred g .named) goesOn (ts.length + 1) ts
    match items with
    | [.starred s] => if ended then return (.row [.starred s], ← takeMark ")" rest) else none
    | [s] =>
      if ended then return (.row [s], ← takeMark ")" rest)
      else if beginsClauses rest then closeClauses g ")" rest
      else return (.group s, ← takeMark ")" rest)
    | items => return (.row items, ← takeMark ")" rest)

/-- Takes what follows an opening bracket of a list. -/
def readListDisplay (g : Grammar) (ts : List Token) : Option (Shape × List Token) :=
  match ts with
  | .mark "]" :: rest => some (.row [], rest)
  | _ => do
    let ((items, ended), rest) ← takeItems (readStarred g .named) goesOn (ts.length + 1) ts
    match items, ended with
    | [.starred s], _ => return (.row [.starred s], ← takeMark "]" rest)
    | [s], false =>
      if beginsClauses rest then closeClauses g "]" rest
      else return (.row [s], ← takeMark "]" rest)
    | items, _ => return (.row items, ← takeMark "]" rest)

/-- Takes one entry of a dictionary. -/
def readEntry (g : Grammar) : Reader Unit
  | .mark "**" :: rest => (g .operand rest).map fun r => ((), r.2)
  | ts => do
    let (_, ts) ← g .expression ts
    let ts ← takeMark ":" ts
    let (_, ts) ← g .expression ts
    return ((), ts)

/-- Takes further items behind a first one, and the closing mark. -/
def closeItems {α : Type} (item : Reader α) (more : List Token → Bool) (closing : String)
    (ts : List Token) : Option (List Token) :=
  match ts with
  | .mark "," :: rest =>
    if more rest then do
      let (_, rest) ← takeItems item more (rest.length + 1) rest
      takeMark closing rest
    else takeMark closing rest
  | ts => takeMark closing ts

/-- Whether a name with a value for it comes next. -/
def beginsNamed : List Token → Bool
  | .name _ :: .mark ":=" :: _ => true
  | _ => false

/-- Takes what follows an opening brace. -/
def readBrace (g : Grammar) (ts : List Token) : Option (Shape × List Token) :=
  let more := fun (ts : List Token) => goesOn ts || (takeMark "**" ts).isSome
  match ts with
  | .mark "\x7d" :: rest => some (.other, rest)
  | .mark "**" :: _ => do
    let (_, rest) ← readEntry g ts
    return (.other, ← closeItems (readEntry g) more "\x7d" rest)
  | .mark "*" :: _ => do
    let (_, rest) ← readStarred g .named ts
    return (.other, ← closeItems (readStarred g .named) goesOn "\x7d" rest)
  | _ => do
    let (_, rest) ← g .named ts
    match rest with
    | .mark ":" :: rest =>
      if beginsNamed ts then none
      else
        let (_, rest) ← g .expression rest
        if beginsClauses rest then closeClauses g "\x7d" rest
        else return (.other, ← closeItems (readEntry g) more "\x7d" rest)
    | rest =>
      if beginsClauses rest then closeClauses g "\x7d" rest
      else return (.other, ← closeItems (readStarred g .named) goesOn "\x7d" rest)

/-- Takes further text literals behind a first one, all of one kind, and gathers the texts of the
expressions in them. -/
def takeLiterals (isBytes : Bool) : List Token → Option (List (List Char) × List Token)
  | .literal isBytes' expressions :: rest => do
    if isBytes != isBytes' then none
    else
      let (more, rest) ← takeLiterals isBytes rest
      return (expressions ++ more, rest)
  | ts => some ([], ts)

/-- Whether characters are an expression in a formatted literal, as between parentheses. -/
def isInnerExpression (isCharName : String → Bool) (g : Grammar) (cs : List Char) : Bool :=
  match tokens? isCharName ('(' :: (cs ++ [')', '\n'])) with
  | some ts => (g .list ts).isSome
  | none => false

/-- Takes text literals, in which the texts of expressions have to be expressions. -/
def readLiterals (isCharName : String → Bool) (g : Grammar) : Reader Shape
  | .literal isBytes expressions :: rest => do
    let (more, rest) ← takeLiterals isBytes rest
    if (expressions ++ more).all (isInnerExpression isCharName g) then return (.other, rest)
    else none
  | _ => none

/-- Takes an expression without operators and trailers. -/
def readAtom (g : Grammar) : Reader Shape
  | .name _ :: rest => some (.name, rest)
  | .number _ :: rest => some (.other, rest)
  | .literal isBytes expressions :: rest => g .literals (.literal isBytes expressions :: rest)
  | .word w :: rest =>
    if w == "None" || w == "True" || w == "False" then some (.other, rest) else none
  | .mark m :: rest =>
    if m == "(" then readParenthesis g rest
    else if m == "[" then readListDisplay g rest
    else if m == "\x7b" then readBrace g rest
    else if m == "..." then some (.other, rest)
    else none
  | _ => none

/-! ### Calls and subscripts -/

/-- An argument of a call. -/
inductive Argument where
  | positional
  /-- An expression with the clauses of a comprehension. -/
  | generator
  | spread
  | keyword
  | keywordSpread
  deriving DecidableEq, Repr

/-- Takes one argument. -/
def readArgument (g : Grammar) : Reader Argument
  | .mark "*" :: rest => (g .expression rest).map fun r => (.spread, r.2)
  | .mark "**" :: rest => (g .expression rest).map fun r => (.keywordSpread, r.2)
  | .name _ :: .mark "=" :: rest => (g .expression rest).map fun r => (.keyword, r.2)
  | ts => do
    let (_, ts) ← g .named ts
    if beginsClauses ts then return (.generator, ← takeClauses g (ts.length + 1) ts)
    else return (.positional, ts)

/-- Whether arguments are in an order that a call may have: nothing by position after a keyword, and
no spread after a spread of keywords. -/
def argumentsInOrder : List Argument → Bool
  | [] => true
  | a :: rest =>
    argumentsInOrder rest &&
      match a with
      | .generator => false
      | .keyword => !rest.contains .positional
      | .keywordSpread => !rest.contains .positional && !rest.contains .spread
      | _ => true

/-- Takes the arguments of a call and its closing parenthesis. A comprehension may stand alone. -/
def closeCall (g : Grammar) (generatorAllowed : Bool) (ts : List Token) : Option (List Token) :=
  match ts with
  | .mark ")" :: rest => some rest
  | _ => do
    let more := fun (ts : List Token) => goesOn ts || (takeMark "**" ts).isSome
    let ((arguments, ended), rest) ← takeItems (readArgument g) more (ts.length + 1) ts
    if argumentsInOrder arguments || (generatorAllowed && arguments == [.generator] && !ended) then
      takeMark ")" rest
    else none

/-- Takes an expression if one comes next. -/
def skipExpression (g : Grammar) (ts : List Token) : Option (List Token) :=
  match ts with
  | t :: _ => if beginsExpression t then (g .expression ts).map Prod.snd else some ts
  | [] => some []

/-- Takes the rest of a slice, behind its first colon. -/
def closeSlice (g : Grammar) (ts : List Token) : Option (Unit × List Token) := do
  let ts ← skipExpression g ts
  match ts with
  | .mark ":" :: rest => return ((), ← skipExpression g rest)
  | ts => return ((), ts)

/-- Takes one item of a subscript. -/
def readSubscript (g : Grammar) : Reader Unit
  | .mark ":" :: rest => closeSlice g rest
  | .mark "*" :: rest => (g .operand rest).map fun r => ((), r.2)
  | ts =>
    match ts with
    | .name _ :: .mark ":=" :: _ => (g .named ts).map fun r => ((), r.2)
    | ts => do
      let (_, ts) ← g .expression ts
      match ts with
      | .mark ":" :: rest => closeSlice g rest
      | ts => return ((), ts)

/-- Takes attributes, calls and subscripts behind an expression. -/
def readTrailers (g : Grammar) : Nat → Shape → Reader Shape
  | 0, _, _ => none
  | fuel + 1, s, ts =>
    match ts with
    | .mark "." :: rest => do
      let (_, rest) ← takeName rest
      readTrailers g fuel .part rest
    | .mark "(" :: rest => do readTrailers g fuel .other (← closeCall g true rest)
    | .mark "[" :: rest => do
      let more := fun (ts : List Token) => goesOn ts || (takeMark ":" ts).isSome
      let (_, rest) ← takeItems (readSubscript g) more (rest.length + 1) rest
      readTrailers g fuel .part (← takeMark "]" rest)
    | ts => some (s, ts)

/-- Takes an atom with its trailers. -/
def readPrimary (g : Grammar) (ts : List Token) : Option (Shape × List Token) := do
  let (s, ts) ← readAtom g ts
  readTrailers g (ts.length + 1) s ts

/-! ### Parameters -/

/-- How far a list of parameters is. -/
structure ParameterState where
  names : List String := []
  hasDefault : Bool := false
  slashSeen : Bool := false
  starSeen : Bool := false
  /-- A star alone needs a parameter behind it. -/
  starPending : Bool := false

/-- Takes the annotation of a parameter, where there may be one. -/
def skipAnnotation (g : Grammar) (annotated starAllowed : Bool) (ts : List Token) :
    Option (List Token) :=
  match ts with
  | .mark ":" :: rest =>
    if !annotated then some ts
    else if starAllowed then (readStarred g .expression rest).map Prod.snd
    else (g .expression rest).map Prod.snd
  | ts => some ts

/-- Takes parameters up to the closing mark, which is left there. The fuel bounds their number. -/
def readParameters (g : Grammar) (annotated : Bool) (closing : String) (state : ParameterState) :
    Nat → Reader (List String)
  | 0, _ => none
  | fuel + 1, ts =>
    let next := fun (state : ParameterState) (ts : List Token) =>
      match ts with
      | .mark "," :: rest => readParameters g annotated closing state fuel rest
      | ts =>
        if (takeMark closing ts).isSome && !state.starPending then
          some (state.names.reverse, ts)
        else none
    if (takeMark closing ts).isSome then
      if state.starPending then none else some (state.names.reverse, ts)
    else
      match ts with
      | .mark "/" :: rest =>
        if state.slashSeen || state.starSeen || state.names.isEmpty then none
        else next { state with slashSeen := true } rest
      | .mark "*" :: .mark "," :: rest =>
        if state.starSeen then none
        else readParameters g annotated closing
          { state with starSeen := true, starPending := true } fuel rest
      | .mark "*" :: .name s :: rest =>
        if state.starSeen then none
        else do
          next { state with starSeen := true, names := s :: state.names }
            (← skipAnnotation g annotated true rest)
      | .mark "**" :: .name s :: rest =>
        if state.starPending then none
        else do
          let rest ← skipAnnotation g annotated false rest
          let rest := (takeMark "," rest).getD rest
          if (takeMark closing rest).isSome then return ((s :: state.names).reverse, rest)
          else none
      | .name s :: rest => do
        let rest ← skipAnnotation g annotated false rest
        let state := { state with names := s :: state.names, starPending := false }
        match rest with
        | .mark "=" :: rest =>
          let (_, rest) ← g .expression rest
          next { state with hasDefault := true } rest
        | rest => if state.hasDefault && !state.starSeen then none else next state rest
      | _ => none

/-! ### Expressions -/

/-- Takes an expression: with a condition, or a function without name. -/
def readExpression (g : Grammar) (ts : List Token) : Option (Shape × List Token) :=
  match ts with
  | .word "lambda" :: rest => do
    let (_, rest) ← readParameters g false ":" {} (rest.length + 1) rest
    let (_, rest) ← g .expression (← takeMark ":" rest)
    return (.other, rest)
  | ts => do
    let (s, ts) ← g .disjunction ts
    match ts with
    | .word "if" :: rest =>
      let (_, rest) ← g .disjunction rest
      let (_, rest) ← g .expression (← takeWord "else" rest)
      return (.other, rest)
    | ts => return (s, ts)

/-- Takes what stands behind the word for yielding a value. -/
def readYield (g : Grammar) (ts : List Token) : Option (Shape × List Token) := do
  let ts ← takeWord "yield" ts
  match ts with
  | .word "from" :: rest => (g .expression rest).map fun r => (.other, r.2)
  | ts => if goesOn ts then (g .list ts).map fun r => (.other, r.2) else return (.other, ts)

/-- Takes one target of a loop. -/
def readTarget (g : Grammar) : Reader Shape
  | .mark "*" :: rest => (g .primary rest).map fun r => (.starred r.1, r.2)
  | ts => g .primary ts

/-- Reads what a goal asks for, by way of the readers for its parts. -/
def readGoal (isCharName : String → Bool) (g : Grammar) (goal : Goal) (ts : List Token) :
    Option (Shape × List Token) :=
  match goal with
  | .expression => readExpression g ts
  | .named =>
    match ts with
    | .name _ :: .mark ":=" :: rest => (g .expression rest).map fun r => (.other, r.2)
    | ts => g .expression ts
  | .list => do
    let ((items, ended), ts) ← takeItems (readStarred g .expression) goesOn (ts.length + 1) ts
    return (rowShape items ended, ts)
  | .disjunction =>
    takeChain .other (readCondition g (ts.length + 1)) takeConnective (ts.length + 1) ts
  | .operand => takeChain .other (readFactor g (ts.length + 1)) takeOperator (ts.length + 1) ts
  | .primary => readPrimary g ts
  | .literals => readLiterals isCharName g ts
  | .targets => do
    let ((items, ended), ts) ← takeItems (readTarget g) goesOn (ts.length + 1) ts
    let s := rowShape items ended
    if s.isTarget then return (s, ts) else none
  | .yield => readYield g ts

/-- The readers of expressions, for calls that are nested at most so deep. -/
def grammar (isCharName : String → Bool) : Nat → Grammar
  | 0 => fun _ _ => none
  | depth + 1 => fun goal ts => readGoal isCharName (grammar isCharName depth) goal ts

end HandlerBundle
