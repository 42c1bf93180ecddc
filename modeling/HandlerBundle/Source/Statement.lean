import HandlerBundle.Source.Pattern

/-!
# Statements

The statements of a source, as far as its imports and its names are concerned. Every statement that
holds others, and every clause that stands for itself, is a node with the statements below it.

## Main definitions

* `Statement` — the statements.
* `parseTokens?`, `parseSource` — the statements of a source.
* `Statement.areScoped` — whether no name is a parameter twice, or a parameter and global.
-/

namespace HandlerBundle

/-- A statement. -/
inductive Statement where
  /-- A statement that imports nothing. -/
  | plain
  | importNames (names : List String)
  /-- An import of names from a module, which is found so many packages up; all names are imported
  where none is listed. -/
  | importFrom (level : Nat) (module : Option String) (names : List String)
  | global (names : List String)
  /-- A function with its parameters, or a class, which has none. -/
  | scope (parameters : List String) (body : List Statement)
  /-- Any other statement that holds statements, or a clause of one. -/
  | block (body : List Statement)
  deriving Repr, Inhabited

/-! ### Simple statements -/

/-- Takes a dotted name. -/
def takeDottedName : Nat → Reader String
  | 0, _ => none
  | fuel + 1, ts => do
    let (s, ts) ← takeName ts
    match ts with
    | .mark "." :: rest =>
      let (more, rest) ← takeDottedName fuel rest
      return (s ++ "." ++ more, rest)
    | ts => return (s, ts)

/-- Takes another name for an import, if one is given. -/
def skipAlias : List Token → Option (List Token)
  | .word "as" :: rest => (takeName rest).map Prod.snd
  | ts => some ts

/-- Takes a module to be imported. -/
def readImportedModule (ts : List Token) : Option (String × List Token) := do
  let (s, ts) ← takeDottedName (ts.length + 1) ts
  return (s, ← skipAlias ts)

/-- Takes a name to be imported from a module. -/
def readImportedName (ts : List Token) : Option (String × List Token) := do
  let (s, ts) ← takeName ts
  return (s, ← skipAlias ts)

/-- Takes the dots in front of a module and counts them. -/
def takeLevel : List Token → Nat × List Token
  | .mark "." :: rest => let r := takeLevel rest; (r.1 + 1, r.2)
  | .mark "..." :: rest => let r := takeLevel rest; (r.1 + 3, r.2)
  | ts => (0, ts)

/-- Whether tokens begin with a name. -/
def beginsName : List Token → Bool
  | .name _ :: _ => true
  | _ => false

/-- Takes the names that are imported from a module. -/
def readImportedNames (ts : List Token) : Option (List String × List Token) :=
  match ts with
  | .mark "*" :: rest => some ([], rest)
  | .mark "(" :: rest => do
    let ((names, _), rest) ← takeItems readImportedName beginsName (rest.length + 1) rest
    return (names, ← takeMark ")" rest)
  | ts => do
    let ((names, ended), rest) ← takeItems readImportedName beginsName (ts.length + 1) ts
    if ended then none else return (names, rest)

/-- Takes an import from a module, behind its first word. -/
def readImportFrom (ts : List Token) : Option (Statement × List Token) := do
  let (level, ts) := takeLevel ts
  let (module, ts) ←
    if level != 0 && (takeWord "import" ts).isSome then some (none, ts)
    else (takeDottedName (ts.length + 1) ts).map fun r => (some r.1, r.2)
  let (names, ts) ← readImportedNames (← takeWord "import" ts)
  return (.importFrom level module names, ts)

/-- The marks that change the value of a target. -/
def isUpdate (m : String) : Bool :=
  ["+=", "-=", "*=", "@=", "/=", "%=", "&=", "|=", "^=", "<<=", ">>=", "**=", "//="].contains m

/-- Takes the right-hand side of an assignment. -/
def readValue (g : Grammar) (ts : List Token) : Option (List Token) :=
  match ts with
  | .word "yield" :: _ => (g .yield ts).map Prod.snd
  | ts => (g .list ts).map Prod.snd

/-- Takes further targets and the value of an assignment, behind an equals sign. -/
def readAssigned (g : Grammar) : Nat → List Token → Option (List Token)
  | 0, _ => none
  | fuel + 1, ts =>
    match ts with
    | .word "yield" :: _ => (g .yield ts).map Prod.snd
    | ts => do
      let (s, ts) ← g .list ts
      match ts with
      | .mark "=" :: rest => if s.isTarget then readAssigned g fuel rest else none
      | ts => return ts

/-- Whether the expression at the front of tokens can be annotated: a name, a part of something, or
one of these in parentheses, behind which nothing more may follow. -/
def takesAnnotation (g : Grammar) (s : Shape) (ts : List Token) : Bool :=
  match s, ts with
  | .group _, _ => s.isSingle
  | _, .mark "(" :: rest =>
    match readParenthesis g rest with
    | some (.group inner, _) => s.isSingle && !inner.isSingle
    | _ => s.isSingle
  | _, _ => s.isSingle

/-- Takes an assignment, or an expression that stands alone. -/
def readExpressionStatement (g : Grammar) (start : List Token) : Option (List Token) := do
  let (s, ts) ← g .list start
  match ts with
  | .mark "=" :: rest => if s.isTarget then readAssigned g (rest.length + 1) rest else none
  | .mark ":" :: rest =>
    if takesAnnotation g s start then
      let (_, rest) ← g .expression rest
      match rest with
      | .mark "=" :: rest => readValue g rest
      | rest => return rest
    else none
  | .mark m :: rest =>
    if isUpdate m then if s.isSingle then readValue g rest else none
    else return .mark m :: rest
  | ts => return ts

/-- Takes targets to be removed. -/
def readRemoved (g : Grammar) (ts : List Token) : Option (List Token) := do
  let ((items, _), ts) ← takeItems (g .primary) goesOn (ts.length + 1) ts
  if Shape.areRemovable items then return ts else none

/-- Takes expressions if some come next. -/
def skipList (g : Grammar) (ts : List Token) : Option (List Token) :=
  if goesOn ts then (g .list ts).map Prod.snd else some ts

/-- Takes a simple statement. -/
def readSimple (g : Grammar) (ts : List Token) : Option (Statement × List Token) :=
  let plain := fun (r : Option (List Token)) => r.map fun ts => (Statement.plain, ts)
  match ts with
  | .word "import" :: rest => do
    let ((names, ended), rest) ← takeItems readImportedModule beginsName (rest.length + 1) rest
    if ended then none else return (.importNames names, rest)
  | .word "from" :: rest => readImportFrom rest
  | .word "global" :: rest => do
    let ((names, ended), rest) ← takeItems takeName beginsName (rest.length + 1) rest
    if ended then none else return (.global names, rest)
  | .word "nonlocal" :: rest => do
    let ((_, ended), rest) ← takeItems takeName beginsName (rest.length + 1) rest
    if ended then none else return (.plain, rest)
  | .word "pass" :: rest | .word "break" :: rest | .word "continue" :: rest => some (.plain, rest)
  | .word "return" :: rest => plain (skipList g rest)
  | .word "del" :: rest => plain (readRemoved g rest)
  | .word "yield" :: _ => plain ((g .yield ts).map Prod.snd)
  | .word "assert" :: rest => plain do
    let (_, rest) ← g .expression rest
    match rest with
    | .mark "," :: rest => (g .expression rest).map Prod.snd
    | rest => some rest
  | .word "raise" :: rest => plain do
    if goesOn rest then
      let (_, rest) ← g .expression rest
      match rest with
      | .word "from" :: rest => (g .expression rest).map Prod.snd
      | rest => some rest
    else some rest
  | ts => plain (readExpressionStatement g ts)

/-- Takes the simple statements of a line, and its end. -/
def readLine (g : Grammar) : Nat → Reader (List Statement)
  | 0, _ => none
  | fuel + 1, ts => do
    let (s, ts) ← readSimple g ts
    match ts with
    | .lineEnd :: rest => return ([s], rest)
    | .mark ";" :: .lineEnd :: rest => return ([s], rest)
    | .mark ";" :: rest =>
      let (more, rest) ← readLine g fuel rest
      return (s :: more, rest)
    | _ => none

/-! ### Compound statements

The readers of compound statements take the reader for the block below as an argument. -/

/-- A reader for the statements of a block. -/
abbrev BlockReader := Reader (List Statement)

/-- Takes a colon and a block. -/
def readBody (block : BlockReader) (ts : List Token) : Option (List Statement × List Token) := do
  block (← takeMark ":" ts)

/-- Takes a clause of a word and a block, if it comes next. -/
def readClause (block : BlockReader) (word : String) (ts : List Token) :
    Option (List Statement × List Token) :=
  match takeWord word ts with
  | some rest => readBody block rest
  | none => some ([], ts)

/-- Takes a condition, its block and further alternatives. An alternative with a condition of its
own is a node. -/
def readAlternatives (g : Grammar) (block : BlockReader) : Nat → Reader (List Statement)
  | 0, _ => none
  | fuel + 1, ts => do
    let (_, ts) ← g .named ts
    let (body, ts) ← readBody block ts
    match ts with
    | .word "elif" :: rest =>
      let (inner, rest) ← readAlternatives g block fuel rest
      return (body ++ [.block inner], rest)
    | ts =>
      let (orElse, ts) ← readClause block "else" ts
      return (body ++ orElse, ts)

/-- Takes a loop behind its first word. -/
def readLoop (g : Grammar) (block : BlockReader) (isCounted : Bool) (ts : List Token) :
    Option (Statement × List Token) := do
  let ts ←
    if isCounted then do
      let (_, ts) ← g .targets ts
      let ts ← takeWord "in" ts
      if goesOn ts then (g .list ts).map Prod.snd else none
    else (g .named ts).map Prod.snd
  let (body, ts) ← readBody block ts
  let (orElse, ts) ← readClause block "else" ts
  return (.block (body ++ orElse), ts)

/-- Takes the clauses that handle exceptions, each of which is a node. They are all of the same
kind, with or without a star, and one without an expression has no star. -/
def readHandlers (g : Grammar) (block : BlockReader) (starred : Option Bool) :
    Nat → Reader (List Statement)
  | 0, _ => none
  | fuel + 1, ts =>
    match ts with
    | .word "except" :: rest => do
      let (isStarred, rest) := match takeMark "*" rest with
        | some rest => (true, rest)
        | none => (false, rest)
      if starred.any (· != isStarred) then none
      else
        let rest ←
          if (takeMark ":" rest).isSome then if isStarred then none else some rest
          else do
            let (_, rest) ← g .expression rest
            skipAlias rest
        let (body, rest) ← readBody block rest
        let (more, rest) ← readHandlers g block (some isStarred) fuel rest
        return (.block body :: more, rest)
    | ts => some ([], ts)

/-- Takes a statement that handles exceptions, behind its first word. -/
def readTry (g : Grammar) (block : BlockReader) (ts : List Token) :
    Option (Statement × List Token) := do
  let (body, ts) ← readBody block ts
  let (handlers, ts) ← readHandlers g block none (ts.length + 1) ts
  let (orElse, ts) ← if handlers.isEmpty then some ([], ts) else readClause block "else" ts
  let hasEnd := (takeWord "finally" ts).isSome
  let (ending, ts) ← readClause block "finally" ts
  if handlers.isEmpty && !hasEnd then none
  else return (.block (body ++ handlers ++ orElse ++ ending), ts)

/-- Takes a context with the target for it, if there is one. -/
def readContext (g : Grammar) (ts : List Token) : Option (Unit × List Token) := do
  let (_, ts) ← g .expression ts
  match ts with
  | .word "as" :: rest =>
    let (s, rest) ← readTarget g rest
    if s.isTarget then return ((), rest) else none
  | ts => return ((), ts)

/-- Takes a statement with contexts, behind its first word. The contexts may stand in parentheses,
where a comma may follow the last one. -/
def readWith (g : Grammar) (block : BlockReader) (ts : List Token) :
    Option (Statement × List Token) := do
  let enclosed := do
    let rest ← takeMark "(" ts
    let (_, rest) ← takeItems (readContext g) goesOn (rest.length + 1) rest
    let rest ← takeMark ")" rest
    if (takeMark ":" rest).isSome then return rest else none
  let ts ← match enclosed with
    | some rest => some rest
    | none => do
      let ((_, ended), rest) ← takeItems (readContext g) goesOn (ts.length + 1) ts
      if ended then none else some rest
  let (body, ts) ← readBody block ts
  return (.block body, ts)

/-- Takes a function behind its first word. -/
def readFunction (g : Grammar) (block : BlockReader) (ts : List Token) :
    Option (Statement × List Token) := do
  let (_, ts) ← takeName ts
  let ts ← takeMark "(" ts
  let (parameters, ts) ← readParameters g true ")" {} (ts.length + 1) ts
  let ts ← takeMark ")" ts
  let ts ← match ts with
    | .mark "->" :: rest => (g .expression rest).map Prod.snd
    | ts => some ts
  let (body, ts) ← readBody block ts
  return (.scope parameters body, ts)

/-- Takes a class behind its first word. -/
def readClass (g : Grammar) (block : BlockReader) (ts : List Token) :
    Option (Statement × List Token) := do
  let (_, ts) ← takeName ts
  let ts ← match ts with
    | .mark "(" :: rest => closeCall g false rest
    | ts => some ts
  let (body, ts) ← readBody block ts
  return (.scope [] body, ts)

/-- Takes the cases of a choice up to the end of their block; each is a node. -/
def readCases (g : Grammar) (block : BlockReader) : Nat → Reader (List Statement)
  | 0, _ => none
  | fuel + 1, ts =>
    match ts with
    | .name "case" :: rest => do
      let rest ← readPatterns g rest
      let rest ← match rest with
        | .word "if" :: rest => (g .named rest).map Prod.snd
        | rest => some rest
      let (body, rest) ← readBody block rest
      match rest with
      | .dedent :: rest => return ([.block body], rest)
      | rest =>
        let (more, rest) ← readCases g block fuel rest
        return (.block body :: more, rest)
    | _ => none

/-- Takes a choice between cases, behind its first word. -/
def readChoice (g : Grammar) (block : BlockReader) (ts : List Token) :
    Option (Statement × List Token) := do
  let ((items, ended), ts) ← takeItems (readStarred g .named) goesOn (ts.length + 1) ts
  match items, ended with
  | [.starred _], false => none
  | _, _ =>
    match ts with
    | .mark ":" :: .lineEnd :: .indent :: rest =>
      let (cases, rest) ← readCases g block (rest.length + 1) rest
      return (.block cases, rest)
    | _ => none

/-- Takes a compound statement that may stand behind the word `async`. -/
def readAsync (g : Grammar) (block : BlockReader) : List Token → Option (Statement × List Token)
  | .word "def" :: rest => readFunction g block rest
  | .word "for" :: rest => readLoop g block true rest
  | .word "with" :: rest => readWith g block rest
  | _ => none

/-- Takes a statement with the decorators in front of it, behind the first mark. -/
def readDecorated (g : Grammar) (block : BlockReader) :
    Nat → List Token → Option (Statement × List Token)
  | 0, _ => none
  | fuel + 1, ts => do
    let (_, ts) ← g .named ts
    match ts with
    | .lineEnd :: .mark "@" :: rest => readDecorated g block fuel rest
    | .lineEnd :: .word "def" :: rest => readFunction g block rest
    | .lineEnd :: .word "async" :: .word "def" :: rest => readFunction g block rest
    | .lineEnd :: .word "class" :: rest => readClass g block rest
    | _ => none

/-- Takes a compound statement, or the simple statements of a line. -/
def readStatement (g : Grammar) (block : BlockReader) (ts : List Token) :
    Option (List Statement × List Token) :=
  let one := fun (r : Option (Statement × List Token)) => r.map fun r => ([r.1], r.2)
  match ts with
  | .word "if" :: rest =>
    (readAlternatives g block (rest.length + 1) rest).map fun r => ([.block r.1], r.2)
  | .word "while" :: rest => one (readLoop g block false rest)
  | .word "try" :: rest => one (readTry g block rest)
  | .word "class" :: rest => one (readClass g block rest)
  | .word "async" :: rest => one (readAsync g block rest)
  | .word "def" :: _ | .word "for" :: _ | .word "with" :: _ => one (readAsync g block ts)
  | .mark "@" :: rest => one (readDecorated g block (rest.length + 1) rest)
  | .name "match" :: rest =>
    match readChoice g block rest with
    | some r => some ([r.1], r.2)
    | none => readLine g (ts.length + 1) ts
  | ts => readLine g (ts.length + 1) ts

/-! ### Blocks and sources -/

/-- Takes the statements of a block up to its end. -/
def closeBlock (g : Grammar) (block : BlockReader) : Nat → Reader (List Statement)
  | 0, _ => none
  | fuel + 1, ts => do
    let (ss, ts) ← readStatement g block ts
    match ts with
    | .dedent :: rest => return (ss, rest)
    | ts =>
      let (more, ts) ← closeBlock g block fuel ts
      return (ss ++ more, ts)

/-- Takes a block: an indented one, or the simple statements of the same line. The fuel bounds the
depth of blocks within blocks. -/
def readBlock (g : Grammar) : Nat → BlockReader
  | 0, _ => none
  | depth + 1, ts =>
    match ts with
    | .lineEnd :: .indent :: rest => closeBlock g (readBlock g depth) (rest.length + 1) rest
    | ts => readLine g (ts.length + 1) ts

/-- Takes statements to the end of the tokens. -/
def readAll (g : Grammar) (block : BlockReader) : Nat → List Token → Option (List Statement)
  | 0, _ => none
  | fuel + 1, ts =>
    match ts with
    | [] => some []
    | ts => do
      let (ss, rest) ← readStatement g block ts
      return ss ++ (← readAll g block fuel rest)

/-- The statements of tokens, for expressions that are nested at most so deep. -/
def parseTokens? (isCharName : String → Bool) (depth : Nat) (ts : List Token) :
    Option (List Statement) :=
  let g := grammar isCharName depth
  readAll g (readBlock g (blockLimit + 1)) (ts.length + 1) ts

/-- The statements of a source. -/
def parseSource (reader : SourceReader) (bs : Bytes) : Except SourceError (List Statement) :=
  match readSource? reader bs with
  | .error e => .error e
  | .ok cs =>
    let isCharName := reader.namesCharacter
    match (tokens? isCharName cs).bind (parseTokens? isCharName (6 * cs.length + 6)) with
    | some ss => .ok ss
    | none => .error .malformed

namespace Statement

mutual

/-- The names that a statement declares to be global, those within functions and classes apart. -/
def globals : Statement → List String
  | .global names => names
  | .block body => globalsOf body
  | _ => []

/-- The names that statements declare to be global. -/
def globalsOf : List Statement → List String
  | [] => []
  | s :: ss => globals s ++ globalsOf ss

end

mutual

/-- Whether, within a statement, no function has two parameters of one name or one that it declares
to be global. -/
def isScoped : Statement → Bool
  | .scope parameters body =>
    parameters.Nodup && (globalsOf body).all (fun name => !parameters.contains name) &&
      areScoped body
  | .block body => areScoped body
  | _ => true

/-- Whether the same holds within all statements. -/
def areScoped : List Statement → Bool
  | [] => true
  | s :: ss => isScoped s && areScoped ss

end

end Statement

end HandlerBundle
