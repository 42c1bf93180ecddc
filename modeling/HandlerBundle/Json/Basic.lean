import HandlerBundle.Number.Shortest

/-!
# JSON values and their written forms

A JSON value keeps integers apart from other numbers and the members of an object in order. The
escapes in a written text are the same in every form; the written forms differ in the layout of
numbers and in the space around members.

## Main definitions

* `Json` — the values.
* `Json.compact` — a value on one line.
* `Json.pretty` — a value over several lines, two spaces to a level.
-/

namespace HandlerBundle

/-- A JSON value. -/
inductive Json where
  | null
  | bool (b : Bool)
  | int (n : Int)
  | float (x : Binary64)
  | text (s : String)
  | list (items : List Json)
  | object (members : List (String × Json))
  deriving Inhabited, Repr

namespace Json

/-- How a character stands in a written text. -/
def escapedChar (c : Char) : List Char :=
  if c == '"' then ['\\', '"']
  else if c == '\\' then ['\\', '\\']
  else if c == '\n' then ['\\', 'n']
  else if c == '\r' then ['\\', 'r']
  else if c == '\t' then ['\\', 't']
  else if c.toNat == 8 then ['\\', 'b']
  else if c.toNat == 12 then ['\\', 'f']
  else if c.toNat < 16 then ['\\', 'u', '0', '0', '0', (Nat.digitChar c.toNat)]
  else if c.toNat < 32 then ['\\', 'u', '0', '0', '1', (Nat.digitChar (c.toNat - 16))]
  else [c]

/-- A text between quotation marks. -/
def writeText (s : String) : List Char :=
  '"' :: (s.toList.flatMap escapedChar ++ ['"'])

/-- The digits of an integer, after its sign. -/
def writeInt (n : Int) : List Char :=
  if n < 0 then '-' :: Layout.digitsOf n.natAbs else Layout.digitsOf n.natAbs

/-- A value without parts. -/
def writeLeaf (layout : Layout) : Json → List Char
  | .null => "null".toList
  | .bool true => "true".toList
  | .bool false => "false".toList
  | .int n => writeInt n
  | .float x => (layout.write x).toList
  | .text s => writeText s
  | .list _ => "[]".toList
  | .object _ => "{}".toList

mutual

/-- A value on one line. -/
def writeCompact (layout : Layout) : Json → List Char
  | .list [] => ['[', ']']
  | .list (v :: vs) => '[' :: (writeCompact layout v ++ compactItems layout vs)
  | .object [] => ['{', '}']
  | .object ((k, v) :: ms) =>
    '{' :: (writeText k ++ ':' :: (writeCompact layout v ++ compactMembers layout ms))
  | v => writeLeaf layout v

/-- Further items of a list, each after a comma, and the closing bracket. -/
def compactItems (layout : Layout) : List Json → List Char
  | [] => [']']
  | v :: vs => ',' :: (writeCompact layout v ++ compactItems layout vs)

/-- Further members of an object, each after a comma, and the closing brace. -/
def compactMembers (layout : Layout) : List (String × Json) → List Char
  | [] => ['}']
  | (k, v) :: ms =>
    ',' :: (writeText k ++ ':' :: (writeCompact layout v ++ compactMembers layout ms))

end

/-- A new line, indented to a level. -/
def newLine (level : Nat) : List Char :=
  '\n' :: List.replicate (2 * level) ' '

mutual

/-- A value over several lines; `level` is the level of the line it starts on. -/
def writePretty (layout : Layout) (level : Nat) : Json → List Char
  | .list [] => ['[', ']']
  | .list (v :: vs) =>
    '[' :: (newLine (level + 1) ++ (writePretty layout (level + 1) v ++
      prettyItems layout level vs))
  | .object [] => ['{', '}']
  | .object ((k, v) :: ms) =>
    '{' :: (newLine (level + 1) ++ (writeText k ++ ':' :: ' ' ::
      (writePretty layout (level + 1) v ++ prettyMembers layout level ms)))
  | v => writeLeaf layout v

/-- Further items of a list that starts at a level, and the closing bracket. -/
def prettyItems (layout : Layout) (level : Nat) : List Json → List Char
  | [] => newLine level ++ [']']
  | v :: vs =>
    ',' :: (newLine (level + 1) ++ (writePretty layout (level + 1) v ++
      prettyItems layout level vs))

/-- Further members of an object that starts at a level, and the closing brace. -/
def prettyMembers (layout : Layout) (level : Nat) : List (String × Json) → List Char
  | [] => newLine level ++ ['}']
  | (k, v) :: ms =>
    ',' :: (newLine (level + 1) ++ (writeText k ++ ':' :: ' ' ::
      (writePretty layout (level + 1) v ++ prettyMembers layout level ms)))

end

/-- A value on one line, as text. -/
def compact (layout : Layout) (v : Json) : String :=
  String.ofList (writeCompact layout v)

/-- A value over several lines, as text. -/
def pretty (layout : Layout) (v : Json) : String :=
  String.ofList (writePretty layout 0 v)

/-- Puts a member among named ones: a name that is there keeps its place and takes the new
value. -/
def put {α : Type} (members : List (String × α)) (name : String) (value : α) :
    List (String × α) :=
  if members.any fun m => m.1 == name then
    members.map fun m => if m.1 == name then (name, value) else m
  else members ++ [(name, value)]

/-- The member of an object with the given name. -/
def member? (members : List (String × Json)) (name : String) : Option Json :=
  (members.find? fun m => m.1 == name).map Prod.snd

end Json

end HandlerBundle
