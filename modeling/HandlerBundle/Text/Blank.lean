/-!
# Blank characters and line boundaries

Two classes of characters and the text operations that rest on them: trimming blanks at the ends
of a text, and cutting a text into lines. A carriage return followed by a line feed is one line
boundary, and a boundary at the end of a text opens no further line.

## Main definitions

* `isBlank`, `isLineBoundary` — the two classes.
* `trim`, `words`, `lines`, `trimmedLine` — a text without its outer blanks, its words, its lines,
  and all of its lines on one.
-/

namespace HandlerBundle

/-- The blanks: white space and separators, the information separators among them. -/
def isBlank (c : Char) : Bool :=
  let n := c.toNat
  (9 ≤ n && n ≤ 13) || (28 ≤ n && n ≤ 32) || n == 0x85 || n == 0xA0 || n == 0x1680 ||
    (0x2000 ≤ n && n ≤ 0x200A) || n == 0x2028 || n == 0x2029 || n == 0x202F || n == 0x205F ||
    n == 0x3000

/-- The characters that end a line. -/
def isLineBoundary (c : Char) : Bool :=
  let n := c.toNat
  (10 ≤ n && n ≤ 13) || (28 ≤ n && n ≤ 30) || n == 0x85 || n == 0x2028 || n == 0x2029

/-- Every character that ends a line is a blank. -/
theorem isBlank_of_isLineBoundary {c : Char} (h : isLineBoundary c = true) :
    isBlank c = true := by
  simp only [isLineBoundary, isBlank, Bool.or_eq_true, Bool.and_eq_true, decide_eq_true_eq,
    beq_iff_eq] at h ⊢
  omega

/-- The characters of a text without the blanks at its end. -/
def dropBlankEnd (cs : List Char) : List Char :=
  (cs.reverse.dropWhile isBlank).reverse

/-- The characters of a text without the blanks at both ends. -/
def trimChars (cs : List Char) : List Char :=
  dropBlankEnd (cs.dropWhile isBlank)

/-- A text without the blanks at both ends. -/
def trim (s : String) : String :=
  String.ofList (trimChars s.toList)

/-- Cuts characters at the blanks; `word` holds the current word, backwards. -/
def cutWords (word : List Char) : List Char → List (List Char)
  | [] => if word.isEmpty then [] else [word.reverse]
  | c :: rest =>
    if isBlank c then (if word.isEmpty then [] else [word.reverse]) ++ cutWords [] rest
    else cutWords (c :: word) rest

/-- The words of a text, which stand between blanks. -/
def words (s : String) : List String :=
  (cutWords [] s.toList).map String.ofList

/-- Cuts characters at the line boundaries; `line` holds the current line, backwards. -/
def cutLines (line : List Char) : List Char → List (List Char)
  | [] => if line.isEmpty then [] else [line.reverse]
  | c :: rest =>
    if isLineBoundary c then
      match c, rest with
      | '\r', '\n' :: rest => line.reverse :: cutLines [] rest
      | _, rest => line.reverse :: cutLines [] rest
    else cutLines (c :: line) rest

/-- The lines of a text, without their boundaries. -/
def lines (s : String) : List String :=
  (cutLines [] s.toList).map String.ofList

/-- All lines of a text on one, with a space for each inner boundary, and trimmed. -/
def trimmedLine (s : String) : List Char :=
  trimChars (List.intercalate [' '] (cutLines [] s.toList))

/-- The one-line form of a text: its lines joined by spaces and trimmed. A text longer than
`limit` is cut to make room for an ellipsis; a limit of zero cuts one character off the end. -/
def oneLine (s : String) (limit : Int) : String :=
  let cs := trimmedLine s
  if (cs.length : Int) ≤ limit then String.ofList cs
  else
    let stop := if 1 ≤ limit then (limit - 1).toNat else ((cs.length : Int) + (limit - 1)).toNat
    String.ofList (cs.take stop ++ ['…'])

end HandlerBundle
