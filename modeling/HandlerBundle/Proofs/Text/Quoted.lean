import HandlerBundle.Text.Quoted
import Mathlib.Algebra.Order.Ring.Nat
import Mathlib.Data.List.Basic

/-!
# Quoted texts as literals

A text literal of a program stands between single or between double quotes and holds escapes. The
quoted form of a text is such a literal, on one line, and the value of the literal is the text,
whatever characters the text is made of.

## Main definitions

* `readLiteral?` — reads a text literal of one line, by the rules of programs for escapes.

## Main results

* `readLiteral?_quoted` — the quoted form of a text is read back.
-/

namespace HandlerBundle

/-! ### Literals -/

/-- The character that hexadecimal digits of a given number stand for, and the rest. -/
def readCodePoint? (width : Nat) (cs : List Char) : Option (Char × List Char) := do
  if cs.length < width then none
  let n ← hexNumber? ((cs.take width).map Char.toLower)
  if n.isValidChar then some (Char.ofNat n, cs.drop width) else none

/-- The characters that a letter after a backslash stands for. -/
def letterEscapes : List (Char × Char) :=
  [('\\', '\\'), ('\'', '\''), ('"', '"'), ('a', '\x07'), ('b', '\x08'), ('f', '\x0c'),
    ('n', '\n'), ('r', '\r'), ('t', '\t'), ('v', '\x0b')]

/-- Whether a character is an octal digit. -/
def isOctalDigit (c : Char) : Bool :=
  '0' ≤ c && c ≤ '7'

/-- What an escape stands for, from the character after the backslash on, and the rest. A backslash
before a character that makes no escape stands for itself. Escapes that give a character by its
name are not read, and the end of a line cannot be escaped within one line. -/
def readEscape? : List Char → Option (List Char × List Char)
  | [] => none
  | c :: rest =>
    if c == 'x' then (readCodePoint? 2 rest).map fun r => ([r.1], r.2)
    else if c == 'u' then (readCodePoint? 4 rest).map fun r => ([r.1], r.2)
    else if c == 'U' then (readCodePoint? 8 rest).map fun r => ([r.1], r.2)
    else if c == 'N' || c == '\n' || c == '\r' then none
    else if isOctalDigit c then
      let digits := ((c :: rest).take 3).takeWhile isOctalDigit
      some ([Char.ofNat (digits.foldl (fun n d => 8 * n + (d.toNat - 48)) 0)],
        (c :: rest).drop digits.length)
    else
      match letterEscapes.lookup c with
      | some d => some ([d], rest)
      | none => some (['\\', c], rest)

/-- Reads a literal up to its closing mark, on one line. The fuel is the number of characters
left. -/
def readLiteralBody? (mark : Char) : Nat → List Char → Option (List Char × List Char)
  | 0, _ | _, [] => none
  | fuel + 1, c :: rest =>
    if c == mark then some ([], rest)
    else if c == '\n' || c == '\r' then none
    else
      (if c == '\\' then readEscape? rest else some ([c], rest)).bind fun piece =>
        (readLiteralBody? mark fuel piece.2).map fun r => (piece.1 ++ r.1, r.2)

/-- Reads a text literal of one line at the front, and returns its value and what follows. Three
marks in a row open a literal of several lines. -/
def readLiteral? : List Char → Option (String × List Char)
  | [] => none
  | mark :: rest =>
    if (mark == '\'' || mark == '"') && !([mark, mark].isPrefixOf rest) then
      (readLiteralBody? mark rest.length rest).map fun r => (String.ofList r.1, r.2)
    else none

/-! ### Numbers in hexadecimal digits -/

theorem hexValue?_hexDigit {d : Nat} (hd : d < 16) :
    hexValue? (hexDigit d).toLower = some d := by
  revert d
  decide

theorem length_hexPadded (width n : Nat) : (hexPadded width n).length = width := by
  induction width generalizing n with
  | zero => rfl
  | succ width ih => rw [hexPadded, List.length_append, ih, List.length_singleton]

theorem hexNumber?_hexPadded (width n : Nat) :
    hexNumber? ((hexPadded width n).map Char.toLower) = some (n % 16 ^ width) := by
  induction width generalizing n with
  | zero => rw [Nat.pow_zero, Nat.mod_one]; rfl
  | succ width ih =>
    have hdigit := hexValue?_hexDigit (Nat.mod_lt n (show 0 < 16 by decide))
    have hvalue : 16 * (n / 16 % 16 ^ width) + n % 16 = n % 16 ^ (width + 1) := by
      rw [Nat.pow_succ', Nat.mod_mul, Nat.add_comm]
    unfold hexNumber? at ih ⊢
    rw [hexPadded, List.map_append, List.foldlM_append, ih]
    simp [hdigit, hvalue]

/-- A character is read from the digits of its number. -/
theorem readCodePoint?_hexPadded {width : Nat} {c : Char} (hc : c.toNat < 16 ^ width)
    (rest : List Char) :
    readCodePoint? width (hexPadded width c.toNat ++ rest) = some (c, rest) := by
  have hlength := length_hexPadded width c.toNat
  have hvalid : c.toNat.isValidChar := c.valid
  rw [readCodePoint?, List.take_left' hlength, List.drop_left' hlength, hexNumber?_hexPadded,
    Nat.mod_eq_of_lt hc, if_neg (by rw [List.length_append, hlength]; omega)]
  simp [hvalid, Char.ofNat_toNat]

/-! ### Quoted texts -/

/-- A mark that encloses a literal. -/
def IsQuote (mark : Char) : Prop :=
  mark = '\'' ∨ mark = '"'

theorem isQuote_quoteMark (cs : List Char) : IsQuote (quoteMark cs) := by
  rw [quoteMark]
  split
  · exact .inr rfl
  · exact .inl rfl

variable {mark : Char}

/-- What stands behind an escape is read on with the characters of the escape in front. -/
theorem readLiteralBody?_escape {cs ds rest : List Char} (hmark : IsQuote mark)
    (h : readEscape? cs = some (ds, rest)) (fuel : Nat) :
    readLiteralBody? mark (fuel + 1) ('\\' :: cs) =
      (readLiteralBody? mark fuel rest).map fun r => (ds ++ r.1, r.2) := by
  have hne : ('\\' == mark) = false := by rcases hmark with rfl | rfl <;> rfl
  rw [readLiteralBody?, hne, if_neg Bool.false_ne_true, if_neg (by decide),
    if_pos (beq_self_eq_true _), h]
  rfl

/-- **A character is read back from the way it stands in a quoted text.** -/
theorem readLiteralBody?_quotedChar (hmark : IsQuote mark) (c : Char) (fuel : Nat)
    (rest : List Char) :
    readLiteralBody? mark (fuel + 1) (quotedChar mark c ++ rest) =
      (readLiteralBody? mark fuel rest).map fun r => (c :: r.1, r.2) := by
  have hescape (cs : List Char) (h : readEscape? (cs ++ rest) = some ([c], rest)) :
      readLiteralBody? mark (fuel + 1) ('\\' :: (cs ++ rest)) =
        (readLiteralBody? mark fuel rest).map fun r => (c :: r.1, r.2) :=
    readLiteralBody?_escape hmark h fuel
  have hcode {letter : Char} {width : Nat} (hc : c.toNat < 16 ^ width)
      (hletter : ∀ cs, readEscape? (letter :: cs) =
        (readCodePoint? width cs).map fun r => ([r.1], r.2)) :
      readLiteralBody? mark (fuel + 1) ('\\' :: letter :: hexPadded width c.toNat ++ rest) =
        (readLiteralBody? mark fuel rest).map fun r => (c :: r.1, r.2) := by
    refine hescape (letter :: hexPadded width c.toNat) ?_
    rw [List.cons_append, hletter, readCodePoint?_hexPadded hc]
    rfl
  unfold quotedChar
  split_ifs with hself hnewline hreturn htab hprintable hbyte hshort
  · have hself' : c = '\\' ∨ IsQuote c := by
      rcases Bool.or_eq_true_iff.mp hself with h | h
      · exact .inr (eq_of_beq h ▸ hmark)
      · exact .inl (eq_of_beq h)
    refine hescape [c] ?_
    rcases hself' with rfl | rfl | rfl <;> rfl
  · obtain rfl := eq_of_beq hnewline
    exact hescape ['n'] rfl
  · obtain rfl := eq_of_beq hreturn
    exact hescape ['r'] rfl
  · obtain rfl := eq_of_beq htab
    exact hescape ['t'] rfl
  · rw [Bool.or_eq_true_iff, not_or] at hself
    rw [List.singleton_append, readLiteralBody?, if_neg hself.1,
      if_neg (by simp [hnewline, hreturn]), if_neg hself.2]
    rfl
  · exact hcode (show c.toNat < 16 ^ 2 by omega) fun _ => rfl
  · exact hcode (show c.toNat < 16 ^ 4 by omega) fun _ => rfl
  · have hlt : c.toNat < 16 ^ 8 := by
      have hvalid : c.toNat.isValidChar := c.valid
      unfold Nat.isValidChar at hvalid
      omega
    exact hcode hlt fun _ => rfl

theorem length_quotedChar_pos (mark c : Char) : 0 < (quotedChar mark c).length := by
  unfold quotedChar
  split_ifs <;> exact Nat.succ_pos _

theorem length_le_length_flatMap_quotedChar (mark : Char) (cs : List Char) :
    cs.length ≤ (cs.flatMap (quotedChar mark)).length := by
  induction cs with
  | nil => exact Nat.le_refl _
  | cons c cs ih =>
    have hpos := length_quotedChar_pos mark c
    rw [List.flatMap_cons, List.length_append, List.length_cons]
    omega

theorem readLiteralBody?_flatMap_quotedChar (hmark : IsQuote mark) {cs : List Char} {fuel : Nat}
    (hfuel : cs.length < fuel) (rest : List Char) :
    readLiteralBody? mark fuel (cs.flatMap (quotedChar mark) ++ mark :: rest) =
      some (cs, rest) := by
  induction cs generalizing fuel with
  | nil =>
    obtain ⟨fuel, rfl⟩ := Nat.exists_eq_succ_of_ne_zero (Nat.ne_zero_of_lt hfuel)
    exact if_pos (beq_self_eq_true mark)
  | cons c cs ih =>
    obtain ⟨fuel, rfl⟩ := Nat.exists_eq_succ_of_ne_zero (Nat.ne_zero_of_lt hfuel)
    rw [List.flatMap_cons, List.append_assoc, readLiteralBody?_quotedChar hmark,
      ih (Nat.lt_of_succ_lt_succ hfuel)]
    rfl

theorem exists_quotedChar_eq_cons (hmark : IsQuote mark) (c : Char) :
    ∃ d ds, quotedChar mark c = d :: ds ∧ d ≠ mark := by
  have hbackslash : '\\' ≠ mark := by rcases hmark with rfl | rfl <;> decide
  unfold quotedChar
  split_ifs with hself <;>
    first
    | exact ⟨_, _, rfl, hbackslash⟩
    | exact ⟨_, _, rfl, fun h => hself (by rw [h, beq_self_eq_true, Bool.true_or])⟩

/-- The opening mark of a quoted text is the first of three marks in a row only where an empty text
is followed by a mark. -/
theorem isPrefixOf_quoted (hmark : IsQuote mark) {cs rest : List Char}
    (hrest : cs = [] → rest.head? ≠ some mark) :
    [mark, mark].isPrefixOf (cs.flatMap (quotedChar mark) ++ mark :: rest) = false := by
  cases cs with
  | nil =>
    cases rest with
    | nil => simp [List.isPrefixOf]
    | cons d rest =>
      have hd : mark ≠ d := fun h => hrest rfl (congrArg some h.symm)
      simp [List.isPrefixOf, hd]
  | cons c cs =>
    obtain ⟨d, ds, hchar, hd⟩ := exists_quotedChar_eq_cons hmark c
    simp [hchar, List.isPrefixOf, hd.symm]

/-- **The quoted form of a text is a literal of one line, and the text is its value.** No mark that
could open a literal may follow. -/
theorem readLiteral?_quoted (s : String) {rest : List Char} (hrest : rest.head? ≠ some '\'') :
    readLiteral? ((quoted s).toList ++ rest) = some (s, rest) := by
  have hmark := isQuote_quoteMark s.toList
  have hquote : (quoteMark s.toList == '\'' || quoteMark s.toList == '"') = true := by
    rcases hmark with h | h <;> rw [h] <;> rfl
  have htriple : [quoteMark s.toList, quoteMark s.toList].isPrefixOf
      (s.toList.flatMap (quotedChar (quoteMark s.toList)) ++ quoteMark s.toList :: rest) =
        false :=
    isPrefixOf_quoted hmark fun hempty => by rw [hempty]; exact hrest
  have hlength := length_le_length_flatMap_quotedChar (quoteMark s.toList) s.toList
  rw [quoted, String.toList_ofList, quotedChars, List.cons_append, List.append_assoc,
    List.singleton_append, readLiteral?, htriple, hquote, Bool.not_false, Bool.and_self,
    if_pos rfl, readLiteralBody?_flatMap_quotedChar hmark]
  · rw [Option.map_some, String.ofList_toList]
  · rw [List.length_append, List.length_cons]
    omega

end HandlerBundle
