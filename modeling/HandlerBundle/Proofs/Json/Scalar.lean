import HandlerBundle.Json.Reader
import Mathlib.Data.List.Basic
import Mathlib.Data.List.TakeWhile

/-!
# Texts and numbers that are read back

A text is written between quotation marks, with escapes for some of its characters, and a number
with its digits in base ten. Each escape is read back to the character that it stands for, so that a
text is read up to its own mark. A number has no mark at its end: it is read back if what comes
after it could not be a part of it, and if it has no more digits than a numeral may have.

## Main definitions

* `Json.EndsNumber` — what comes after a number.

## Main results

* `Json.readChars?_flatMap_escapedChar` — a text is read back.
* `Json.readScalar?_writeInt` — an integer is read back unless it is too long.
-/

namespace HandlerBundle.Json

variable {cs rest : List Char} {fuel : ℕ}

/-! ### Blanks -/

theorem skipSpace_cons {c : Char} (hc : isSpace c = false) (cs : List Char) :
    skipSpace (c :: cs) = c :: cs := by
  rw [skipSpace, List.dropWhile_cons_of_neg (by rw [hc]; exact Bool.false_ne_true)]

/-- A new line and its indent are skipped. -/
theorem skipSpace_newLine (level : ℕ) (cs : List Char) :
    skipSpace (newLine level ++ cs) = skipSpace cs := by
  have hspaces : ∀ c ∈ newLine level, isSpace c = true := by
    rw [newLine, List.forall_mem_cons]
    refine ⟨rfl, fun c hc => ?_⟩
    rw [List.eq_of_mem_replicate hc]
    rfl
  exact List.dropWhile_append_of_pos hspaces

theorem skipSpace_quote (cs : List Char) : skipSpace ('"' :: cs) = '"' :: cs :=
  skipSpace_cons rfl cs

theorem skipSpace_colon (cs : List Char) : skipSpace (':' :: cs) = ':' :: cs :=
  skipSpace_cons rfl cs

theorem isSpace_of_isDigit {c : Char} (hc : c.isDigit = true) : isSpace c = false := by
  rw [Bool.eq_false_iff]
  intro hspace
  simp only [isSpace, Bool.or_eq_true, beq_iff_eq] at hspace
  rcases hspace with ((rfl | rfl) | rfl) | rfl <;> exact absurd hc (by decide)

/-! ### Texts -/

/-- A hexadecimal digit stands for its value. -/
theorem hexDigit?_digitChar {n : ℕ} (hn : n < 16) : hexDigit? n.digitChar = some n := by
  revert n
  decide

theorem readNumbered?_digits {a b : ℕ} (ha : a < 2) (hb : b < 16) (rest : List Char) :
    readNumbered? ('0' :: '0' :: a.digitChar :: b.digitChar :: rest) =
      some (Char.ofNat (16 * a + b), rest) := by
  have hunit : readUnit? ('0' :: '0' :: a.digitChar :: b.digitChar :: rest) =
      some (16 * a + b, rest) := by
    rw [readUnit?, hexDigit?_digitChar (show a < 16 by omega), hexDigit?_digitChar hb]
    simp [show hexDigit? '0' = some 0 from rfl, Nat.mul_comm]
  rw [readNumbered?, hunit]
  simp [show ¬ 56320 ≤ 16 * a + b by omega, show ¬ 55296 ≤ 16 * a + b by omega]

/-- **A character is read back from the way it stands in a written text.** -/
theorem readChars?_escapedChar (c : Char) (fuel : ℕ) (done rest : List Char) :
    readChars? (fuel + 1) done (escapedChar c ++ rest) = readChars? fuel (c :: done) rest := by
  have hnumbered : ∀ {a b : ℕ}, a < 2 → b < 16 → c.toNat = 16 * a + b →
      readChars? (fuel + 1) done ('\\' :: 'u' :: '0' :: '0' :: a.digitChar :: b.digitChar :: rest) =
        readChars? fuel (c :: done) rest := by
    intro a b ha hb hc
    rw [readChars?, readNumbered?_digits ha hb, ← hc, Char.ofNat_toNat]
  have hof : ∀ {n : ℕ}, (c.toNat == n) = true → c = Char.ofNat n := fun h => by
    rw [← eq_of_beq h, Char.ofNat_toNat]
  unfold escapedChar
  split_ifs with hquote hbackslash hnewline hreturn htab hbackspace hfeed hlow hcontrol
  · obtain rfl := eq_of_beq hquote
    rfl
  · obtain rfl := eq_of_beq hbackslash
    rfl
  · obtain rfl := eq_of_beq hnewline
    rfl
  · obtain rfl := eq_of_beq hreturn
    rfl
  · obtain rfl := eq_of_beq htab
    rfl
  · obtain rfl := hof hbackspace
    rfl
  · obtain rfl := hof hfeed
    rfl
  · exact hnumbered (a := 0) (by decide) hlow (by omega)
  · exact hnumbered (a := 1) (by decide) (by omega) (by omega)
  · rw [beq_iff_eq] at hquote hbackslash
    rw [List.singleton_append, readChars?]
    · rw [if_neg]
      simp [hbackslash, hcontrol]
    · exact hquote
    · exact fun _ h => absurd h hbackslash
    · exact fun _ _ h => absurd h hbackslash

theorem length_le_length_flatMap_escapedChar (cs : List Char) :
    cs.length ≤ (cs.flatMap escapedChar).length := by
  induction cs with
  | nil => exact Nat.le_refl _
  | cons c cs ih =>
    have hpos : 0 < (escapedChar c).length := by
      unfold escapedChar
      split_ifs <;> exact Nat.succ_pos _
    rw [List.flatMap_cons, List.length_append, List.length_cons]
    omega

/-- **A text is read back.** -/
theorem readChars?_flatMap_escapedChar {cs : List Char} (done rest : List Char)
    (hfuel : cs.length < fuel) :
    readChars? fuel done (cs.flatMap escapedChar ++ '"' :: rest) =
      some (String.ofList (done.reverse ++ cs), rest) := by
  induction cs generalizing fuel done with
  | nil =>
    cases fuel with
    | zero => cases hfuel
    | succ fuel =>
      rw [List.append_nil]
      rfl
  | cons c cs ih =>
    cases fuel with
    | zero => cases hfuel
    | succ fuel =>
      rw [List.flatMap_cons, List.append_assoc, readChars?_escapedChar,
        ih (c :: done) (Nat.lt_of_succ_lt_succ hfuel), List.reverse_cons, List.append_assoc]
      rfl

theorem writeText_append (k : String) (cs : List Char) :
    writeText k ++ cs = '"' :: (k.toList.flatMap escapedChar ++ '"' :: cs) := by
  rw [writeText, List.cons_append, List.append_assoc, List.singleton_append]

/-- A text is read back from the way it is written. -/
theorem readChars?_writeText {k : String} (hfuel : (writeText k).length ≤ fuel + 1)
    (rest : List Char) :
    readChars? fuel [] (k.toList.flatMap escapedChar ++ '"' :: rest) = some (k, rest) := by
  have hlength := length_le_length_flatMap_escapedChar k.toList
  rw [writeText, List.length_cons, List.length_append, List.length_singleton] at hfuel
  rw [readChars?_flatMap_escapedChar _ _ (by omega), List.reverse_nil, List.nil_append,
    String.ofList_toList]

/-! ### Numbers -/

/-- What comes after a number: nothing, or a character that is no part of one. -/
def EndsNumber (rest : List Char) : Prop :=
  ∀ c ∈ rest.head?, c.isDigit = false ∧ c ≠ '.' ∧ c ≠ 'e' ∧ c ≠ 'E'

theorem endsNumber_newLine {level : ℕ} {cs : List Char} : EndsNumber (newLine level ++ cs) := by
  rintro c hc
  obtain rfl := Option.some.inj hc
  decide

theorem endsNumber_comma {cs : List Char} : EndsNumber (',' :: cs) := by
  rintro c hc
  obtain rfl := Option.some.inj hc
  decide

theorem digitsOf_ne_nil (n : ℕ) : Layout.digitsOf n ≠ [] := Nat.toDigits_ne_nil

theorem isDigit_of_mem_digitsOf {c : Char} {n : ℕ} (hc : c ∈ Layout.digitsOf n) :
    c.isDigit = true :=
  Nat.isDigit_of_mem_toDigits (by decide) (by decide) hc

theorem digitsValue_digitsOf (n : ℕ) : digitsValue (Layout.digitsOf n) = n := by
  have hvalue : Nat.ofDigitChars 10 (Nat.toDigits 10 n) 0 = n := Nat.ofDigitChars_ten_toDigits
  rwa [Nat.ofDigitChars_eq_foldl] at hvalue

/-- An integer begins with a sign or a digit. -/
theorem exists_cons_writeInt (n : ℤ) :
    ∃ c cs, writeInt n = c :: cs ∧ (c = '-' ∨ c.isDigit = true) := by
  obtain ⟨c, cs, hcs⟩ := List.exists_cons_of_ne_nil (digitsOf_ne_nil n.natAbs)
  rw [writeInt]
  split_ifs
  · exact ⟨_, _, rfl, .inl rfl⟩
  · exact ⟨c, cs, hcs, .inr (isDigit_of_mem_digitsOf (hcs ▸ List.mem_cons_self))⟩

/-- No digit comes after a leading zero. -/
theorem head?_digitsOf (n : ℕ) (h : (Layout.digitsOf n).head? = some '0') :
    (Layout.digitsOf n).length = 1 := by
  suffices hhead : ∀ n, 0 < n → (Layout.digitsOf n).head? ≠ some '0' by
    obtain rfl : n = 0 := Nat.eq_zero_of_not_pos fun hpos => hhead n hpos h
    rfl
  intro n
  induction n using Nat.strongRecOn with
  | ind n ih =>
    intro hpos
    rw [Layout.digitsOf]
    rcases Nat.lt_or_ge n 10 with hlt | hge
    · rw [Nat.toDigits_of_lt_base hlt, List.head?_cons]
      exact fun hzero => hpos.ne' (Nat.digitChar_eq_zero.mp (Option.some.inj hzero))
    · rw [Nat.toDigits_of_base_le (by decide) hge,
        List.head?_append_of_ne_nil _ Nat.toDigits_ne_nil]
      exact ih (n / 10) (by omega) (by omega)

/-- The digits before anything that ends a number are read as far as they go. -/
theorem takeWhile_digitsOf_append (n : ℕ) (hrest : EndsNumber rest) :
    (Layout.digitsOf n ++ rest).takeWhile Char.isDigit = Layout.digitsOf n ∧
      (Layout.digitsOf n ++ rest).dropWhile Char.isDigit = rest := by
  have hdigits : ∀ c ∈ Layout.digitsOf n, c.isDigit = true := fun _ => isDigit_of_mem_digitsOf
  rw [List.takeWhile_append_of_pos hdigits, List.dropWhile_append_of_pos hdigits]
  cases rest with
  | nil => exact ⟨List.append_nil _, rfl⟩
  | cons c rest =>
    have hc := (hrest c rfl).1
    rw [List.takeWhile_cons_of_neg (by rw [hc]; exact Bool.false_ne_true),
      List.dropWhile_cons_of_neg (by rw [hc]; exact Bool.false_ne_true)]
    exact ⟨List.append_nil _, rfl⟩

/-- The digits of a number are read back, unless there are too many of them with the sign. -/
theorem readUnsigned?_digitsOf (negative : Bool) (n : ℕ) (hrest : EndsNumber rest) :
    readUnsigned? negative (Layout.digitsOf n ++ rest) =
      if (Layout.digitsOf n).length + (if negative then 1 else 0) ≤ integerDigitLimit then
        some (.int (if negative then -n else n), rest)
      else none := by
  obtain ⟨htake, hdrop⟩ := takeWhile_digitsOf_append n hrest
  have hnotEmpty : (Layout.digitsOf n).isEmpty = false :=
    List.isEmpty_eq_false_iff.mpr (digitsOf_ne_nil n)
  have hzero : ((Layout.digitsOf n).head? == some '0' &&
      decide (1 < (Layout.digitsOf n).length)) = false := by
    rw [Bool.and_eq_false_imp, beq_iff_eq]
    intro h
    rw [head?_digitsOf n h]
    rfl
  rw [readUnsigned?]
  dsimp only
  rw [htake, hdrop, hnotEmpty, hzero, Bool.false_or, Bool.false_or]
  by_cases hlong : integerDigitLimit < (Layout.digitsOf n).length + (if negative then 1 else 0)
  · rw [if_pos (decide_eq_true hlong), if_neg (Nat.not_le.mpr hlong)]
  · rw [if_neg (by simpa using hlong), if_pos (Nat.not_lt.mp hlong), digitsValue_digitsOf]
    cases rest with
    | nil => rfl
    | cons c rest =>
      obtain ⟨-, hpoint, hsmall, hlarge⟩ := hrest c rfl
      have hexponent : ¬(c == 'e' || c == 'E') = true := by
        rw [Bool.or_eq_true, beq_iff_eq, beq_iff_eq, not_or]
        exact ⟨hsmall, hlarge⟩
      split
      next heq => exact absurd (List.cons.inj heq).1 hpoint
      next =>
        dsimp only
        rw [if_neg (by decide), if_neg hexponent]
        rfl

/-- What is neither a text nor a list or object is a word or a number. -/
theorem readValue?_cons {c : Char} (hspace : isSpace c = false) (hquote : c ≠ '"') (hlist : c ≠ '[')
    (hobject : c ≠ '\x7b') (depth fuel : ℕ) (cs : List Char) :
    readValue? depth (fuel + 1) (c :: cs) = readScalar? (c :: cs) := by
  rw [readValue?, skipSpace_cons hspace]
  split
  next heq => exact absurd (List.cons.inj heq).1 hquote
  next heq => exact absurd (List.cons.inj heq).1 hlist
  next heq => exact absurd (List.cons.inj heq).1 hobject
  next => rfl

/-- A digit is the first of a number. -/
theorem readScalar?_cons_of_isDigit {c : Char} (hc : c.isDigit = true) (cs : List Char) :
    readScalar? (c :: cs) = readUnsigned? false (c :: cs) := by
  have hne : ∀ {c' : Char} {cs' : List Char}, c'.isDigit = false → c :: cs ≠ c' :: cs' := by
    rintro c' cs' hc' heq
    rw [← (List.cons.inj heq).1, hc] at hc'
    exact Bool.false_ne_true hc'.symm
  rw [readScalar?]
  all_goals exact fun _ => hne rfl

/-- **An integer is read back**, unless it has more characters than a numeral may have. -/
theorem readScalar?_writeInt (n : ℤ) (hrest : EndsNumber rest) :
    readScalar? (writeInt n ++ rest) =
      if (writeInt n).length ≤ integerDigitLimit then some (.int n, rest) else none := by
  obtain ⟨c, cs, hcs⟩ := List.exists_cons_of_ne_nil (digitsOf_ne_nil n.natAbs)
  have hc : c.isDigit = true := isDigit_of_mem_digitsOf (hcs ▸ List.mem_cons_self)
  rw [writeInt]
  by_cases hnegative : n < 0
  · have hscalar : readScalar? ('-' :: Layout.digitsOf n.natAbs ++ rest) =
        readUnsigned? true (Layout.digitsOf n.natAbs ++ rest) := by
      rw [hcs, List.cons_append, List.cons_append, readScalar?]
      rintro _ heq
      rw [(List.cons.inj heq).1] at hc
      exact absurd hc (by decide)
    rw [if_pos hnegative, hscalar, readUnsigned?_digitsOf true _ hrest, List.length_cons,
      if_pos rfl, if_pos rfl, show -(n.natAbs : ℤ) = n by omega]
  · have hscalar : readScalar? (Layout.digitsOf n.natAbs ++ rest) =
        readUnsigned? false (Layout.digitsOf n.natAbs ++ rest) := by
      rw [hcs]
      exact readScalar?_cons_of_isDigit hc _
    rw [if_neg hnegative, hscalar, readUnsigned?_digitsOf false _ hrest,
      if_neg Bool.false_ne_true, if_neg Bool.false_ne_true, show (n.natAbs : ℤ) = n by omega]
    rfl

end HandlerBundle.Json
