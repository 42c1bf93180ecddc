import HandlerBundle.Proofs.Json.Scalar
import Mathlib.Data.List.Nodup

/-!
# Values that are read back

A value without fractional numbers is written over several lines and read back from them. The
reader gives up in two cases only: at a list or an object that has something in it below the last
level that it goes down to, and at an integer with too many characters. So what is read can be told
from the value alone, without its text.

## Main definitions

* `Json.IsPlain` — values without fractional numbers, in whose objects every name stands once.
* `Json.levels`, `Json.integers` — the levels and the integers of a value.
* `Json.Fits` — values that are not too much for the reader.

## Main results

* `Json.IsPlain.readsBack` — a value at any place in a text is read back if it fits.
* `Json.read?_pretty` — a whole text is.
-/

namespace HandlerBundle.Json

/-! ### Plain values -/

/-- A value without fractional numbers, in whose objects every name stands once. -/
inductive IsPlain : Json → Prop
  | null : IsPlain .null
  | bool (b : Bool) : IsPlain (.bool b)
  | int (n : ℤ) : IsPlain (.int n)
  | text (s : String) : IsPlain (.text s)
  | list {vs : List Json} (hitems : ∀ v ∈ vs, IsPlain v) : IsPlain (.list vs)
  | object {ms : List (String × Json)} (hmembers : ∀ m ∈ ms, IsPlain m.2)
      (hnames : (ms.map Prod.fst).Nodup) : IsPlain (.object ms)

mutual

/-- The levels of lists and objects that are not empty. -/
def levels : Json → ℕ
  | .list vs => levelsOfItems vs
  | .object ms => levelsOfMembers ms
  | _ => 0

/-- The levels of a list with the given items. -/
def levelsOfItems : List Json → ℕ
  | [] => 0
  | v :: vs => max (levels v + 1) (levelsOfItems vs)

/-- The levels of an object with the given members. -/
def levelsOfMembers : List (String × Json) → ℕ
  | [] => 0
  | (_, v) :: ms => max (levels v + 1) (levelsOfMembers ms)

end

mutual

/-- The integers in a value. -/
def integers : Json → List ℤ
  | .int n => [n]
  | .list vs => integersOfItems vs
  | .object ms => integersOfMembers ms
  | _ => []

/-- The integers in some items. -/
def integersOfItems : List Json → List ℤ
  | [] => []
  | v :: vs => integers v ++ integersOfItems vs

/-- The integers in some members. -/
def integersOfMembers : List (String × Json) → List ℤ
  | [] => []
  | (_, v) :: ms => integers v ++ integersOfMembers ms

end

/-- A value that is not too much for a reader that goes down `depth` levels. -/
def Fits (depth : ℕ) (v : Json) : Prop :=
  v.levels ≤ depth ∧ ∀ n ∈ v.integers, (writeInt n).length ≤ integerDigitLimit

instance (depth : ℕ) : DecidablePred (Fits depth) := fun _ => inferInstanceAs (Decidable (_ ∧ _))

variable {layout : Layout} {level depth fuel : ℕ} {v : Json} {vs : List Json}
  {ms : List (String × Json)} {k : String} {rest : List Char}

theorem levelsOfItems_le_iff : levelsOfItems vs ≤ depth + 1 ↔ ∀ v ∈ vs, v.levels ≤ depth := by
  induction vs with
  | nil => simp [levelsOfItems]
  | cons v vs ih => rw [levelsOfItems, Nat.max_le, ih, List.forall_mem_cons, Nat.succ_le_succ_iff]

theorem forall_mem_integersOfItems {P : ℤ → Prop} :
    (∀ n ∈ integersOfItems vs, P n) ↔ ∀ v ∈ vs, ∀ n ∈ v.integers, P n := by
  induction vs with
  | nil => simp [integersOfItems]
  | cons v vs ih => rw [integersOfItems, List.forall_mem_append, ih, List.forall_mem_cons]

/-- A list fits if its items do, one level further down. -/
theorem fits_list_iff : Fits (depth + 1) (.list vs) ↔ ∀ v ∈ vs, v.Fits depth := by
  rw [Fits, levels, levelsOfItems_le_iff, integers, forall_mem_integersOfItems]
  exact forall₂_and.symm

theorem not_fits_zero_list : ¬Fits 0 (.list (v :: vs)) := by
  intro h
  have hlevels := h.1
  rw [levels, levelsOfItems] at hlevels
  omega

theorem levelsOfMembers_eq (ms : List (String × Json)) :
    levelsOfMembers ms = levelsOfItems (ms.map Prod.snd) := by
  induction ms with
  | nil => rfl
  | cons m ms ih => rw [levelsOfMembers, ih, List.map_cons, levelsOfItems]

theorem integersOfMembers_eq (ms : List (String × Json)) :
    integersOfMembers ms = integersOfItems (ms.map Prod.snd) := by
  induction ms with
  | nil => rfl
  | cons m ms ih => rw [integersOfMembers, ih, List.map_cons, integersOfItems]

/-- An object fits if the list of its values does. -/
theorem fits_object_iff : Fits depth (.object ms) ↔ Fits depth (.list (ms.map Prod.snd)) := by
  rw [Fits, Fits, levels, levels, integers, integers, levelsOfMembers_eq, integersOfMembers_eq]

/-! ### Blanks before a value -/

theorem readValue?_congr {cs cs' : List Char} (h : skipSpace cs = skipSpace cs') :
    readValue? depth fuel cs = readValue? depth fuel cs' := by
  cases fuel with
  | zero => rw [readValue?, readValue?]
  | succ fuel => rw [readValue?, readValue?, h]

theorem readItems?_newLine (level : ℕ) (done : List Json) (cs : List Char) :
    readItems? depth fuel done (newLine level ++ cs) = readItems? depth fuel done cs := by
  cases fuel with
  | zero => rw [readItems?, readItems?]
  | succ fuel => rw [readItems?, readItems?, readValue?_congr (skipSpace_newLine level cs)]

theorem readMembers?_newLine (level : ℕ) (done : List (String × Json)) (cs : List Char) :
    readMembers? depth fuel done (newLine level ++ cs) = readMembers? depth fuel done cs := by
  cases fuel with
  | zero => rw [readMembers?, readMembers?]
  | succ fuel => rw [readMembers?, readMembers?, skipSpace_newLine]

/-! ### Lists and objects -/

/-- A value can be read back at any place of a text where nothing goes on with a number, if there is
fuel for all of its characters. -/
def ReadsBack (layout : Layout) (v : Json) : Prop :=
  ∀ (level depth fuel : ℕ) (rest : List Char),
    (writePretty layout level v).length ≤ fuel → EndsNumber rest →
      readValue? depth fuel (writePretty layout level v ++ rest) =
        if v.Fits depth then some (v, rest) else none

theorem endsNumber_prettyItems (layout : Layout) (level : ℕ) (vs : List Json) (rest : List Char) :
    EndsNumber (prettyItems layout level vs ++ rest) := by
  cases vs with
  | nil =>
    rw [prettyItems, List.append_assoc]
    exact endsNumber_newLine
  | cons v vs => exact endsNumber_comma

theorem endsNumber_prettyMembers (layout : Layout) (level : ℕ) (ms : List (String × Json))
    (rest : List Char) : EndsNumber (prettyMembers layout level ms ++ rest) := by
  cases ms with
  | nil =>
    rw [prettyMembers, List.append_assoc]
    exact endsNumber_newLine
  | cons m ms => exact endsNumber_comma

/-- The items of a list are read back up to its closing bracket. -/
theorem readItems?_writePretty (hread : ∀ x ∈ v :: vs, ReadsBack layout x) (done : List Json)
    (hfuel : (writePretty layout (level + 1) v ++ prettyItems layout level vs).length ≤ fuel) :
    readItems? depth fuel done
        (writePretty layout (level + 1) v ++ (prettyItems layout level vs ++ rest)) =
      if ∀ x ∈ v :: vs, x.Fits depth then some (done.reverse ++ v :: vs, rest) else none := by
  induction vs generalizing v done fuel with
  | nil =>
    rw [List.length_append, prettyItems, List.length_append, List.length_singleton] at hfuel
    obtain ⟨fuel, rfl⟩ := Nat.exists_eq_succ_of_ne_zero (show fuel ≠ 0 by omega)
    rw [readItems?, hread v List.mem_cons_self (level + 1) depth fuel _ (by omega)
      (endsNumber_prettyItems _ _ _ _)]
    by_cases hfits : v.Fits depth
    · rw [if_pos hfits, if_pos (List.forall_mem_singleton.mpr hfits)]
      dsimp only
      rw [prettyItems, List.append_assoc, skipSpace_newLine, List.singleton_append,
        skipSpace_cons rfl, ← List.reverse_cons]
      rfl
    · rw [if_neg hfits, if_neg fun h => hfits (h v List.mem_cons_self)]
  | cons v' vs ih =>
    rw [List.length_append, prettyItems, List.length_cons, List.length_append] at hfuel
    obtain ⟨fuel, rfl⟩ := Nat.exists_eq_succ_of_ne_zero (show fuel ≠ 0 by omega)
    rw [readItems?, hread v List.mem_cons_self (level + 1) depth fuel _ (by omega)
      (endsNumber_prettyItems _ _ _ _)]
    by_cases hfits : v.Fits depth
    · rw [if_pos hfits, prettyItems, List.cons_append]
      dsimp only
      rw [skipSpace_cons rfl]
      change readItems? depth fuel (v :: done) _ = _
      rw [List.append_assoc, readItems?_newLine, List.append_assoc,
        ih (fun x hx => hread x (List.mem_cons_of_mem _ hx)) _ (by omega), List.reverse_cons,
        List.append_assoc, List.singleton_append]
      exact if_congr (List.forall_mem_cons.trans (and_iff_right hfits)).symm rfl rfl
    · rw [if_neg hfits, if_neg fun h => hfits (h v List.mem_cons_self)]

section Member

variable {done : List (String × Json)} {cs rest' : List Char}
  (hfuel : (writeText k).length ≤ fuel)

include hfuel

/-- Nothing is read if the value of a member is not. -/
theorem readMembers?_of_none (hvalue : readValue? depth fuel cs = none) :
    readMembers? depth (fuel + 1) done (writeText k ++ ':' :: cs) = none := by
  simp only [readMembers?, writeText_append, skipSpace_quote, skipSpace_colon,
    readChars?_writeText (Nat.le_succ_of_le hfuel), hvalue]

/-- More members are read after a comma. -/
theorem readMembers?_of_comma (hvalue : readValue? depth fuel cs = some (v, rest))
    (hrest : skipSpace rest = ',' :: rest') :
    readMembers? depth (fuel + 1) done (writeText k ++ ':' :: cs) =
      readMembers? depth fuel ((k, v) :: done) rest' := by
  simp only [readMembers?, writeText_append, skipSpace_quote, skipSpace_colon,
    readChars?_writeText (Nat.le_succ_of_le hfuel), hvalue, hrest]

/-- The members are complete at a brace. -/
theorem readMembers?_of_brace (hvalue : readValue? depth fuel cs = some (v, rest))
    (hrest : skipSpace rest = '\x7d' :: rest') :
    readMembers? depth (fuel + 1) done (writeText k ++ ':' :: cs) =
      some (((k, v) :: done).reverse, rest') := by
  simp only [readMembers?, writeText_append, skipSpace_quote, skipSpace_colon,
    readChars?_writeText (Nat.le_succ_of_le hfuel), hvalue, hrest]

end Member

/-- The members of an object are read back up to its closing brace. -/
theorem readMembers?_writePretty (hread : ∀ m ∈ (k, v) :: ms, ReadsBack layout m.2)
    (done : List (String × Json))
    (hfuel : (writeText k ++ ':' :: ' ' :: (writePretty layout (level + 1) v ++
      prettyMembers layout level ms)).length ≤ fuel) :
    readMembers? depth fuel done (writeText k ++ ':' :: ' ' ::
        (writePretty layout (level + 1) v ++ (prettyMembers layout level ms ++ rest))) =
      if ∀ m ∈ (k, v) :: ms, m.2.Fits depth then some (done.reverse ++ (k, v) :: ms, rest)
      else none := by
  have hspace : ∀ cs, skipSpace (' ' :: cs) = skipSpace cs :=
    fun _ => List.dropWhile_cons_of_pos rfl
  induction ms generalizing k v done fuel with
  | nil =>
    simp only [List.length_append, List.length_cons, prettyMembers, List.length_nil] at hfuel
    obtain ⟨fuel, rfl⟩ := Nat.exists_eq_succ_of_ne_zero (show fuel ≠ 0 by omega)
    have hvalue := hread (k, v) List.mem_cons_self (level + 1) depth fuel
      (prettyMembers layout level [] ++ rest) (by dsimp only; omega)
      (endsNumber_prettyMembers _ _ _ _)
    rw [← readValue?_congr (hspace _)] at hvalue
    by_cases hfits : v.Fits depth
    · have hall : ∀ m ∈ [(k, v)], m.2.Fits depth := List.forall_mem_singleton.mpr hfits
      rw [if_pos hfits] at hvalue
      rw [if_pos hall, readMembers?_of_brace (by omega) hvalue, List.reverse_cons]
      rw [prettyMembers, List.append_assoc, skipSpace_newLine]
      exact skipSpace_cons rfl _
    · rw [if_neg hfits] at hvalue
      rw [readMembers?_of_none (by omega) hvalue,
        if_neg fun h => hfits (h (k, v) List.mem_cons_self)]
  | cons m ms ih =>
    -- The next member takes the place of the first, so the induction is over every first member.
    obtain ⟨k', v'⟩ := m
    simp only [List.length_append, List.length_cons, prettyMembers] at hfuel
    obtain ⟨fuel, rfl⟩ := Nat.exists_eq_succ_of_ne_zero (show fuel ≠ 0 by omega)
    have hvalue := hread (k, v) List.mem_cons_self (level + 1) depth fuel
      (prettyMembers layout level ((k', v') :: ms) ++ rest) (by dsimp only; omega)
      (endsNumber_prettyMembers _ _ _ _)
    rw [← readValue?_congr (hspace _)] at hvalue
    by_cases hfits : v.Fits depth
    · rw [if_pos hfits] at hvalue
      rw [readMembers?_of_comma (by omega) hvalue
        (by rw [prettyMembers, List.cons_append]; exact skipSpace_cons rfl _), List.append_assoc,
        readMembers?_newLine, List.append_assoc, List.cons_append, List.cons_append,
        List.append_assoc, ih (fun m hm => hread m (List.mem_cons_of_mem _ hm)) _ (by simp; omega),
        List.reverse_cons, List.append_assoc, List.singleton_append]
      exact if_congr ⟨fun h => List.forall_mem_cons.mpr ⟨hfits, h⟩,
        fun h => (List.forall_mem_cons.mp h).2⟩ rfl rfl
    · rw [if_neg hfits] at hvalue
      rw [readMembers?_of_none (by omega) hvalue,
        if_neg fun h => hfits (h (k, v) List.mem_cons_self)]

/-! ### Values at a place of a text -/

/-- A value begins with a character that is neither a blank nor the end of a list. -/
theorem IsPlain.exists_cons (hv : v.IsPlain) (layout : Layout) (level : ℕ) :
    ∃ c cs, writePretty layout level v = c :: cs ∧ isSpace c = false ∧ c ≠ ']' := by
  cases hv with
  | null => exact ⟨_, _, rfl, rfl, by decide⟩
  | bool b => cases b <;> exact ⟨_, _, rfl, rfl, by decide⟩
  | int n =>
    obtain ⟨c, cs, hcs, hc⟩ := exists_cons_writeInt n
    refine ⟨c, cs, hcs, ?_⟩
    rcases hc with rfl | hc
    · exact ⟨rfl, by decide⟩
    · refine ⟨isSpace_of_isDigit hc, ?_⟩
      rintro rfl
      exact absurd hc (by decide)
  | text s => exact ⟨_, _, rfl, rfl, by decide⟩
  | @list vs _ =>
    cases vs <;> exact ⟨_, _, by rw [writePretty], rfl, by decide⟩
  | @object ms _ _ =>
    rcases ms with _ | ⟨⟨k, v⟩, ms⟩ <;> exact ⟨_, _, by rw [writePretty], rfl, by decide⟩

theorem readsBack_int (layout : Layout) (n : ℤ) : ReadsBack layout (.int n) := by
  intro level depth fuel rest hfuel hrest
  obtain ⟨c, cs, hcs, hc⟩ := exists_cons_writeInt n
  have hne : ∀ c', c'.isDigit = false → c' ≠ '-' → c ≠ c' := by
    rintro c' hdigit hsign rfl
    exact hc.elim hsign fun hc => Bool.false_ne_true (hdigit.symm.trans hc)
  have hspace : isSpace c = false := by
    rcases hc with rfl | hc
    · rfl
    · exact isSpace_of_isDigit hc
  have hlength : (writeInt n).length ≤ fuel := hfuel
  rw [hcs] at hlength
  obtain ⟨fuel, rfl⟩ := Nat.exists_eq_succ_of_ne_zero (Nat.ne_zero_of_lt hlength)
  have hfits : Fits depth (.int n) ↔ (writeInt n).length ≤ integerDigitLimit :=
    (and_iff_right (Nat.zero_le depth)).trans List.forall_mem_singleton
  change readValue? depth (fuel + 1) (writeInt n ++ rest) = _
  rw [hcs, List.cons_append, readValue?_cons hspace (hne _ rfl (by decide))
    (hne _ rfl (by decide)) (hne _ rfl (by decide)), ← List.cons_append, ← hcs,
    readScalar?_writeInt n hrest]
  exact if_congr hfits.symm rfl rfl

theorem readsBack_text (layout : Layout) (s : String) : ReadsBack layout (.text s) := by
  intro level depth fuel rest hfuel hrest
  have hlength : (writeText s).length ≤ fuel := hfuel
  obtain ⟨fuel, rfl⟩ := Nat.exists_eq_succ_of_ne_zero (Nat.ne_zero_of_lt hlength)
  have hfits : Fits depth (.text s) := ⟨Nat.zero_le _, nofun⟩
  change readValue? depth (fuel + 1) (writeText s ++ rest) = _
  rw [writeText_append, readValue?, skipSpace_quote, if_pos hfits]
  change Option.map _ (readChars? fuel [] _) = _
  rw [readChars?_writeText hlength]
  rfl

/-- A list that does not end at once is read from its first item on, one level further down. -/
theorem readValue?_list (depth : ℕ) {c : Char} (hspace : isSpace c = false) (hend : c ≠ ']')
    (level : ℕ) (cs : List Char) :
    readValue? 0 (fuel + 1) ('[' :: (newLine level ++ c :: cs)) = none ∧
      readValue? (depth + 1) (fuel + 1) ('[' :: (newLine level ++ c :: cs)) =
        (readItems? depth fuel [] (c :: cs)).map fun r => (.list r.1, r.2) := by
  have hbracket : ∀ cs, skipSpace ('[' :: cs) = '[' :: cs := skipSpace_cons rfl
  simp only [readValue?, hbracket, skipSpace_newLine, skipSpace_cons hspace]
  constructor
  all_goals
    split
    next heq => exact absurd (List.cons.inj heq).1 hend
    next => rfl

/-- An object that does not end at once is read from its first name on, one level further down. -/
theorem readValue?_object (depth level : ℕ) (k : String) (cs : List Char) :
    readValue? 0 (fuel + 1) ('\x7b' :: (newLine level ++ (writeText k ++ cs))) = none ∧
      readValue? (depth + 1) (fuel + 1) ('\x7b' :: (newLine level ++ (writeText k ++ cs))) =
        (readMembers? depth fuel [] (writeText k ++ cs)).map fun r => (.object r.1, r.2) := by
  have hbrace : ∀ cs, skipSpace ('\x7b' :: cs) = '\x7b' :: cs := skipSpace_cons rfl
  simp only [readValue?, hbrace, skipSpace_newLine, writeText_append, skipSpace_quote]
  exact ⟨rfl, rfl⟩

theorem readsBack_list (hitems : ∀ x ∈ v :: vs, x.IsPlain)
    (hread : ∀ x ∈ v :: vs, ReadsBack layout x) : ReadsBack layout (.list (v :: vs)) := by
  intro level depth fuel rest hfuel hrest
  obtain ⟨c, cs, hcs, hspace, hend⟩ :=
    (hitems v List.mem_cons_self).exists_cons layout (level + 1)
  rw [writePretty, List.length_cons, List.length_append] at hfuel
  obtain ⟨fuel, rfl⟩ := Nat.exists_eq_succ_of_ne_zero (Nat.ne_zero_of_lt hfuel)
  rw [writePretty, List.cons_append, List.append_assoc, List.append_assoc, hcs, List.cons_append]
  cases depth with
  | zero => rw [if_neg not_fits_zero_list, (readValue?_list 0 hspace hend _ _).1]
  | succ depth =>
    rw [(readValue?_list depth hspace hend _ _).2, ← List.cons_append, ← hcs,
      readItems?_writePretty hread [] (by omega)]
    by_cases hfits : ∀ x ∈ v :: vs, x.Fits depth
    · rw [if_pos hfits, if_pos (fits_list_iff.mpr hfits)]
      rfl
    · rw [if_neg hfits, if_neg fun h => hfits (fits_list_iff.mp h)]
      rfl

theorem readsBack_object (hread : ∀ m ∈ (k, v) :: ms, ReadsBack layout m.2) :
    ReadsBack layout (.object ((k, v) :: ms)) := by
  intro level depth fuel rest hfuel hrest
  have hfits_iff : ∀ depth, Fits (depth + 1) (.object ((k, v) :: ms)) ↔
      ∀ m ∈ (k, v) :: ms, m.2.Fits depth := fun depth => by
    rw [fits_object_iff, fits_list_iff, List.forall_mem_map]
  rw [writePretty, List.length_cons, List.length_append] at hfuel
  obtain ⟨fuel, rfl⟩ := Nat.exists_eq_succ_of_ne_zero (Nat.ne_zero_of_lt hfuel)
  rw [writePretty]
  simp only [List.cons_append, List.append_assoc]
  cases depth with
  | zero =>
    rw [if_neg fun h => not_fits_zero_list (fits_object_iff.mp h),
      (readValue?_object 0 _ _ _).1]
  | succ depth =>
    rw [(readValue?_object depth _ _ _).2, readMembers?_writePretty hread [] (by omega)]
    by_cases hfits : ∀ m ∈ (k, v) :: ms, m.2.Fits depth
    · rw [if_pos hfits, if_pos ((hfits_iff depth).mpr hfits)]
      rfl
    · rw [if_neg hfits, if_neg fun h => hfits ((hfits_iff depth).mp h)]
      rfl

/-- **A value at any place of a text is read back** if it fits, and nothing is read if it does
not. -/
theorem IsPlain.readsBack (hv : v.IsPlain) (layout : Layout) : ReadsBack layout v := by
  induction hv with
  | null =>
    intro level depth fuel rest hfuel hrest
    obtain ⟨fuel, rfl⟩ := Nat.exists_eq_succ_of_ne_zero (Nat.ne_zero_of_lt hfuel)
    rfl
  | bool b =>
    intro level depth fuel rest hfuel hrest
    cases b <;>
    · obtain ⟨fuel, rfl⟩ := Nat.exists_eq_succ_of_ne_zero (Nat.ne_zero_of_lt hfuel)
      rfl
  | int n => exact readsBack_int layout n
  | text s => exact readsBack_text layout s
  | @list vs hitems ih =>
    cases vs with
    | nil =>
      intro level depth fuel rest hfuel hrest
      rw [writePretty] at hfuel
      obtain ⟨fuel, rfl⟩ := Nat.exists_eq_succ_of_ne_zero (Nat.ne_zero_of_lt hfuel)
      rfl
    | cons v vs => exact readsBack_list hitems ih
  | @object ms hmembers hnames ih =>
    cases ms with
    | nil =>
      intro level depth fuel rest hfuel hrest
      rw [writePretty] at hfuel
      obtain ⟨fuel, rfl⟩ := Nat.exists_eq_succ_of_ne_zero (Nat.ne_zero_of_lt hfuel)
      rfl
    | cons m ms => exact readsBack_object ih

/-! ### Whole texts -/

/-- **A whole text is read back** if its value fits, and nothing is read if it does not. -/
theorem read?_pretty (hv : v.IsPlain) (layout : Layout) (depth : ℕ) :
    read? depth (v.pretty layout) = if v.Fits depth then some v else none := by
  have hread := hv.readsBack layout 0 depth (2 * (writePretty layout 0 v).length + 3) []
    (by omega) nofun
  rw [List.append_nil] at hread
  unfold read? pretty
  dsimp only
  rw [String.toList_ofList, hread]
  by_cases hfits : v.Fits depth
  · rw [if_pos hfits, if_pos hfits]
    rfl
  · rw [if_neg hfits, if_neg hfits]

/-! ### Names that stand once -/

theorem put_of_notMem {α : Type} {members : List (String × α)} {name : String} (value : α)
    (h : name ∉ members.map Prod.fst) : put members name value = members ++ [(name, value)] := by
  rw [put, if_neg]
  rw [List.any_eq_true]
  rintro ⟨m, hm, hname⟩
  exact h (List.mem_map.mpr ⟨m, hm, eq_of_beq hname⟩)

theorem collapseItems_eq (h : ∀ v ∈ vs, v.collapse = v) : collapseItems vs = vs := by
  induction vs with
  | nil => rfl
  | cons v vs ih =>
    rw [List.forall_mem_cons] at h
    rw [collapseItems, h.1, ih h.2]

theorem collapseMembers_eq {done : List (String × Json)} (h : ∀ m ∈ ms, m.2.collapse = m.2)
    (hnames : ((done ++ ms).map Prod.fst).Nodup) : collapseMembers done ms = done ++ ms := by
  induction ms generalizing done with
  | nil => rw [collapseMembers, List.append_nil]
  | cons m ms ih =>
    obtain ⟨k, v⟩ := m
    rw [List.forall_mem_cons] at h
    have hnew : k ∉ done.map Prod.fst := by
      rw [List.map_append, List.map_cons] at hnames
      exact fun hmem => List.disjoint_of_nodup_append hnames hmem List.mem_cons_self
    rw [← List.singleton_append, ← List.append_assoc] at hnames ⊢
    rw [List.singleton_append, collapseMembers, h.1, put_of_notMem v hnew, ih h.2 hnames]

/-- A plain value is as it is read: no name has a later value. -/
theorem IsPlain.collapse_eq (hv : v.IsPlain) : v.collapse = v := by
  induction hv with
  | null => rfl
  | bool b => rfl
  | int n => rfl
  | text s => rfl
  | list _ ih => rw [collapse, collapseItems_eq ih]
  | object _ hnames ih =>
    rw [collapse, collapseMembers_eq ih (by rwa [List.nil_append]), List.nil_append]

end HandlerBundle.Json
