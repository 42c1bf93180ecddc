import HandlerBundle.Text.Blank
import Mathlib.Data.List.DropRight
import Mathlib.Data.List.TakeWhile

/-!
# Texts on one line

A text is on one line if it has no line boundary in it, no blanks at its ends and no more characters
than a limit allows. For limits of at least one, the one-line form of a text is on one line: its
lines have no boundaries, the spaces between them are none, trimming takes the blanks off both ends,
and a text that is too long is cut to end in an ellipsis, which is no blank. The texts that are on
one line already are those that are their own one-line form.

## Main definitions

* `IsTrimmedLine` — characters without a line boundary and without blanks at the ends.
* `IsOneLine` — texts on one line.

## Main results

* `forall_mem_lines_eq_iff` — a text without a line boundary is its only line.
* `trimChars_eq_self_iff` — what trimming leaves as it is.
* `isOneLine_oneLine`, `oneLine_eq_self_iff` — the one-line form of a text.
-/

namespace HandlerBundle

variable {c : Char} {cs line : List Char} {s : String} {limit : Int}

/-! ### Lines -/

theorem cutLines_cons_of_notBoundary (hc : isLineBoundary c = false) (line cs : List Char) :
    cutLines line (c :: cs) = cutLines (c :: line) cs := by
  rw [cutLines.eq_def]
  simp only [hc, Bool.false_eq_true, if_false]

/-- Without a boundary there is one line. -/
theorem cutLines_of_notBoundary (hcs : ∀ c ∈ cs, isLineBoundary c = false) (line : List Char) :
    cutLines line cs = if (line.reverse ++ cs).isEmpty then [] else [line.reverse ++ cs] := by
  induction cs generalizing line with
  | nil => cases line <;> simp [cutLines]
  | cons c cs ih =>
    rw [List.forall_mem_cons] at hcs
    rw [cutLines_cons_of_notBoundary hcs.1, ih hcs.2, List.reverse_cons, List.append_assoc,
      List.singleton_append]

/-- Lines have no boundary in them. -/
theorem notBoundary_of_mem_cutLines {l : List Char} (hl : l ∈ cutLines line cs)
    (hline : ∀ c ∈ line, isLineBoundary c = false) : ∀ c ∈ l, isLineBoundary c = false := by
  fun_induction cutLines line cs with
  | case1 line hempty => cases hl
  | case2 line hempty =>
    rw [List.mem_singleton] at hl
    simpa only [hl, List.mem_reverse] using hline
  | case3 line rest hc ih =>
    rcases List.mem_cons.mp hl with rfl | hl
    · simpa only [List.mem_reverse] using hline
    · exact ih hl (List.forall_mem_nil _)
  | case4 line c rest hc hpair ih =>
    rcases List.mem_cons.mp hl with rfl | hl
    · simpa only [List.mem_reverse] using hline
    · exact ih hl (List.forall_mem_nil _)
  | case5 line c rest hc ih =>
    exact ih hl (List.forall_mem_cons.mpr ⟨Bool.eq_false_iff.mpr hc, hline⟩)

theorem cutLines_ne_nil (h : line ≠ [] ∨ cs ≠ []) : cutLines line cs ≠ [] := by
  fun_induction cutLines line cs with
  | case1 line hempty =>
    exact absurd (List.isEmpty_iff.mp hempty) (h.resolve_right fun hne => hne rfl)
  | case2 line hempty => exact List.cons_ne_nil _ _
  | case3 line rest hc ih => exact List.cons_ne_nil _ _
  | case4 line c rest hc hpair ih => exact List.cons_ne_nil _ _
  | case5 line c rest hc ih => exact ih (.inl (List.cons_ne_nil _ _))

/-- **A text without a line boundary is its only line**, and no other text is. -/
theorem forall_mem_lines_eq_iff :
    (∀ l ∈ lines s, l = s) ↔ ∀ c ∈ s.toList, isLineBoundary c = false := by
  rw [lines, List.forall_mem_map]
  constructor
  · intro hall c hc
    have hcut : cutLines [] s.toList ≠ [] := cutLines_ne_nil (.inr (List.ne_nil_of_mem hc))
    obtain ⟨l, hl⟩ := List.exists_mem_of_ne_nil _ hcut
    have hs : s.toList = l := by rw [← hall l hl, String.toList_ofList]
    exact notBoundary_of_mem_cutLines hl (List.forall_mem_nil _) c (hs ▸ hc)
  · intro hs l hl
    rw [cutLines_of_notBoundary hs, List.reverse_nil, List.nil_append] at hl
    split_ifs at hl
    · cases hl
    · rw [List.mem_singleton.mp hl, String.ofList_toList]

/-- Joined lines have the characters of the lines and, between them, spaces. -/
theorem mem_intercalate_space {ls : List (List Char)} (hc : c ∈ [' '].intercalate ls) :
    c = ' ' ∨ ∃ l ∈ ls, c ∈ l := by
  induction ls with
  | nil => cases hc
  | cons l ls ih =>
    cases ls with
    | nil => exact .inr ⟨l, List.mem_cons_self, by rwa [List.intercalate_singleton] at hc⟩
    | cons l' ls =>
      rw [List.intercalate_cons_cons, List.append_assoc, List.mem_append, List.mem_append,
        List.mem_singleton] at hc
      rcases hc with hc | hc | hc
      · exact .inr ⟨l, List.mem_cons_self, hc⟩
      · exact .inl hc
      · exact (ih hc).imp_right fun ⟨m, hm, hcm⟩ => ⟨m, List.mem_cons_of_mem l hm, hcm⟩

/-! ### Blanks at the ends -/

theorem dropBlankEnd_eq_rdropWhile (cs : List Char) : dropBlankEnd cs = cs.rdropWhile isBlank :=
  rfl

theorem trimChars_sublist (cs : List Char) : (trimChars cs).Sublist cs :=
  (List.rdropWhile_prefix isBlank _).sublist.trans (List.dropWhile_sublist isBlank)

theorem notBlank_head_trimChars (hc : c ∈ (trimChars cs).head?) : isBlank c = false := by
  obtain ⟨ending, hsplit⟩ := List.rdropWhile_prefix isBlank (cs.dropWhile isBlank)
  have hhead : (cs.dropWhile isBlank).head? = some c := by
    rw [← hsplit, List.head?_append]
    exact congrArg (Option.or · _) hc
  have hstop := List.head?_dropWhile_not isBlank cs
  rw [hhead] at hstop
  exact hstop

theorem notBlank_getLast_trimChars (hc : c ∈ (trimChars cs).getLast?) : isBlank c = false := by
  obtain ⟨hne, hlast⟩ := List.mem_getLast?_eq_getLast hc
  rw [hlast]
  exact Bool.eq_false_iff.mpr (List.rdropWhile_last_not isBlank _ hne)

/-- **What trimming leaves as it is** has no blanks at its ends. -/
theorem trimChars_eq_self_iff : trimChars cs = cs ↔
    (∀ c ∈ cs.head?, isBlank c = false) ∧ ∀ c ∈ cs.getLast?, isBlank c = false := by
  constructor
  · intro h
    rw [← h]
    exact ⟨fun c => notBlank_head_trimChars, fun c => notBlank_getLast_trimChars⟩
  · rintro ⟨hhead, hlast⟩
    have hfront : cs.dropWhile isBlank = cs := List.dropWhile_eq_self_iff.mpr fun hne =>
      Bool.eq_false_iff.mp (hhead _ (List.head?_eq_getElem? ▸ List.getElem?_eq_getElem hne))
    have hback : cs.rdropWhile isBlank = cs := List.rdropWhile_eq_self_iff.mpr fun hne =>
      Bool.eq_false_iff.mp (hlast _ (List.getLast?_eq_getLast_of_ne_nil hne))
    rw [trimChars, hfront, dropBlankEnd_eq_rdropWhile, hback]

/-! ### One-line forms -/

/-- Characters without a line boundary and without blanks at the ends. -/
structure IsTrimmedLine (cs : List Char) : Prop where
  notBoundary : ∀ c ∈ cs, isLineBoundary c = false
  head_notBlank : ∀ c ∈ cs.head?, isBlank c = false
  last_notBlank : ∀ c ∈ cs.getLast?, isBlank c = false

/-- A text on one line: it has no line boundary and no blanks at its ends, and is not longer than
the limit. -/
structure IsOneLine (limit : Int) (s : String) : Prop extends IsTrimmedLine s.toList where
  length_le : (s.length : Int) ≤ limit

/-- A text without blanks is on one line, if it is not too long. -/
theorem IsOneLine.of_notBlank (hs : ∀ c ∈ s.toList, isBlank c = false)
    (hle : (s.length : Int) ≤ limit) : IsOneLine limit s where
  notBoundary c hc := Bool.eq_false_iff.mpr fun h =>
    Bool.false_ne_true ((hs c hc).symm.trans (isBlank_of_isLineBoundary h))
  head_notBlank c hc := hs c (List.mem_of_mem_head? hc)
  last_notBlank c hc := hs c (List.mem_of_mem_getLast? hc)
  length_le := hle

theorem isTrimmedLine_trimmedLine (s : String) : IsTrimmedLine (trimmedLine s) where
  notBoundary c hc := by
    rcases mem_intercalate_space ((trimChars_sublist _).mem hc) with rfl | ⟨l, hl, hcl⟩
    · decide
    · exact notBoundary_of_mem_cutLines hl (List.forall_mem_nil _) c hcl
  head_notBlank c := notBlank_head_trimChars
  last_notBlank c := notBlank_getLast_trimChars

/-- A text that is trimmed and has no boundary is joined to itself. -/
theorem IsTrimmedLine.trimmedLine_eq (h : IsTrimmedLine s.toList) : trimmedLine s = s.toList := by
  have hjoin : [' '].intercalate (cutLines [] s.toList) = s.toList := by
    rw [cutLines_of_notBoundary h.notBoundary, List.reverse_nil, List.nil_append]
    split_ifs with hempty
    · exact (List.isEmpty_iff.mp hempty).symm
    · exact List.intercalate_singleton
  rw [trimmedLine, hjoin, trimChars_eq_self_iff]
  exact ⟨h.head_notBlank, h.last_notBlank⟩

/-- What is cut off a line can be made up for by an ellipsis. -/
theorem IsTrimmedLine.take_append_ellipsis (h : IsTrimmedLine cs) (n : Nat) :
    IsTrimmedLine (cs.take n ++ ['…']) where
  notBoundary c hc := by
    rcases List.mem_append.mp hc with hc | hc
    · exact h.notBoundary c (List.mem_of_mem_take hc)
    · rw [List.mem_singleton.mp hc]
      decide
  head_notBlank c hc := by
    have hends : c ∈ cs.head? ∨ c = '…' := by
      rw [List.head?_append, List.head?_take] at hc
      rcases Option.or_eq_some_iff.mp hc with hc | ⟨-, hc⟩
      · split_ifs at hc
        exact .inl hc
      · exact .inr (Option.some.inj hc).symm
    rcases hends with hc | rfl
    · exact h.head_notBlank c hc
    · decide
  last_notBlank c hc := by
    rw [List.getLast?_concat] at hc
    rw [← Option.some.inj hc]
    decide

theorem oneLine_of_le (h : ((trimmedLine s).length : Int) ≤ limit) :
    oneLine s limit = String.ofList (trimmedLine s) :=
  if_pos h

theorem oneLine_of_lt (hlimit : 1 ≤ limit) (h : limit < (trimmedLine s).length) :
    oneLine s limit = String.ofList ((trimmedLine s).take (limit - 1).toNat ++ ['…']) := by
  rw [oneLine]
  dsimp only
  rw [if_neg (by omega), if_pos hlimit]

/-- **The one-line form of a text is on one line**, for every limit of at least one. -/
theorem isOneLine_oneLine (s : String) (hlimit : 1 ≤ limit) :
    IsOneLine limit (oneLine s limit) := by
  have hline := isTrimmedLine_trimmedLine s
  by_cases hle : ((trimmedLine s).length : Int) ≤ limit
  · rw [oneLine_of_le hle]
    exact ⟨by rwa [String.toList_ofList], by rwa [String.length_ofList]⟩
  · have hlength : (((trimmedLine s).take (limit - 1).toNat ++ ['…']).length : Int) ≤ limit := by
      rw [List.length_append, List.length_take, List.length_singleton]
      omega
    rw [oneLine_of_lt hlimit (Int.not_le.mp hle)]
    refine ⟨?_, by rwa [String.length_ofList]⟩
    rw [String.toList_ofList]
    exact hline.take_append_ellipsis _

/-- A text that is on one line is its own one-line form. -/
theorem IsOneLine.oneLine_eq (h : IsOneLine limit s) : oneLine s limit = s := by
  have hline := h.toIsTrimmedLine.trimmedLine_eq
  rw [oneLine_of_le (by rw [hline, String.length_toList]; exact h.length_le), hline,
    String.ofList_toList]

/-- **The texts that are on one line** are those that are their own one-line form. -/
theorem oneLine_eq_self_iff (hlimit : 1 ≤ limit) : oneLine s limit = s ↔ IsOneLine limit s :=
  ⟨fun h => h ▸ isOneLine_oneLine s hlimit, IsOneLine.oneLine_eq⟩

end HandlerBundle
