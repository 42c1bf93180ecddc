import HandlerBundle.Text.Dotted
import Mathlib.Data.List.Basic

/-!
# Dotted names and their components

A dotted name is its components joined by dots, and the components of two names joined by a dot
are those of the first and then those of the second.

## Main results

* `joinComponents_components` — a name is its components joined.
* `components_append_dot` — the components of two names joined by a dot.
* `eq_parentName_append` — a name that has a parent continues it behind a dot.
* `topName_append_dot` — the first component of a name that continues another one.
-/

namespace HandlerBundle

/-- Texts differ if one of them has an ending that the other one has not. -/
theorem ne_of_suffix {ending : List Char} {s t : String} (hs : ending <:+ s.toList)
    (ht : ¬ending <:+ t.toList) : s ≠ t := by
  rintro rfl
  exact ht hs

theorem cutAt_eq_splitOnPPrepend (mark : Char) (cs part : List Char) :
    cutAt mark part cs = List.splitOnPPrepend (· == mark) cs part := by
  induction cs generalizing part with
  | nil => rw [cutAt, List.splitOnPPrepend_nil]
  | cons c cs ih =>
    rw [cutAt, List.splitOnPPrepend_cons_eq_if, ih [], ih (c :: part),
      List.splitOnPPrepend_nil_right]

theorem splitAtMark_eq_splitOn (mark : Char) (s : String) :
    splitAtMark mark s = (s.toList.splitOn mark).map String.ofList := by
  rw [splitAtMark, cutAt_eq_splitOnPPrepend, List.splitOn_eq_splitOnP,
    List.splitOnPPrepend_nil_right]

/-- Without the mark a text is its only part. -/
theorem splitAtMark_of_notMem {mark : Char} {s : String} (h : mark ∉ s.toList) :
    splitAtMark mark s = [s] := by
  rw [splitAtMark_eq_splitOn, List.splitOn_eq_singleton h, List.map_singleton,
    String.ofList_toList]

theorem components_ne_nil (name : String) : components name ≠ [] := by
  rw [components, splitAtMark_eq_splitOn, ne_eq, List.map_eq_nil_iff]
  exact List.splitOn_ne_nil '.' _

/-- A name is its components joined by dots. -/
theorem joinComponents_components (name : String) : joinComponents (components name) = name := by
  have hback : (fun cs => (String.ofList cs).toList) = id := funext fun _ => String.toList_ofList
  apply String.toList_injective
  rw [joinComponents, String.toList_intercalate, components, splitAtMark_eq_splitOn, List.map_map,
    show String.toList ∘ String.ofList = id from hback, List.map_id]
  exact List.intercalate_splitOn '.'

theorem toList_append_dot (a b : String) :
    (a ++ "." ++ b).toList = a.toList ++ '.' :: b.toList := by
  rw [String.toList_append, String.toList_append, List.append_assoc]
  rfl

/-- The parts of two texts with the mark between them are those of both. -/
theorem splitAtMark_of_toList_eq {mark : Char} {s a b : String}
    (h : s.toList = a.toList ++ mark :: b.toList) :
    splitAtMark mark s = splitAtMark mark a ++ splitAtMark mark b := by
  simp only [splitAtMark_eq_splitOn, h, List.splitOn_append_cons_self, List.map_append]

/-- The components of two names joined by a dot are those of both. -/
theorem components_append_dot (a b : String) :
    components (a ++ "." ++ b) = components a ++ components b :=
  splitAtMark_of_toList_eq (toList_append_dot a b)

/-- Components joined in two parts, neither of which is empty. -/
theorem joinComponents_append {ps qs : List String} (hps : ps ≠ []) (hqs : qs ≠ []) :
    joinComponents (ps ++ qs) = joinComponents ps ++ "." ++ joinComponents qs := by
  rw [joinComponents, String.intercalate_append_of_ne_nil hps hqs, joinComponents, joinComponents]

theorem notMem_of_mem_cutAt {mark : Char} {cs part p : List Char} (hpart : mark ∉ part)
    (hp : p ∈ cutAt mark part cs) : mark ∉ p := by
  induction cs generalizing part with
  | nil =>
    rw [cutAt, List.mem_singleton] at hp
    rwa [hp, List.mem_reverse]
  | cons c cs ih =>
    rw [cutAt] at hp
    split_ifs at hp with hc
    · rcases List.mem_cons.mp hp with rfl | hp
      · rwa [List.mem_reverse]
      · exact ih List.not_mem_nil hp
    · exact ih (List.not_mem_cons_of_ne_of_not_mem (fun h => hc (beq_iff_eq.mpr h.symm)) hpart) hp

theorem cutAt_of_notMem {mark : Char} {cs : List Char} (h : mark ∉ cs) (part : List Char) :
    cutAt mark part cs = [part.reverse ++ cs] := by
  induction cs generalizing part with
  | nil => rw [cutAt, List.append_nil]
  | cons c cs ih =>
    rw [List.mem_cons, not_or] at h
    rw [cutAt, if_neg fun hc => h.1 (eq_of_beq hc).symm, ih h.2, List.reverse_cons,
      List.append_assoc, List.singleton_append]

/-- An ending without a mark belongs to the last part. -/
theorem exists_cutAt_append (mark : Char) (cs part : List Char) :
    ∃ front last, ∀ ending, mark ∉ ending →
      cutAt mark part (cs ++ ending) = front ++ [last ++ ending] := by
  induction cs generalizing part with
  | nil => exact ⟨[], part.reverse, fun ending hending => cutAt_of_notMem hending part⟩
  | cons c cs ih =>
    by_cases hc : c = mark
    · obtain ⟨front, last, hcut⟩ := ih []
      refine ⟨part.reverse :: front, last, fun ending hending => ?_⟩
      rw [List.cons_append, cutAt, if_pos (beq_iff_eq.mpr hc), hcut ending hending,
        List.cons_append]
    · obtain ⟨front, last, hcut⟩ := ih (c :: part)
      refine ⟨front, last, fun ending hending => ?_⟩
      rw [List.cons_append, cutAt, if_neg fun heq => hc (eq_of_beq heq), hcut ending hending]

/-- The components of a name have no dot in them. -/
theorem notMem_of_mem_components {name part : String} (h : part ∈ components name) :
    '.' ∉ part.toList := by
  obtain ⟨p, hp, rfl⟩ := List.mem_map.mp h
  rw [String.toList_ofList]
  exact notMem_of_mem_cutAt List.not_mem_nil hp

/-- Parts without a dot are the components of the name that they are joined to. -/
theorem components_joinComponents {parts : List String} (hne : parts ≠ [])
    (h : ∀ part ∈ parts, '.' ∉ part.toList) : components (joinComponents parts) = parts := by
  have hparts : ∀ cs ∈ parts.map String.toList, '.' ∉ cs := List.forall_mem_map.mpr h
  have hback : String.ofList ∘ String.toList = id := funext fun _ => String.ofList_toList
  rw [components, splitAtMark_eq_splitOn, joinComponents, String.toList_intercalate]
  calc ((['.'].intercalate (parts.map String.toList)).splitOn '.').map String.ofList
      = (parts.map String.toList).map String.ofList := by
        rw [List.splitOn_intercalate '.' hparts (by simpa using hne)]
    _ = parts := by rw [List.map_map, hback, List.map_id]

/-- Only no parts at all are joined to the empty name, where none of them is empty. -/
theorem joinComponents_eq_empty_iff {parts : List String} (h : ∀ part ∈ parts, part ≠ "") :
    joinComponents parts = "" ↔ parts = [] := by
  refine ⟨fun hjoin => ?_, fun hnil => by rw [hnil]; rfl⟩
  cases parts with
  | nil => rfl
  | cons part parts =>
    have hpart : part ≠ "" := h part List.mem_cons_self
    cases parts with
    | nil => exact absurd hjoin (by simpa [joinComponents] using hpart)
    | cons next parts =>
      have hempty : part ++ "." ++ joinComponents (next :: parts) = "" := by
        rw [← hjoin, ← List.singleton_append (x := part), joinComponents_append
          (List.cons_ne_nil _ _) (List.cons_ne_nil _ _), joinComponents, joinComponents,
          String.intercalate_singleton]
      simp [String.append_eq_empty_iff] at hempty

/-- A name that has a parent continues it behind a dot. -/
theorem eq_parentName_append {name : String} (h : parentName name ≠ "") :
    ∃ last, name = parentName name ++ "." ++ last := by
  have hdrop : (components name).dropLast ≠ [] := fun hnil => h (by
    rw [parentName, hnil]
    rfl)
  refine ⟨joinComponents [(components name).getLast (components_ne_nil name)], ?_⟩
  calc name = joinComponents (components name) := (joinComponents_components name).symm
    _ = joinComponents ((components name).dropLast ++
          [(components name).getLast (components_ne_nil name)]) := by
        rw [List.dropLast_append_getLast]
    _ = _ := by rw [joinComponents_append hdrop (List.cons_ne_nil _ _), ← parentName]

/-- The first component of a name that continues another one is that of the other. -/
theorem topName_append_dot (a b : String) : topName (a ++ "." ++ b) = topName a := by
  have hstop : ∀ cs : List Char,
      (cs ++ '.' :: b.toList).takeWhile (· != '.') = cs.takeWhile (· != '.') := by
    intro cs
    induction cs with
    | nil => rfl
    | cons c cs ih =>
      rw [List.cons_append, List.takeWhile_cons, List.takeWhile_cons, ih]
  rw [topName, topName, toList_append_dot, hstop]

end HandlerBundle
