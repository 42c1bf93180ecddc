import HandlerBundle.Closure.Exclusion
import HandlerBundle.Proofs.Text.Dotted

/-!
# Exclusion by dotted beginnings

An entry of the allow-list excludes the module of its name and the modules below it: those whose
names continue the entry behind a dot. So a module below an excluded one is excluded too.

## Main results

* `Exclusion.excludes_iff` — when a module is excluded.
* `Exclusion.excludes_append_dot` — below an excluded module all are excluded.
-/

namespace HandlerBundle

/-- The names that begin a list of components are those of its parts from the front on. -/
theorem mem_enclosingNames_iff {name : String} {before parts : List String} :
    name ∈ enclosingNames before parts ↔
      ∃ front rest, front ≠ [] ∧ parts = front ++ rest ∧
        name = joinComponents (before.reverse ++ front) := by
  induction parts generalizing before with
  | nil =>
    simp only [enclosingNames, List.not_mem_nil, false_iff]
    rintro ⟨front, rest, hne, hparts, -⟩
    exact hne (List.append_eq_nil_iff.mp hparts.symm).1
  | cons part parts ih =>
    rw [enclosingNames, List.mem_cons, ih, List.reverse_cons]
    constructor
    · rintro (rfl | ⟨front, rest, -, rfl, rfl⟩)
      · exact ⟨[part], parts, List.cons_ne_nil _ _, rfl, rfl⟩
      · refine ⟨part :: front, rest, List.cons_ne_nil _ _, rfl, ?_⟩
        rw [List.append_assoc, List.singleton_append]
    · rintro ⟨front, rest, hne, hparts, rfl⟩
      obtain ⟨first, front, rfl⟩ := List.exists_cons_of_ne_nil hne
      obtain ⟨rfl, rfl⟩ := List.cons.inj hparts
      cases front with
      | nil => exact .inl rfl
      | cons second front =>
        refine .inr ⟨second :: front, rest, List.cons_ne_nil _ _, rfl, ?_⟩
        rw [List.append_assoc, List.singleton_append]

/-- The names that begin a name are the name itself and those that it continues behind a dot. -/
theorem mem_enclosingNames_components_iff {entry name : String} :
    entry ∈ enclosingNames [] (components name) ↔
      name = entry ∨ ∃ rest, name = entry ++ "." ++ rest := by
  rw [mem_enclosingNames_iff]
  simp only [List.reverse_nil, List.nil_append]
  constructor
  · rintro ⟨front, rest, hne, hparts, rfl⟩
    have hname : name = joinComponents (front ++ rest) := by
      rw [← hparts, joinComponents_components]
    cases rest with
    | nil => exact .inl (by rw [hname, List.append_nil])
    | cons part rest =>
      exact .inr ⟨_, hname.trans (joinComponents_append hne (List.cons_ne_nil _ _))⟩
  · rintro (rfl | ⟨rest, rfl⟩)
    · exact ⟨components name, [], components_ne_nil name, (List.append_nil _).symm,
        (joinComponents_components name).symm⟩
    · exact ⟨components entry, components rest, components_ne_nil entry,
        components_append_dot entry rest, (joinComponents_components entry).symm⟩

namespace Exclusion

/-- A module is excluded if its name is empty, if its first component belongs to the standard
library, or if an entry is its name or one that the name continues behind a dot. -/
theorem excludes_iff (ex : Exclusion) (name : String) :
    ex.excludes name = true ↔
      name = "" ∨ isStandardModule (topName name) = true ∨
        ∃ entry ∈ ex.entries, name = entry ∨ ∃ rest, name = entry ++ "." ++ rest := by
  rw [excludes, Bool.or_eq_true, Bool.or_eq_true, String.isEmpty_iff, or_assoc, List.any_eq_true]
  simp only [mem_enclosingNames_components_iff, List.contains_iff_mem]
  refine or_congr_right (or_congr_right ⟨?_, ?_⟩)
  · rintro ⟨entry, hname, hmem⟩
    exact ⟨entry, hmem, hname⟩
  · rintro ⟨entry, hmem, hname⟩
    exact ⟨entry, hname, hmem⟩

/-- The empty name is excluded. -/
theorem ne_empty_of_excludes_eq_false {ex : Exclusion} {name : String}
    (h : ex.excludes name = false) : name ≠ "" := by
  rintro rfl
  exact Bool.false_ne_true (h.symm.trans ((excludes_iff ex "").mpr (.inl rfl)))

/-- What continues an excluded name behind a dot is excluded. -/
theorem excludes_append_dot {ex : Exclusion} {name : String} (hne : name ≠ "")
    (h : ex.excludes name = true) (rest : String) : ex.excludes (name ++ "." ++ rest) = true := by
  rw [excludes_iff] at h ⊢
  rcases h with rfl | htop | ⟨entry, hmem, rfl | ⟨middle, rfl⟩⟩
  · exact absurd rfl hne
  · exact .inr (.inl (by rwa [topName_append_dot]))
  · exact .inr (.inr ⟨name, hmem, .inr ⟨rest, rfl⟩⟩)
  · refine .inr (.inr ⟨entry, hmem, .inr ⟨middle ++ "." ++ rest, ?_⟩⟩)
    simp only [String.append_assoc]

/-- A module that is not excluded has no excluded parent. -/
theorem excludes_parentName_eq_false {ex : Exclusion} {name : String}
    (hparent : parentName name ≠ "") (h : ex.excludes name = false) :
    ex.excludes (parentName name) = false := by
  obtain ⟨last, hname⟩ := eq_parentName_append hparent
  rw [← Bool.not_eq_true] at h ⊢
  intro hexcluded
  apply h
  rw [hname]
  exact excludes_append_dot hparent hexcluded last

end Exclusion

end HandlerBundle
