import HandlerBundle.Package.FileTree
import HandlerBundle.Proofs.Text.Dotted
import Mathlib.Data.List.Basic

/-!
# Trees that look alike from a directory

Two trees look alike from a directory in each if the same relative paths lead to the same entries
from there. A change below a directory leaves what is outside as it was. Writing and removing files
below two directories keeps what looks alike from them alike, and changes nothing outside of them.
What cannot be done below the one cannot be done below the other either.

## Main definitions

* `FileTree.SameBelow` — trees that look alike from a directory in each.
* `FileTree.SameOutside` — trees that differ only below a directory.
* `FileTree.IsRooted` — trees without entries that no directory leads to.
* `TreePath.IsNullFree` — paths that can be opened.

## Main results

* `FileTree.SameBelow.write`, `FileTree.SameBelow.remove` — what looks alike stays alike.
* `FileTree.SameBelow.fault?_eq` — the same stands against what is done below both.
* `FileTree.SameBelow.of_sameOutside` — a change elsewhere is not seen from a directory.
* `FileTree.IsRooted.of_made`, `FileTree.IsRooted.write` — a rooted tree stays so.
-/

namespace HandlerBundle

/-- A path without null characters. -/
def TreePath.IsNullFree (path : TreePath) : Prop :=
  ∀ name ∈ path, '\x00' ∉ name.toList

namespace FileTree

/-- From the directory `d` of the one tree and `d'` of the other, the same relative paths lead to
directories, and to files with the same content. -/
structure SameBelow (t : FileTree) (d : TreePath) (t' : FileTree) (d' : TreePath) : Prop where
  directories : ∀ rel, d ++ rel ∈ t.directories ↔ d' ++ rel ∈ t'.directories
  contents : ∀ rel, t.content? (d ++ rel) = t'.content? (d' ++ rel)

/-- Two trees that differ only below the directory `d`. -/
structure SameOutside (d : TreePath) (t t' : FileTree) : Prop where
  directories : ∀ p, isBelow p d = false → (p ∈ t.directories ↔ p ∈ t'.directories)
  contents : ∀ p, isBelow p d = false → t.content? p = t'.content? p

/-- A tree in which whatever leads to an entry is a directory. -/
def IsRooted (t : FileTree) : Prop :=
  ∀ p name, t.has (p ++ [name]) = true → p = [] ∨ p ∈ t.directories

variable {t t' t'' : FileTree} {d d' : TreePath}

/-! ### Paths that are written with slashes -/

/-- An ending without slashes that is more than a dot belongs to the last name of a path. -/
theorem exists_pathOf_append (name : String) :
    ∃ front last, ∀ ending : String, '/' ∉ ending.toList → 1 < ending.length →
      pathOf (name ++ ending) = front ++ [last ++ ending] := by
  obtain ⟨front, last, hcut⟩ := exists_cutAt_append '/' name.toList []
  refine ⟨(front.map String.ofList).filter fun name => !name.isEmpty && name != ".",
    String.ofList last, fun ending hslash hlong => ?_⟩
  have hlast : String.ofList (last ++ ending.toList) = String.ofList last ++ ending := by
    rw [String.ofList_append, String.ofList_toList]
  have hlength : 1 < (String.ofList last ++ ending).length := by
    rw [String.length_append]
    omega
  have hname : (!(String.ofList last ++ ending).isEmpty &&
      (String.ofList last ++ ending) != ".") = true := by
    rw [Bool.and_eq_true, Bool.not_eq_true', String.isEmpty_eq_false_iff, bne_iff_ne]
    constructor <;> intro heq <;> rw [heq] at hlength
    · exact absurd hlength (by decide)
    · exact absurd hlength (by decide)
  rw [pathOf, splitAtMark, String.toList_append, hcut _ hslash, List.map_append,
    List.map_singleton, hlast, List.filter_append, List.filter_singleton, hname]
  rfl

/-! ### Entries -/

theorem isBelow_iff {p root : TreePath} :
    isBelow p root = true ↔ ∃ rel, rel ≠ [] ∧ p = root ++ rel := by
  rw [isBelow, Bool.and_eq_true, bne_iff_ne, List.isPrefixOf_iff_prefix]
  constructor
  · rintro ⟨hlength, rel, rfl⟩
    refine ⟨rel, ?_, rfl⟩
    rintro rfl
    exact hlength (by rw [List.append_nil])
  · rintro ⟨rel, hne, rfl⟩
    refine ⟨?_, List.prefix_append root rel⟩
    have := List.length_pos_of_ne_nil hne
    rw [List.length_append]
    omega

/-- A directory is not below itself. -/
theorem isBelow_self (d : TreePath) : isBelow d d = false := by
  rw [isBelow, bne_self_eq_false, Bool.false_and]

/-- A path is not below a directory that it does not begin with. -/
theorem isBelow_eq_false {p root : TreePath} (h : ¬ root <+: p) : isBelow p root = false := by
  rw [isBelow, Bool.and_eq_false_iff]
  exact .inr (Bool.eq_false_iff.mpr fun hfront => h (List.isPrefixOf_iff_prefix.mp hfront))

/-- Without the file of a path, this path leads to none, and every other path to the old file. -/
theorem find?_filter_ne (files : List (TreePath × FileContent)) (path p : TreePath) :
    (files.filter fun f => f.1 != path).find? (fun f => f.1 == p) =
      if p = path then none else files.find? fun f => f.1 == p := by
  split_ifs with h
  · subst h
    rw [List.find?_eq_none]
    intro f hf hp
    rw [List.mem_filter, bne_iff_ne] at hf
    exact hf.2 (eq_of_beq hp)
  · rw [List.find?_filter]
    congr 1
    funext f
    by_cases hp : f.1 = p
    · simp [hp, h]
    · simp [hp]

/-- After a file is removed, its path leads to none, and every other path to the old file. -/
theorem content?_remove (t : FileTree) (path p : TreePath) :
    (t.remove path).content? p = if p = path then none else t.content? p := by
  rw [content?, content?, remove, find?_filter_ne]
  split_ifs <;> rfl

/-- After a file is written, its path leads to it, and every other path to the old file. -/
theorem content?_write (t : FileTree) (path : TreePath) (content : FileContent) (p : TreePath) :
    (t.write path content).content? p = if p = path then some content else t.content? p := by
  rw [content?, content?, write, List.find?_append, find?_filter_ne]
  split_ifs with h
  · subst h
    have hlast : [(p, content)].find? (fun f => f.1 == p) = some (p, content) :=
      List.find?_cons_of_pos (beq_self_eq_true p)
    rw [Option.none_or, hlast, Option.map_some]
  · have hlast : [(path, content)].find? (fun f => f.1 == p) = none :=
      List.find?_eq_none.mpr fun f hf hp => h (by rw [← eq_of_beq hp, List.mem_singleton.mp hf])
    rw [hlast, Option.or_none]

/-- A path leads to an entry if it is the root, or leads to a directory or to a file. -/
theorem has_iff {p : TreePath} :
    t.has p = true ↔ p = [] ∨ p ∈ t.directories ∨ (t.content? p).isSome = true := by
  rw [has, Bool.or_eq_true, Bool.or_eq_true, List.isEmpty_iff, List.contains_iff_mem, or_assoc,
    content?, Option.isSome_map, List.find?_isSome, List.any_eq_true]

/-- A directory that is there need not be made. -/
theorem ensureDirectory_of_mem (h : d ∈ t.directories) : t.ensureDirectory d = t := by
  have hhas : t.has d = true := has_iff.mpr (.inr (.inl h))
  rw [ensureDirectory, makeDirectory?, if_pos hhas, Option.getD_none]

/-! ### Making directories -/

theorem mem_pathPrefixes_iff {p : TreePath} : p ∈ pathPrefixes d ↔ p ≠ [] ∧ p <+: d := by
  rw [pathPrefixes, List.mem_map]
  constructor
  · rintro ⟨i, hi, rfl⟩
    rw [List.mem_range] at hi
    refine ⟨fun hnil => ?_, List.take_prefix _ _⟩
    have hlength := congrArg List.length hnil
    rw [List.length_take_of_le hi, List.length_nil] at hlength
    cases hlength
  · rintro ⟨hne, hfront⟩
    have hpos := List.length_pos_of_ne_nil hne
    refine ⟨p.length - 1, List.mem_range.mpr ?_, ?_⟩
    · exact Nat.lt_of_lt_of_le (Nat.sub_one_lt_of_lt hpos) hfront.length_le
    · rw [Nat.sub_add_cancel hpos]
      exact (List.prefix_iff_eq_take.mp hfront).symm

section Made

variable (hmade : t.makeDirectory? d = some t')

include hmade

/-- A directory that is made was not there. -/
theorem has_eq_false_of_made : t.has d = false := by
  rw [makeDirectory?] at hmade
  split_ifs at hmade with hhas
  exact Bool.eq_false_iff.mpr hhas

/-- When a directory is made, those on the way to it are made that are not there. -/
theorem mem_directories_iff_of_made {p : TreePath} :
    p ∈ t'.directories ↔ p ∈ t.directories ∨ p ≠ [] ∧ p <+: d ∧ t.has p = false := by
  rw [makeDirectory?] at hmade
  split_ifs at hmade
  obtain rfl := Option.some.inj hmade
  rw [List.mem_append, List.mem_filter, mem_pathPrefixes_iff, Bool.not_eq_true', and_assoc]

/-- A directory that is made is there. -/
theorem mem_directories_of_made : d ∈ t'.directories := by
  have hhas := has_eq_false_of_made hmade
  refine (mem_directories_iff_of_made hmade).mpr (.inr ⟨fun hnil => ?_, List.prefix_rfl, hhas⟩)
  rw [has_iff.mpr (.inl hnil)] at hhas
  cases hhas

/-- No file changes when a directory is made. -/
theorem content?_of_made (p : TreePath) : t'.content? p = t.content? p := by
  rw [makeDirectory?] at hmade
  split_ifs at hmade
  obtain rfl := Option.some.inj hmade
  rfl

end Made

/-! ### What looks alike -/

namespace SameBelow

theorem refl (t : FileTree) (d : TreePath) : SameBelow t d t d :=
  ⟨fun _ => .rfl, fun _ => rfl⟩

theorem symm (h : SameBelow t d t' d') : SameBelow t' d' t d :=
  ⟨fun rel => (h.directories rel).symm, fun rel => (h.contents rel).symm⟩

theorem trans {d'' : TreePath} (h : SameBelow t d t' d') (h' : SameBelow t' d' t'' d'') :
    SameBelow t d t'' d'' :=
  ⟨fun rel => (h.directories rel).trans (h'.directories rel),
    fun rel => (h.contents rel).trans (h'.contents rel)⟩

/-- The same file written below two directories keeps them alike. -/
theorem write (h : SameBelow t d t' d') (rel : TreePath) (content : FileContent) :
    SameBelow (t.write (d ++ rel) content) d (t'.write (d' ++ rel) content) d' where
  directories := h.directories
  contents rel' := by
    rw [content?_write, content?_write, h.contents]
    simp only [List.append_cancel_left_eq]

/-- The same file removed below two directories keeps them alike. -/
theorem remove (h : SameBelow t d t' d') (rel : TreePath) :
    SameBelow (t.remove (d ++ rel)) d (t'.remove (d' ++ rel)) d' where
  directories := h.directories
  contents rel' := by
    rw [content?_remove, content?_remove, h.contents]
    simp only [List.append_cancel_left_eq]

end SameBelow

namespace SameOutside

theorem refl (d : TreePath) (t : FileTree) : SameOutside d t t :=
  ⟨fun _ _ => .rfl, fun _ _ => rfl⟩

theorem trans (h : SameOutside d t t') (h' : SameOutside d t' t'') : SameOutside d t t'' :=
  ⟨fun p hp => (h.directories p hp).trans (h'.directories p hp),
    fun p hp => (h.contents p hp).trans (h'.contents p hp)⟩

/-- A path that is not below a directory is none of the paths below it. -/
theorem ne_append {p rel : TreePath} (hp : isBelow p d = false) (hrel : rel ≠ []) :
    p ≠ d ++ rel := by
  rintro rfl
  rw [isBelow_iff.mpr ⟨rel, hrel, rfl⟩] at hp
  cases hp

/-- A file written below a directory changes nothing outside of it. -/
theorem write (t : FileTree) {rel : TreePath} (hrel : rel ≠ []) (content : FileContent) :
    SameOutside d t (t.write (d ++ rel) content) where
  directories _ _ := .rfl
  contents p hp := by rw [content?_write, if_neg (ne_append hp hrel)]

/-- A file removed below a directory changes nothing outside of it. -/
theorem remove (t : FileTree) {rel : TreePath} (hrel : rel ≠ []) :
    SameOutside d t (t.remove (d ++ rel)) where
  directories _ _ := .rfl
  contents p hp := by rw [content?_remove, if_neg (ne_append hp hrel)]

/-- The directory itself stays. -/
theorem mem_directories (h : SameOutside d t t') : d ∈ t.directories ↔ d ∈ t'.directories :=
  h.directories d (isBelow_self d)

end SameOutside

/-- What is below a directory looks the same when only what is below another one has changed. -/
theorem SameBelow.of_sameOutside (h : SameOutside d' t t') (hapart : ∀ rel, ¬ d' <+: d ++ rel) :
    SameBelow t d t' d where
  directories rel := h.directories _ (isBelow_eq_false (hapart rel))
  contents rel := h.contents _ (isBelow_eq_false (hapart rel))

/-! ### What cannot be done -/

theorem any_contains_null_eq_false_iff {path : TreePath} :
    (path.any fun name => name.toList.contains '\x00') = false ↔ path.IsNullFree := by
  rw [List.any_eq_false, TreePath.IsNullFree]
  simp only [List.contains_iff_mem]

/-- Nothing stands in the way to what is in a directory. -/
theorem barrier?_eq_none (hd : d ∈ t.directories) : t.barrier? d.reverse = none := by
  cases hpath : d.reverse with
  | nil => rfl
  | cons name up =>
    have hmem : (name :: up).reverse ∈ t.directories := by
      rwa [← hpath, List.reverse_reverse]
    rw [barrier?, if_pos (List.contains_iff_mem.mpr hmem)]

/-- In what looks alike, the same stands in the way. -/
theorem SameBelow.barrier?_eq (h : SameBelow t d t' d') (hd : d ∈ t.directories)
    (hd' : d' ∈ t'.directories) (up : TreePath) :
    t.barrier? (up ++ d.reverse) = t'.barrier? (up ++ d'.reverse) := by
  induction up with
  | nil => exact (barrier?_eq_none hd).trans (barrier?_eq_none hd').symm
  | cons name up ih =>
    have hpath : ∀ p : TreePath,
        (name :: (up ++ p.reverse)).reverse = p ++ (name :: up).reverse := by
      intro p
      rw [← List.cons_append, List.reverse_append, List.reverse_reverse]
    simp only [List.cons_append, barrier?, hpath, List.contains_iff_mem, h.directories, h.contents,
      ih]

/-- **In what looks alike, the same cannot be done.** -/
theorem SameBelow.fault?_eq (h : SameBelow t d t' d') (hd : d ∈ t.directories)
    (hd' : d' ∈ t'.directories) (hnull : d.IsNullFree) (hnull' : d'.IsNullFree)
    (access : FileAccess) (rel : TreePath) :
    t.fault? access (d ++ rel) = t'.fault? access (d' ++ rel) := by
  have hany : ((d ++ rel).any fun name => name.toList.contains '\x00') =
      (d' ++ rel).any fun name => name.toList.contains '\x00' := by
    rw [List.any_append, List.any_append, any_contains_null_eq_false_iff.mpr hnull,
      any_contains_null_eq_false_iff.mpr hnull']
  rcases rel.eq_nil_or_concat' with rfl | ⟨front, name, rfl⟩
  · rw [List.append_nil, List.append_nil] at hany ⊢
    have hthere := List.contains_iff_mem.mpr hd
    have hthere' := List.contains_iff_mem.mpr hd'
    simp only [fault?, hany, hthere, hthere', Bool.or_true, Bool.true_or, if_true]
  · have hempty : ∀ p : TreePath, (p ++ (front ++ [name])).isEmpty = false := by
      intro p
      rw [List.isEmpty_eq_false_iff, ← List.append_assoc]
      exact List.concat_ne_nil _ _
    have hdirectory : t.directories.contains (d ++ (front ++ [name])) =
        t'.directories.contains (d' ++ (front ++ [name])) := by
      rw [Bool.eq_iff_iff, List.contains_iff_mem, List.contains_iff_mem, h.directories]
    have hbarrier : t.barrier? (d ++ (front ++ [name])).reverse.tail =
        t'.barrier? (d' ++ (front ++ [name])).reverse.tail := by
      simpa using h.barrier?_eq hd hd' front.reverse
    simp only [fault?, hany, hempty, hdirectory, h.contents, hbarrier]

/-- Nothing stands against a file that is written into a directory, unless there is a directory of
its name. -/
theorem fault?_write_eq_none {name : String} (hd : d ∈ t.directories)
    (hnull : (d ++ [name]).IsNullFree) (hfree : d ++ [name] ∉ t.directories) :
    t.fault? .write (d ++ [name]) = none := by
  have hdirectory : t.directories.contains (d ++ [name]) = false := by
    rwa [← Bool.not_eq_true, List.contains_iff_mem]
  have hempty : (d ++ [name]).isEmpty = false :=
    List.isEmpty_eq_false_iff.mpr (List.concat_ne_nil name d)
  have hbarrier : t.barrier? (d ++ [name]).reverse.tail = none := by
    rw [List.reverse_append]
    exact barrier?_eq_none hd
  simp only [fault?, any_contains_null_eq_false_iff.mpr hnull, hempty, hdirectory, hbarrier,
    Bool.or_false, Bool.false_eq_true, if_false]

/-- Nothing stands against the removal of a file. -/
theorem fault?_remove_eq_none {path : TreePath} {content : FileContent} (hnull : path.IsNullFree)
    (hpath : path ≠ []) (hfree : path ∉ t.directories) (hfile : t.content? path = some content) :
    t.fault? .remove path = none := by
  have hdirectory : t.directories.contains path = false := by
    rwa [← Bool.not_eq_true, List.contains_iff_mem]
  have hempty : path.isEmpty = false := List.isEmpty_eq_false_iff.mpr hpath
  simp only [fault?, any_contains_null_eq_false_iff.mpr hnull, hempty, hdirectory, hfile,
    Bool.or_false, Bool.false_eq_true, if_false, Option.isSome_some, if_true]

/-- A directory that can be made is not there. -/
theorem has_eq_false_of_fault?_make (h : t.fault? .make d = none) : t.has d = false := by
  rw [← Bool.not_eq_true, has_iff, ← or_assoc, ← List.isEmpty_iff, ← List.contains_iff_mem,
    ← Bool.or_eq_true, ← Bool.or_eq_true]
  intro hthere
  simp only [fault?, hthere, if_true] at h
  split_ifs at h

/-- Where nothing stands in the way, there is a directory. -/
theorem mem_directories_of_barrier? {up : TreePath} (h : t.barrier? up = none) :
    up = [] ∨ up.reverse ∈ t.directories := by
  cases up with
  | nil => exact .inl rfl
  | cons name up =>
    rw [barrier?] at h
    split_ifs at h with hthere
    exact .inr (List.contains_iff_mem.mp hthere)

/-- What is written is written into a directory. -/
theorem mem_directories_of_fault?_write {p : TreePath} {name : String}
    (h : t.fault? .write (p ++ [name]) = none) : p = [] ∨ p ∈ t.directories := by
  have hbarrier : t.barrier? (p ++ [name]).reverse.tail = none := by
    simp only [fault?] at h
    split_ifs at h
    exact h
  rw [List.reverse_append] at hbarrier
  change t.barrier? p.reverse = none at hbarrier
  rcases mem_directories_of_barrier? hbarrier with hnil | hmem
  · exact .inl (List.reverse_eq_nil_iff.mp hnil)
  · exact .inr (by rwa [List.reverse_reverse] at hmem)

/-- A compiled form can be put where a file can be written. -/
theorem fault?_compile_eq_none_iff {p : TreePath} :
    t.fault? .compile p = none ↔ t.fault? .write p = none := by
  simp only [fault?]
  split_ifs
  · exact Iff.rfl
  · exact ⟨nofun, nofun⟩
  · exact Iff.rfl

/-! ### Rooted trees -/

theorem isRooted_empty : IsRooted .empty := by
  intro p name h
  rcases has_iff.mp h with hnil | hmem | hfile
  · exact absurd hnil (List.append_ne_nil_of_right_ne_nil _ (List.cons_ne_nil _ _))
  · cases hmem
  · cases hfile

namespace IsRooted

theorem has_of_append (h : t.IsRooted) (rel : TreePath) (hrel : t.has (d ++ rel) = true) :
    t.has d = true := by
  induction rel generalizing d with
  | nil => rwa [List.append_nil] at hrel
  | cons name rel ih =>
    rw [List.append_cons] at hrel
    rcases h d name (ih hrel) with hnil | hmem
    · exact has_iff.mpr (.inl hnil)
    · exact has_iff.mpr (.inr (.inl hmem))

/-- What leads to an entry is a directory. -/
theorem mem_directories_of_append (h : t.IsRooted) {rel : TreePath} (hne : rel ≠ [])
    (hrel : t.has (d ++ rel) = true) : d = [] ∨ d ∈ t.directories := by
  obtain ⟨name, rel, rfl⟩ := List.exists_cons_of_ne_nil hne
  rw [List.append_cons] at hrel
  exact h d name (h.has_of_append rel hrel)

/-- Where no file stands in the way, every entry on the way is a directory. -/
theorem mem_directories_of_barrier? (h : t.IsRooted) {up p : TreePath}
    (hbarrier : t.barrier? up ≠ some .notADirectory) (hfront : p <+: up.reverse)
    (hp : t.has p = true) : p = [] ∨ p ∈ t.directories := by
  induction up with
  | nil => exact .inl (List.prefix_nil.mp hfront)
  | cons name up ih =>
    rw [barrier?] at hbarrier
    split_ifs at hbarrier with hdirectory hfile
    · obtain ⟨rel, hrel⟩ := hfront
      have hmem := List.contains_iff_mem.mp hdirectory
      by_cases hne : rel = []
      · rw [hne, List.append_nil] at hrel
        exact .inr (hrel ▸ hmem)
      · exact h.mem_directories_of_append hne (hrel ▸ has_iff.mpr (.inr (.inl hmem)))
    · exact absurd rfl hbarrier
    · rw [List.reverse_cons, List.prefix_concat_iff] at hfront
      rcases hfront with rfl | hfront
      · refine (has_iff.mp hp).imp_right fun hentry => hentry.resolve_right fun hthere => ?_
        exact hfile (by rwa [List.reverse_cons])
      · refine ih (fun hup => hbarrier ?_) hfront
        rw [hup, Option.getD_some]

/-- A rooted tree stays so when a directory is made that can be made. -/
theorem of_made (h : t.IsRooted) (hfree : t.fault? .make d = none)
    (hmade : t.makeDirectory? d = some t') : t'.IsRooted := by
  have hbarrier : t.barrier? d.reverse.tail ≠ some .notADirectory := by
    intro hbarrier
    simp only [fault?, hbarrier] at hfree
    split_ifs at hfree
    exact absurd rfl ‹_›
  have hkept : ∀ p, p = [] ∨ p ∈ t.directories → p = [] ∨ p ∈ t'.directories := fun p =>
    Or.imp_right fun hp => (mem_directories_iff_of_made hmade).mpr (.inl hp)
  intro p name hp
  rcases has_iff.mp hp with hnil | hmem | hfile
  · exact absurd hnil (List.append_ne_nil_of_right_ne_nil _ (List.cons_ne_nil _ _))
  · rcases (mem_directories_iff_of_made hmade).mp hmem with hthere | ⟨-, hfront, -⟩
    · exact hkept p (h p name (has_iff.mpr (.inr (.inl hthere))))
    · cases hhas : t.has p with
      | true =>
        have hway : p <+: d.reverse.tail.reverse := by
          obtain ⟨rest, rfl⟩ := hfront
          rw [List.tail_reverse, List.reverse_reverse, List.append_assoc, List.singleton_append,
            List.dropLast_append_of_ne_nil (List.cons_ne_nil _ _)]
          exact List.prefix_append _ _
        exact hkept p (h.mem_directories_of_barrier? hbarrier hway hhas)
      | false =>
        by_cases hnil : p = []
        · exact .inl hnil
        · exact .inr ((mem_directories_iff_of_made hmade).mpr
            (.inr ⟨hnil, (List.prefix_append p [name]).trans hfront, hhas⟩))
  · rw [content?_of_made hmade] at hfile
    exact hkept p (h p name (has_iff.mpr (.inr (.inr hfile))))

/-- A rooted tree stays so when a directory is entered that can be entered. -/
theorem ensureDirectory (h : t.IsRooted) (hfree : t.fault? .enter d = none) :
    (t.ensureDirectory d).IsRooted := by
  rw [FileTree.ensureDirectory]
  cases hmade : t.makeDirectory? d with
  | none => exact h
  | some t' =>
    have hnew : (d.isEmpty || t.directories.contains d) = false := by
      have hhas := has_eq_false_of_made hmade
      rw [has, Bool.or_eq_false_iff] at hhas
      exact hhas.1
    refine h.of_made ?_ hmade
    simpa only [fault?, hnew, Bool.false_or, Bool.false_eq_true, if_false] using hfree

/-- A rooted tree stays so when a file is written. -/
theorem write (h : t.IsRooted) {p : TreePath} (content : FileContent)
    (hfree : t.fault? .write p = none) : (t.write p content).IsRooted := by
  intro q name hq
  by_cases hpath : q ++ [name] = p
  · rw [← hpath] at hfree
    exact mem_directories_of_fault?_write (t := t) hfree
  · refine h q name (has_iff.mpr ?_)
    rwa [has_iff, content?_write, if_neg hpath] at hq

/-- A rooted tree stays so when a file is removed. -/
theorem remove (h : t.IsRooted) (p : TreePath) : (t.remove p).IsRooted := by
  intro q name hq
  refine h q name (has_iff.mpr ?_)
  rw [has_iff, content?_remove] at hq
  rcases hq with hnil | hmem | hfile
  · exact .inl hnil
  · exact .inr (.inl hmem)
  · split_ifs at hfile
    · cases hfile
    · exact .inr (.inr hfile)

end IsRooted

end FileTree

end HandlerBundle
