import HandlerBundle.Package.Artifact
import HandlerBundle.Proofs.Package.FileTree
import HandlerBundle.Proofs.Package.Workspace
import HandlerBundle.Proofs.Text.Dotted
import HandlerBundle.Text.Identifier
import HandlerBundle.Text.Numeral
import Mathlib.Data.List.Nodup
import Mathlib.Data.List.Perm.Subperm

/-!
# Directories of handlers

The names that are tried for the directory of a handler are a hundred different ones. As long as
each of them can be part of a path, and fewer than a hundred directories have been made, one of them
is free, and the directory that is made has nothing in it.

## Main definitions

* `IsPathPart`, `IsEntryName` — texts that can be part of a path, and names of entries.
* `FileTree.Minted` — trees with nothing outside of some directories at the top.
* `FileTree.withDirectory` — a tree with one more directory at the top.

## Main results

* `nodup_directoryNames`, `isEntryName_of_mem_directoryNames` — the names that are tried.
* `mintDirectory_run_cases` — the directory that is made has the first name that is free.
* `mintDirectory_run` — a directory is made if fewer than a hundred have been.
-/

namespace HandlerBundle

/-- A text that can be part of a path: it has no slash and no null character. -/
def IsPathPart (s : String) : Prop := '/' ∉ s.toList ∧ '\x00' ∉ s.toList

instance : DecidablePred IsPathPart := fun _ => inferInstanceAs (Decidable (_ ∧ _))

/-- A text that can be the name of an entry in a directory: it can be part of a path, is not empty,
and stands neither for the directory itself nor for the one above it. -/
structure IsEntryName (s : String) : Prop where
  isPathPart : IsPathPart s
  ne_empty : s ≠ ""
  ne_self : s ≠ "."
  ne_above : s ≠ ".."

/-! ### The names that are tried -/

/-- A character that can neither begin nor continue an identifier is in none. -/
theorem notMem_of_isIdentifier {c : Char} {s : String} (hstart : isIdentifierStart c = false)
    (hcontinue : isIdentifierContinue c = false) (h : isIdentifier s = true) : c ∉ s.toList := by
  unfold isIdentifier at h
  split at h
  · cases h
  · rename_i first rest hs
    rw [Bool.and_eq_true, List.all_eq_true] at h
    rw [hs, List.mem_cons]
    rintro (rfl | hmem)
    · exact Bool.false_ne_true (hstart.symm.trans h.1)
    · exact Bool.false_ne_true (hcontinue.symm.trans (h.2 c hmem))

theorem ne_empty_of_isIdentifier {s : String} (h : isIdentifier s = true) : s ≠ "" := by
  rintro rfl
  cases h

/-- A name that is not empty, has no slash and is no single dot is a path of its own. -/
theorem pathOf_eq_singleton {s : String} (hslash : '/' ∉ s.toList) (hne : s ≠ "") (hdot : s ≠ ".") :
    FileTree.pathOf s = [s] := by
  rw [FileTree.pathOf, splitAtMark_of_notMem hslash]
  apply List.filter_eq_self.mpr
  intro name hname
  obtain rfl := List.mem_singleton.mp hname
  rw [Bool.and_eq_true, Bool.not_eq_true', String.isEmpty_eq_false_iff, bne_iff_ne]
  exact ⟨hne, hdot⟩

variable {handler : Descriptor}

theorem length_qualifiedName (handler : Descriptor) :
    handler.qualifiedName.length = handler.scope.length + 1 + handler.name.length := by
  rw [Descriptor.qualifiedName, String.length_append, String.length_append]
  rfl

theorem length_directoryNames (handler : Descriptor) : (directoryNames handler).length = 100 := by
  rw [directoryNames, List.length_cons, List.length_cons, List.length_map, List.length_range']

/-- No name is tried twice. -/
theorem nodup_directoryNames (handler : Descriptor) : (directoryNames handler).Nodup := by
  have hqualified := length_qualifiedName handler
  have hlonger : ∀ i : ℕ, handler.qualifiedName.length <
      (handler.qualifiedName ++ "-" ++ toString i).length := by
    intro i
    rw [String.length_append, String.length_append, show "-".length = 1 from rfl]
    omega
  rw [directoryNames, List.nodup_cons, List.nodup_cons, List.mem_cons, List.mem_map, List.mem_map]
  refine ⟨?_, ?_, ?_⟩
  · rintro (hname | ⟨i, -, hname⟩)
    · have := congrArg String.length hname
      omega
    · have := congrArg String.length hname
      have := hlonger i
      omega
  · rintro ⟨i, -, hname⟩
    have := congrArg String.length hname
    have := hlonger i
    omega
  · have hread : ((List.range' 2 98).map fun i => toString i).map (fun s => digitsValue s.toList) =
        List.range' 2 98 := by decide +kernel
    have hnumbers : ((List.range' 2 98).map fun i => toString i).Nodup :=
      List.Nodup.of_map _ (hread ▸ List.nodup_range')
    rw [show (fun i : ℕ => handler.qualifiedName ++ "-" ++ toString i) =
      (fun s => handler.qualifiedName ++ "-" ++ s) ∘ fun i => toString i from rfl,
      ← List.map_map]
    refine hnumbers.map fun s s' h => ?_
    have hlist := congrArg String.toList h
    simp only [String.toList_append, List.append_cancel_left_eq] at hlist
    exact String.toList_injective hlist

/-- An identifier can be the name of an entry. -/
theorem IsEntryName.of_isIdentifier {s : String} (h : isIdentifier s = true) : IsEntryName s where
  isPathPart := ⟨notMem_of_isIdentifier (by decide) (by decide) h,
    notMem_of_isIdentifier (by decide) (by decide) h⟩
  ne_empty := ne_empty_of_isIdentifier h
  ne_self hdot := absurd (hdot ▸ h) (by decide)
  ne_above hdots := absurd (hdots ▸ h) (by decide)

/-- The name of an entry is a path of its own. -/
theorem IsEntryName.pathOf_eq {s : String} (h : IsEntryName s) : FileTree.pathOf s = [s] :=
  pathOf_eq_singleton h.isPathPart.1 h.ne_empty h.ne_self

theorem IsEntryName.isNullFree {s : String} (h : IsEntryName s) : TreePath.IsNullFree [s] :=
  List.forall_mem_singleton.mpr h.isPathPart.2

theorem IsEntryName.length_pos {s : String} (h : IsEntryName s) : 0 < s.length :=
  Nat.pos_of_ne_zero fun hzero => h.ne_empty (String.length_eq_zero_iff.mp hzero)

/-- A part of a path that is longer than two characters can be the name of an entry. -/
theorem IsEntryName.of_two_lt {s : String} (hpart : IsPathPart s) (hlong : 2 < s.length) :
    IsEntryName s := by
  refine ⟨hpart, ?_, ?_, ?_⟩ <;> rintro rfl <;> exact absurd hlong (by decide)

/-- Parts of a path side by side are a part of a path. -/
theorem IsPathPart.append {s s' : String} (h : IsPathPart s) (h' : IsPathPart s') :
    IsPathPart (s ++ s') := by
  rw [IsPathPart, String.toList_append, List.mem_append, List.mem_append, not_or, not_or]
  exact ⟨⟨h.1, h'.1⟩, h.2, h'.2⟩

/-- The name of a handler with its scope can be the name of an entry. -/
theorem isEntryName_qualifiedName (hname : IsEntryName handler.name)
    (hscope : IsPathPart handler.scope) : IsEntryName handler.qualifiedName := by
  have hlength := length_qualifiedName handler
  have hpos := hname.length_pos
  refine ⟨(hscope.append (by decide)).append hname.isPathPart, ?_, ?_, fun h => hname.ne_self ?_⟩
  · intro h
    rw [h, String.length_empty] at hlength
    omega
  · intro h
    rw [h, show ".".length = 1 from rfl] at hlength
    omega
  · rw [h, show "..".length = 2 from rfl] at hlength
    have hempty : handler.scope = "" := String.length_eq_zero_iff.mp (by omega)
    rw [Descriptor.qualifiedName, hempty] at h
    have hlist := congrArg String.toList h
    rw [toList_append_dot] at hlist
    exact String.toList_injective (List.cons.inj hlist).2

/-- Every name that is tried can be the name of an entry, if that of the handler can. -/
theorem isEntryName_of_mem_directoryNames (hname : IsEntryName handler.name)
    (hscope : IsPathPart handler.scope) : ∀ name ∈ directoryNames handler, IsEntryName name := by
  intro name hmem
  have hqualified := isEntryName_qualifiedName hname hscope
  rw [directoryNames, List.mem_cons, List.mem_cons, List.mem_map] at hmem
  rcases hmem with rfl | rfl | ⟨i, hi, rfl⟩
  · exact hname
  · exact hqualified
  · have hdigits : ∀ i ∈ List.range' 2 98, IsPathPart (toString i) ∧ 0 < (toString i).length := by
      decide +kernel
    have hlength := length_qualifiedName handler
    have hpos := hname.length_pos
    refine .of_two_lt ((hqualified.isPathPart.append (by decide)).append (hdigits i hi).1) ?_
    have := (hdigits i hi).2
    rw [String.length_append, String.length_append, show "-".length = 1 from rfl]
    omega

/-- An identifier that is tried for the directory of a handler is its name. -/
theorem eq_name_of_mem_directoryNames {d : String} (hd : d ∈ directoryNames handler)
    (hident : isIdentifier d = true) : d = handler.name := by
  have hno := notMem_of_isIdentifier (c := '.') (by decide) (by decide) hident
  have hdot : '.' ∈ handler.qualifiedName.toList := by
    rw [Descriptor.qualifiedName, String.toList_append, String.toList_append]
    exact List.mem_append_left _ (List.mem_append_right _ (by decide))
  rw [directoryNames, List.mem_cons, List.mem_cons, List.mem_map] at hd
  rcases hd with hd | rfl | ⟨i, -, rfl⟩
  · exact hd
  · exact absurd hdot hno
  · rw [String.toList_append, String.toList_append] at hno
    exact absurd (List.mem_append_left _ (List.mem_append_left _ hdot)) hno

/-! ### The directory that is made -/

namespace FileTree

/-- A tree with nothing outside of the given directories at its top. -/
structure Minted (t : FileTree) (ds : List String) : Prop where
  mem_directories : ∀ d ∈ ds, [d] ∈ t.directories
  entry : ∀ p, p ∈ t.directories ∨ (t.content? p).isSome = true → ∃ d ∈ ds, [d] <+: p

/-- Nothing is in an empty tree. -/
theorem minted_empty : FileTree.empty.Minted [] where
  mem_directories _ h := absurd h List.not_mem_nil
  entry p h := by
    rcases h with h | h
    · exact absurd h List.not_mem_nil
    · cases h

/-- A tree with one more directory at the top. -/
def withDirectory (t : FileTree) (d : String) : FileTree :=
  { t with directories := t.directories ++ [[d]] }

theorem mem_directories_withDirectory {t : FileTree} {d : String} {p : TreePath} :
    p ∈ (t.withDirectory d).directories ↔ p ∈ t.directories ∨ p = [d] := by
  rw [withDirectory, List.mem_append, List.mem_singleton]

/-- A directory at the top can be made if there is no entry of that name. -/
theorem makeDirectory?_eq_withDirectory (t : FileTree) (d : String) :
    t.makeDirectory? [d] = if t.has [d] then none else some (t.withDirectory d) := by
  rw [makeDirectory?]
  split_ifs with hhas
  · rfl
  · have hprefixes : (pathPrefixes [d]).filter (fun p => !t.has p) = [[d]] := by
      rw [show pathPrefixes [d] = [[d]] from rfl, List.filter_singleton, Bool.eq_false_iff.mpr hhas]
      rfl
    rw [hprefixes, withDirectory]

theorem content?_withDirectory (t : FileTree) (d : String) (p : TreePath) :
    (t.withDirectory d).content? p = t.content? p := rfl

theorem singleton_prefix_append_iff {d d' : String} {rel : TreePath} :
    [d] <+: [d'] ++ rel ↔ d = d' := by
  rw [List.singleton_append, List.cons_prefix_cons]
  exact and_iff_left (List.nil_prefix)

namespace Minted

variable {t t' : FileTree} {ds : List String} {d d' : String}

/-- At the top of a tree only the given directories are. -/
theorem has_singleton_iff (h : t.Minted ds) : t.has [d] = true ↔ d ∈ ds := by
  rw [has_iff]
  constructor
  · rintro (hnil | hentry)
    · cases hnil
    · obtain ⟨d', hd', hprefix⟩ := h.entry [d] hentry
      have heq : d' = d := singleton_prefix_append_iff.mp (by rwa [List.append_nil])
      exact heq ▸ hd'
  · exact fun hd => .inr (.inl (h.mem_directories d hd))

/-- A directory at the top can be made if it is none of the given ones. -/
theorem makeDirectory?_singleton (h : t.Minted ds) (d : String) :
    t.makeDirectory? [d] = if d ∈ ds then none else some (t.withDirectory d) := by
  rw [makeDirectory?_eq_withDirectory]
  exact if_congr h.has_singleton_iff rfl rfl

/-- What stands against a directory at the top is that it is there. -/
theorem fault?_make (h : t.Minted ds) (hnull : TreePath.IsNullFree [d]) :
    t.fault? .make [d] = if d ∈ ds then some .isAFile else none := by
  have hthere : ([d].isEmpty || t.directories.contains [d] || (t.content? [d]).isSome) =
      decide (d ∈ ds) := by
    rw [Bool.eq_iff_iff, decide_eq_true_eq, ← h.has_singleton_iff, has_iff, Bool.or_eq_true,
      Bool.or_eq_true, List.isEmpty_iff, List.contains_iff_mem, or_assoc]
  have hbarrier : t.barrier? [d].reverse.tail = none := rfl
  simp only [fault?, any_contains_null_eq_false_iff.mpr hnull, hthere, hbarrier, decide_eq_true_eq,
    Bool.false_eq_true, if_false, ite_self]

/-- With a new directory at the top, it is one of the given ones. -/
theorem withDirectory (h : t.Minted ds) (d : String) : (t.withDirectory d).Minted (d :: ds) where
  mem_directories d' hd' := by
    rw [mem_directories_withDirectory]
    rcases List.mem_cons.mp hd' with rfl | hd'
    · exact .inr rfl
    · exact .inl (h.mem_directories d' hd')
  entry p hp := by
    rw [mem_directories_withDirectory, content?_withDirectory, or_right_comm] at hp
    rcases hp with hp | rfl
    · obtain ⟨d', hd', hprefix⟩ := h.entry p hp
      exact ⟨d', List.mem_cons_of_mem _ hd', hprefix⟩
    · exact ⟨d, List.mem_cons_self, List.prefix_rfl⟩

/-- Only which directories there are matters. -/
theorem congr {ds' : List String} (h : t.Minted ds) (hds : ∀ d, d ∈ ds ↔ d ∈ ds') :
    t.Minted ds' where
  mem_directories d hd := h.mem_directories d ((hds d).mpr hd)
  entry p hp := by
    obtain ⟨d, hd, hprefix⟩ := h.entry p hp
    exact ⟨d, (hds d).mp hd, hprefix⟩

/-- New directories at the top look alike: nothing is in them. -/
theorem sameBelow_withDirectory {ds' : List String} (h : t.Minted ds) (h' : t'.Minted ds')
    (hd : d ∉ ds) (hd' : d' ∉ ds') :
    (t.withDirectory d).SameBelow [d] (t'.withDirectory d') [d'] := by
  have hnew : ∀ {t : FileTree} {ds : List String} {d : String}, t.Minted ds → d ∉ ds → ∀ rel,
      [d] ++ rel ∉ t.directories ∧ t.content? ([d] ++ rel) = none := by
    intro t ds d h hd rel
    have hno : ¬ ([d] ++ rel ∈ t.directories ∨ (t.content? ([d] ++ rel)).isSome = true) := by
      intro hentry
      obtain ⟨d', hd', hprefix⟩ := h.entry _ hentry
      exact hd (singleton_prefix_append_iff.mp hprefix ▸ hd')
    rw [not_or, Bool.not_eq_true, Option.isSome_eq_false_iff, Option.isNone_iff_eq_none] at hno
    exact hno
  constructor
  · intro rel
    rw [mem_directories_withDirectory, mem_directories_withDirectory,
      or_iff_right (hnew h hd rel).1, or_iff_right (hnew h' hd' rel).1]
    rw [List.append_right_eq_self, List.append_right_eq_self]
  · intro rel
    rw [content?_withDirectory, content?_withDirectory, (hnew h hd rel).2, (hnew h' hd' rel).2]

/-- The other directories look the same beside a new one. -/
theorem sameBelow_of_ne (hne : d ≠ d') : t.SameBelow [d] (t.withDirectory d') [d] where
  directories rel := by
    rw [mem_directories_withDirectory]
    refine (or_iff_left ?_).symm
    rintro heq
    exact hne (List.cons.inj heq).1
  contents _ := rfl

/-- Changes below one of the given directories leave nothing outside of them. -/
theorem of_sameOutside (h : t.Minted ds) (hd : d ∈ ds) (houtside : SameOutside [d] t t') :
    t'.Minted ds where
  mem_directories d' hd' := by
    refine (houtside.directories [d'] ?_).mp (h.mem_directories d' hd')
    rw [isBelow, List.length_singleton, List.length_singleton, bne_self_eq_false, Bool.false_and]
  entry p hp := by
    by_cases hprefix : [d] <+: p
    · exact ⟨d, hd, hprefix⟩
    · have hp' := isBelow_eq_false hprefix
      rw [← houtside.directories p hp', ← houtside.contents p hp'] at hp
      exact h.entry p hp

end Minted

end FileTree

/-- As long as fewer than a hundred directories have been made, some name is free. -/
theorem not_directoryNames_subset (handler : Descriptor) {ds : List String}
    (hlt : ds.length < 100) : ¬ directoryNames handler ⊆ ds := by
  intro hsubset
  have hlength := ((nodup_directoryNames handler).subperm hsubset).length_le
  rw [length_directoryNames] at hlength
  exact absurd hlt (Nat.not_lt.mpr hlength)

section Mint

variable {w : Workspace} {ds : List String} (h : w.files.Minted ds)

include h

/-- A directory at the top is made unless it is there. -/
theorem tryDirectory_run {name : String} (hname : IsEntryName name) :
    (tryDirectory (FileTree.pathOf name)).run.run w =
      if name ∈ ds then (.ok false, w)
      else (.ok true, { w with files := w.files.withDirectory name }) := by
  rw [hname.pathOf_eq, tryDirectory, Build.run_bind, Build.run_get]
  dsimp only
  rw [h.fault?_make hname.isNullFree]
  split_ifs with hthere
  · rfl
  · have hmade : w.files.ensureDirectory [name] = w.files.withDirectory name := by
      rw [FileTree.ensureDirectory, h.makeDirectory?_singleton, if_neg hthere, Option.getD_some]
    simp only [Build.run_bind, Build.run_modify, Build.run_pure, hmade]

/-- Of some names, each of which can be that of an entry, a directory is made under the first that
is free. If there is none, nothing is made. -/
theorem mintAmong_run_cases {names : List String} (hnames : ∀ name ∈ names, IsEntryName name) :
    (∃ front d back, names = front ++ d :: back ∧ front ⊆ ds ∧ d ∉ ds ∧
      (mintAmong handler names).run.run w =
        (.ok [d], { w with files := w.files.withDirectory d })) ∨
    (names ⊆ ds ∧ (mintAmong handler names).run.run w =
      (.error ⟨.packaging,
        "could not allocate an output directory for " ++ handler.qualifiedName⟩, w)) := by
  induction names with
  | nil => exact .inr ⟨List.nil_subset _, rfl⟩
  | cons name names ih =>
    rw [List.forall_mem_cons] at hnames
    have htry := tryDirectory_run h hnames.1
    rw [mintAmong, Build.run_bind, htry]
    by_cases hthere : name ∈ ds
    · simp only [if_pos hthere, Bool.false_eq_true, if_false]
      rcases ih hnames.2 with ⟨front, d, back, rfl, hfront, hd, hrun⟩ | ⟨hall, hrun⟩
      · exact .inl ⟨name :: front, d, back, rfl, List.cons_subset.mpr ⟨hthere, hfront⟩, hd, hrun⟩
      · exact .inr ⟨List.cons_subset.mpr ⟨hthere, hall⟩, hrun⟩
    · simp only [if_neg hthere, if_true, hnames.1.pathOf_eq, Build.run_pure]
      exact .inl ⟨[], name, names, rfl, List.nil_subset _, hthere, rfl⟩

variable (hnames : ∀ name ∈ directoryNames handler, IsEntryName name)

include hnames

/-- **The directory of a handler has the first name that is free.** If each of the names that are
tried can be that of an entry, a directory is made at the top under the first of them that is none
of the directories there. If there is none, the handler fails and nothing is made. -/
theorem mintDirectory_run_cases :
    (∃ front d back, directoryNames handler = front ++ d :: back ∧ front ⊆ ds ∧ d ∉ ds ∧
      (mintDirectory handler).run.run w =
        (.ok [d], { w with files := w.files.withDirectory d })) ∨
    (directoryNames handler ⊆ ds ∧ (mintDirectory handler).run.run w =
      (.error ⟨.packaging,
        "could not allocate an output directory for " ++ handler.qualifiedName⟩, w)) :=
  mintAmong_run_cases h hnames

/-- **The directory of a handler is a new one.** If fewer than a hundred directories have been made,
one more is made at the top. -/
theorem mintDirectory_run (hlt : ds.length < 100) :
    ∃ d, d ∈ directoryNames handler ∧ d ∉ ds ∧ (mintDirectory handler).run.run w =
      (.ok [d], { w with files := w.files.withDirectory d }) := by
  rcases mintDirectory_run_cases h hnames with ⟨front, d, back, heq, -, hnew, hrun⟩ | ⟨hall, -⟩
  · exact ⟨d, heq ▸ List.mem_append_right front List.mem_cons_self, hnew, hrun⟩
  · exact absurd hall (not_directoryNames_subset handler hlt)

end Mint

end HandlerBundle
