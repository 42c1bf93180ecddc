import HandlerBundle.Package.Settings
import HandlerBundle.Proofs.Results
import HandlerBundle.Proofs.Text.Dotted
import Mathlib.Data.List.TakeWhile

/-!
# Blank variables

A variable whose value is blank counts as one that is not there: settings are read as if it had been
removed. The choice of a compiler is the one exception. Its value is looked at before the blanks at
its ends are dropped, so that a value of blanks is taken for a word that no compiler has.

## Main definitions

* `IsBlankText` — texts of blanks alone.
* `Variables.without` — variables without those of some names.
* `Settings.IsAskedForBy` — how settings are tied to the variables that they are read from.

## Main results

* `Settings.read_eq_error_iff` — when variables give no settings.
* `Settings.blank_counts_as_unset` — blank variables, and what settings always are.
-/

namespace HandlerBundle

/-! ### Blank texts -/

/-- A text of blanks alone; the empty text is one. -/
def IsBlankText (s : String) : Prop :=
  ∀ c ∈ s.toList, isBlank c = true

instance (s : String) : Decidable (IsBlankText s) :=
  decidable_of_iff (s.toList.all isBlank = true) List.all_eq_true

/-- Nothing is left of blanks that are dropped. -/
theorem trim_of_isBlankText {s : String} (hs : IsBlankText s) : trim s = "" := by
  have hdrop : s.toList.dropWhile isBlank = [] := List.dropWhile_eq_nil_iff.mpr hs
  rw [trim, trimChars, hdrop]
  rfl

/-! ### Variables -/

namespace Variables

variable {vars blanks : Variables} {name : String} {names : List String}

/-- Variables without those of some names. -/
def without (vars : Variables) (names : List String) : Variables :=
  vars.filter fun v => !names.contains v.1

theorem lookup_without_of_mem (hname : name ∈ names) : (vars.without names).lookup name = none := by
  rw [List.lookup_eq_none_iff]
  intro v hv
  rw [bne_iff_ne]
  rintro rfl
  have hkept := (List.mem_filter.mp hv).2
  rw [List.contains_iff_mem.mpr hname] at hkept
  exact Bool.false_ne_true hkept

theorem lookup_without_of_notMem (hname : name ∉ names) :
    (vars.without names).lookup name = vars.lookup name := by
  induction vars with
  | nil => rfl
  | cons v vars ih =>
    obtain ⟨key, value⟩ := v
    rw [without, List.filter_cons, List.lookup_cons]
    split
    · rw [List.lookup_cons]
      split
      · rfl
      · exact ih
    next hdropped =>
      have hne : (name == key) = false := by
        rw [beq_eq_false_iff_ne]
        rintro rfl
        exact hdropped (by simpa using hname)
      rw [hne]
      exact ih

/-- Variables are set by putting them in front of the others, which changes no other one. -/
theorem lookup_append_of_lookup_eq_none (vars : Variables) (hname : blanks.lookup name = none) :
    (blanks ++ vars).lookup name = (vars.without (blanks.map Prod.fst)).lookup name := by
  have hnotMem : name ∉ blanks.map Prod.fst := by
    intro hmem
    obtain ⟨b, hb, rfl⟩ := List.mem_map.mp hmem
    exact bne_iff_ne.mp (List.lookup_eq_none_iff.mp hname b hb) rfl
  rw [List.lookup_append, hname, Option.none_or, lookup_without_of_notMem hnotMem]

/-- A variable that is set has the value that it is set to, and none if it is removed. -/
theorem lookup_append_of_lookup_eq_some (vars : Variables) {s : String}
    (hs : blanks.lookup name = some s) :
    (blanks ++ vars).lookup name = some s ∧
      (vars.without (blanks.map Prod.fst)).lookup name = none := by
  obtain ⟨before, after, hblanks, -⟩ := List.lookup_eq_some_iff.mp hs
  have hmem : name ∈ blanks.map Prod.fst :=
    List.mem_map.mpr ⟨(name, s), hblanks ▸ List.mem_append_right _ List.mem_cons_self, rfl⟩
  rw [List.lookup_append, hs, Option.some_or]
  exact ⟨rfl, lookup_without_of_mem hmem⟩

theorem isBlankText_of_lookup (hblank : ∀ b ∈ blanks, IsBlankText b.2) {s : String}
    (hs : blanks.lookup name = some s) : IsBlankText s := by
  obtain ⟨before, after, hblanks, -⟩ := List.lookup_eq_some_iff.mp hs
  exact hblank (name, s) (hblanks ▸ List.mem_append_right _ List.mem_cons_self)

end Variables

namespace Settings

variable {vars blanks : Variables}

/-! ### Blank values -/

/-- A blank value is none. -/
theorem given?_append (hblank : ∀ b ∈ blanks, IsBlankText b.2) (name : String) :
    given? (blanks ++ vars) name = given? (vars.without (blanks.map Prod.fst)) name := by
  cases hset : blanks.lookup name with
  | none => rw [given?, given?, Variables.lookup_append_of_lookup_eq_none vars hset]
  | some s =>
    have htrim := trim_of_isBlankText (Variables.isBlankText_of_lookup hblank hset)
    obtain ⟨hvalue, hremoved⟩ := Variables.lookup_append_of_lookup_eq_some vars hset
    rw [given?, given?, hvalue, hremoved, Option.map_some, htrim]
    rfl

/-- A blank value holds no names. -/
theorem readNames_append (hblank : ∀ b ∈ blanks, IsBlankText b.2) (name : String) :
    readNames (blanks ++ vars) name = readNames (vars.without (blanks.map Prod.fst)) name := by
  cases hset : blanks.lookup name with
  | none => rw [readNames, readNames, Variables.lookup_append_of_lookup_eq_none vars hset]
  | some s =>
    have hs := Variables.isBlankText_of_lookup hblank hset
    have hcomma : ',' ∉ s.toList := fun hmem => absurd (hs ',' hmem) (by decide)
    obtain ⟨hvalue, hremoved⟩ := Variables.lookup_append_of_lookup_eq_some vars hset
    rw [readNames, readNames, hvalue, hremoved, Option.getD_some, splitAtMark_of_notMem hcomma,
      List.map_singleton, trim_of_isBlankText hs]
    rfl

/-! ### The compiler -/

/-- The variable of the compiler. -/
def compilerVariable : String := "FUNCPACK_COMPILER"

/-- The words for compilers. -/
def compilerWords : List String :=
  [CompilerChoice.direct, .separateProgram].map CompilerChoice.word

theorem word_mem_compilerWords (c : CompilerChoice) : c.word ∈ compilerWords := by
  cases c <;> decide

/-- The failure of a word that no compiler has. -/
def unknownCompiler : Failure :=
  ⟨.foreign "ValueError", "FUNCPACK_COMPILER must be 'inprocess' or 'subprocess'"⟩

/-- Without a value the compiler is the usual one. -/
theorem readCompiler_of_unset (hunset : ∀ s, vars.lookup compilerVariable = some s → s = "") :
    readCompiler vars = .ok .direct := by
  have hnone : (vars.lookup compilerVariable).filter (fun s => !s.isEmpty) = none := by
    cases hvalue : vars.lookup compilerVariable with
    | none => rfl
    | some s => rw [hunset s hvalue]; rfl
  rw [readCompiler, show "FUNCPACK_COMPILER" = compilerVariable from rfl, hnone]

/-- A value is the word of a compiler up to blanks at its ends and the case of its letters, or it
stands for none. -/
theorem readCompiler_of_set {s : String} (hset : vars.lookup compilerVariable = some s)
    (hs : s ≠ "") :
    (∃ c : CompilerChoice, c.word = lowerText (trim s) ∧ readCompiler vars = .ok c) ∨
      (lowerText (trim s) ∉ compilerWords ∧ readCompiler vars = .error unknownCompiler) := by
  have hsome : (vars.lookup compilerVariable).filter (fun s => !s.isEmpty) = some s := by
    rw [hset, Option.filter_some, if_pos]
    simpa [String.isEmpty_iff] using hs
  rw [readCompiler, show "FUNCPACK_COMPILER" = compilerVariable from rfl, hsome]
  dsimp only
  split
  next c hfound =>
    have hword := List.find?_some hfound
    exact .inl ⟨c, eq_of_beq hword, rfl⟩
  next hnone =>
    refine .inr ⟨fun hmem => ?_, rfl⟩
    obtain ⟨c, hc, hword⟩ := List.mem_map.mp hmem
    exact List.find?_eq_none.mp hnone c hc (beq_iff_eq.mpr hword)

/-- **Variables give no settings** exactly when that of the compiler has a value which is, blanks at
its ends and the case of its letters apart, none of the words. -/
theorem read_eq_error_iff {f : Failure} :
    read vars = .error f ↔ f = unknownCompiler ∧
      ∃ s, vars.lookup compilerVariable = some s ∧ s ≠ "" ∧
        lowerText (trim s) ∉ compilerWords := by
  have hread : read vars = .error f ↔ readCompiler vars = .error f := by
    rw [read, bind_eq_error_iff]
    exact or_iff_left fun ⟨_, _, h⟩ => by cases h
  rw [hread]
  by_cases hunset : ∀ s, vars.lookup compilerVariable = some s → s = ""
  · rw [readCompiler_of_unset hunset]
    exact ⟨nofun, fun ⟨_, s, hset, hs, _⟩ => absurd (hunset s hset) hs⟩
  · push Not at hunset
    obtain ⟨s, hset, hs⟩ := hunset
    rcases readCompiler_of_set hset hs with ⟨c, hword, hc⟩ | ⟨hword, herror⟩
    · rw [hc]
      refine ⟨nofun, ?_⟩
      rintro ⟨-, s', hset', -, hword'⟩
      obtain rfl := Option.some.inj (hset.symm.trans hset')
      exact absurd (hword ▸ word_mem_compilerWords c) hword'
    · rw [herror, Except.error.injEq]
      exact ⟨fun h => ⟨h.symm, s, hset, hs, hword⟩, fun h => h.1.symm⟩

/-! ### Settings -/

/-- How settings are tied to the variables that they are read from. -/
structure IsAskedForBy (vars : Variables) (settings : Settings) : Prop where
  /-- There is somebody to do the work. -/
  maxWorkers : 1 ≤ settings.maxWorkers
  /-- The compiler is the usual one unless its variable has a value. -/
  compiler_of_unset : (∀ s, vars.lookup compilerVariable = some s → s = "") →
    settings.compiler = .direct
  /-- A value is the word of the compiler. -/
  compiler_of_set : ∀ s, vars.lookup compilerVariable = some s → s ≠ "" →
    settings.compiler.word = lowerText (trim s) ∧ settings.compiler.word ∈ compilerWords
  /-- The allow-list is the usual one with what stands between the commas of its variable, blanks at
  the ends apart, unless nothing stands there. -/
  mem_entries_iff : ∀ name, name ∈ settings.exclusion.entries ↔
    name ∈ Exclusion.standard.entries ∨ name ≠ "" ∧
      ∃ part ∈ splitAtMark ',' ((vars.lookup "FUNCPACK_EXCLUDE_MODULES").getD ""), trim part = name

/-- Settings are tied to the variables that they are read from. -/
theorem isAskedForBy_of_read {settings : Settings} (hread : read vars = .ok settings) :
    settings.IsAskedForBy vars := by
  obtain ⟨compiler, hcompiler, hsettings⟩ := bind_eq_ok_iff.mp hread
  obtain rfl := Except.ok.inj hsettings
  refine ⟨?_, fun hunset => ?_, fun s hset hs => ?_, fun name => ?_⟩
  · exact Int.le_max_left 1 _
  · exact Except.ok.inj (hcompiler.symm.trans (readCompiler_of_unset hunset))
  · rcases readCompiler_of_set hset hs with ⟨c, hword, hc⟩ | ⟨-, herror⟩
    · obtain rfl := Except.ok.inj (hcompiler.symm.trans hc)
      exact ⟨hword, word_mem_compilerWords compiler⟩
    · cases hcompiler.symm.trans herror
  · dsimp only
    rw [List.mem_append, readNames, List.mem_filter, List.mem_map, Bool.not_eq_true',
      Bool.eq_false_iff, ne_eq, String.isEmpty_iff, and_comm (b := ¬name = "")]

/-- Settings that are read from two sets of variables are the same if the compiler is, and every
other value. -/
theorem read_congr {vars' : Variables} (hcompiler : readCompiler vars = readCompiler vars')
    (hgiven : ∀ name, given? vars name = given? vars' name)
    (hnames : ∀ name, readNames vars name = readNames vars' name) : read vars = read vars' := by
  simp only [read, readSwitch, hcompiler, hgiven, hnames]

/-- **Blank variables count as unset.** Variables that are set to blanks give the settings, or the
failure, that they give when these are removed, as long as the compiler is not among them or is set
to the empty text. If it is set to blanks, there is no such compiler, whatever else is set.
Settings, if there are any, are tied to the variables that they are read from. -/
theorem blank_counts_as_unset (vars blanks : Variables) (hblank : ∀ b ∈ blanks, IsBlankText b.2) :
    ((∀ s, blanks.lookup compilerVariable = some s → s = "") →
      read (blanks ++ vars) = read (vars.without (blanks.map Prod.fst))) ∧
    (∀ s, blanks.lookup compilerVariable = some s → s ≠ "" →
      read (blanks ++ vars) = .error unknownCompiler) ∧
    ∀ settings, read vars = .ok settings → settings.IsAskedForBy vars := by
  refine ⟨fun hcompiler => ?_, fun s hset hs => ?_, fun settings => isAskedForBy_of_read⟩
  · refine read_congr ?_ (given?_append hblank) (readNames_append hblank)
    cases hset : blanks.lookup compilerVariable with
    | none =>
      have hsame := Variables.lookup_append_of_lookup_eq_none vars hset
      rw [compilerVariable] at hsame
      rw [readCompiler, readCompiler, hsame]
    | some s =>
      obtain ⟨hvalue, hremoved⟩ := Variables.lookup_append_of_lookup_eq_some vars hset
      rw [readCompiler_of_unset, readCompiler_of_unset]
      · exact fun _ h => by cases hremoved.symm.trans h
      · exact fun _ h => Option.some.inj (hvalue.symm.trans h) ▸ hcompiler s hset
  · have hword : lowerText (trim s) ∉ compilerWords := by
      rw [trim_of_isBlankText (Variables.isBlankText_of_lookup hblank hset)]
      decide
    obtain ⟨hvalue, -⟩ := Variables.lookup_append_of_lookup_eq_some vars hset
    exact read_eq_error_iff.mpr ⟨rfl, s, hvalue, hs, hword⟩

/-- Settings of four workers and one more module that is not shipped, with three variables that are
blank. The number of workers is the usual one again; but blanks for a compiler are none. -/
theorem blank_counts_as_unset_fourWorkers :
    let vars : Variables := [("FUNCPACK_MAX_WORKERS", "4"), ("FUNCPACK_EXCLUDE_MODULES", "a, ,b.c")]
    let blanks : Variables := [("FUNCPACK_MAX_WORKERS", " \t"), ("FUNCPACK_COMPILER", "")]
    (∀ b ∈ blanks, IsBlankText b.2) ∧
      read (blanks ++ vars) = read [("FUNCPACK_EXCLUDE_MODULES", "a, ,b.c")] ∧
      (∀ b ∈ [("FUNCPACK_COMPILER", " ")], IsBlankText b.2) ∧
      read (("FUNCPACK_COMPILER", " ") :: vars) = .error unknownCompiler := by
  intro vars blanks
  have hblanks : ∀ b ∈ blanks, IsBlankText b.2 := by decide
  have hspace : ∀ b ∈ [("FUNCPACK_COMPILER", " ")], IsBlankText b.2 := by decide
  refine ⟨hblanks, ?_, hspace, ?_⟩
  · refine (blank_counts_as_unset vars blanks hblanks).1 fun s hs => ?_
    exact (Option.some.inj (hs.symm.trans (by decide : _ = some ""))).symm ▸ rfl
  · exact (blank_counts_as_unset vars _ hspace).2.1 " " (by decide) (by decide)

end Settings

end HandlerBundle
