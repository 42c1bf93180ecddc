import HandlerBundle.Loader.Source
import HandlerBundle.Proofs.Annotation.Equality
import HandlerBundle.Text.Identifier
import Mathlib.Data.Set.Basic

/-!
# Full names tell annotations apart

The full name of an annotation is made of runs of name characters, of lists in brackets, and of
the mark that follows the element of an array. A run ends where another character stands, a list at
its closing bracket, and no name goes on behind these except by the marks of arrays. So a full name
in front of a longer text determines both the structure of the annotation and where it ends, as long
as no two classes share a full name.

The full name of a class joins its module and its name within the module by a dot. Two classes can
differ in both and share the full name all the same.

## Main definitions

* `Annotation.IdentifiesClasses` — classes that their full names tell apart.
* `Annotation.IsBuiltFrom` — the annotations that are written with given classes.
* `Annotation.SameStructure` — equal up to spelling.

## Main results

* `Annotation.fullName_identifies` — full names, and the types of functions, tell annotations apart.
* `Annotation.fullName_ambiguous` — without that condition on classes they do not.
-/

namespace HandlerBundle

/-- A character of the full name of a class. -/
def isNameCharacter (c : Char) : Bool :=
  isIdentifierContinue c || c == '.'

namespace Annotation

/-! ### Annotations and their structure -/

/-- The full names tell the classes apart, from each other and from the unions that are spelled
through their alias. -/
structure IdentifiesClasses (classes : Set Class) : Prop where
  module : ∀ c ∈ classes, c.module.toList.all isNameCharacter = true
  qualname : ∀ c ∈ classes, c.qualname.toList.all isNameCharacter = true
  distinct : ∀ c ∈ classes, ∀ d ∈ classes, c.fullName = d.fullName → c = d
  notUnion : ∀ c ∈ classes, c.fullName ≠ "typing.Union"

/-- The annotations that are written with given classes: the absent value, the classes, the
ellipsis, lists, and generics and unions over at least one argument. Choices, notes, named forms,
names to be looked up and aliases without arguments are left out. -/
inductive IsBuiltFrom (classes : Set Class) : Annotation → Prop
  | absent : IsBuiltFrom classes .absent
  | ellipsis : IsBuiltFrom classes (.value .ellipsis)
  | cls {c : Class} (hc : c ∈ classes) : IsBuiltFrom classes (.cls c)
  | params {ts : List Annotation} (hts : ∀ t ∈ ts, IsBuiltFrom classes t) :
      IsBuiltFrom classes (.params ts)
  | generic {spelling : Spelling} {c : Class} {ts : List Annotation} (hc : c ∈ classes)
      (hne : ts ≠ []) (hts : ∀ t ∈ ts, IsBuiltFrom classes t) :
      IsBuiltFrom classes (.generic spelling c ts)
  | union {spelling : Spelling} {ts : List Annotation}
      (hc : spelling = .direct → .known .unionType ∈ classes) (hne : ts ≠ [])
      (hts : ∀ t ∈ ts, IsBuiltFrom classes t) : IsBuiltFrom classes (.union spelling ts)

/-- Two annotations have the same structure: they are the same, the absent value counting as its
class, or they are built over the same and their arguments have the same structure, place by place.
The spelling does not count, except that unions of different spellings are built over different
things. -/
inductive SameStructure : Annotation → Annotation → Prop
  | plain {t u : Annotation} (h : t.normal = u.normal) : SameStructure t u
  | params {ts us : List Annotation} (h : List.Forall₂ SameStructure ts us) :
      SameStructure (.params ts) (.params us)
  | applied {t u o : Annotation} (ht : t.origin? = some o) (hu : u.origin? = some o)
      (h : List.Forall₂ SameStructure t.args u.args) : SameStructure t u

variable {classes : Set Class} {t t' u u' x y : Annotation} {ts us : List Annotation}
  {a b a' b' r s : List Char} {c : Char}

/-! ### Texts that end a name -/

/-- A text is empty or begins with one of the given marks. -/
def BeginsIn (marks r : List Char) : Prop :=
  ∀ c ∈ r.head?, c ∈ marks

/-- The marks that can follow a name: the comma of a list and the closing brackets. -/
def closers : List Char := [',', '>', ']', ')']

/-- No mark that can stand behind a name, or behind the element of an array, is a name character. -/
theorem isNameCharacter_of_mem_marks (hc : c ∈ ' ' :: closers) : isNameCharacter c = false := by
  have hall : ((' ' :: closers).all fun c => !isNameCharacter c) = true := by decide
  simpa using List.all_eq_true.mp hall c hc

theorem beginsIn_cons {marks : List Char} : BeginsIn marks (c :: r) ↔ c ∈ marks := by
  simp [BeginsIn]

/-- Runs of name characters that are followed by others are as long as they can be. -/
theorem eq_of_append_eq (ha : a.all isNameCharacter = true) (hb : b.all isNameCharacter = true)
    (hr : ∀ c ∈ r.head?, isNameCharacter c = false)
    (hs : ∀ c ∈ s.head?, isNameCharacter c = false) (h : a ++ r = b ++ s) : a = b ∧ r = s := by
  induction a generalizing b with
  | nil =>
    cases b with
    | nil => exact ⟨rfl, h⟩
    | cons c b =>
      obtain rfl : r = c :: (b ++ s) := h
      rw [List.all_cons, hr c rfl] at hb
      cases hb
  | cons c a ih =>
    cases b with
    | nil =>
      obtain rfl : c :: (a ++ r) = s := h
      rw [List.all_cons, hs c rfl] at ha
      cases ha
    | cons d b =>
      obtain ⟨rfl, htail⟩ := List.cons.inj h
      rw [List.all_cons, Bool.and_eq_true] at ha hb
      obtain ⟨rfl, rfl⟩ := ih ha.2 hb.2 htail
      exact ⟨rfl, rfl⟩

/-- The mark that follows the element of an array. -/
def arrayMark : List Char := [' ', '[', ']']

/-- The marks of arrays, one behind the other. -/
def arrayMarks : Nat → List Char
  | 0 => []
  | k + 1 => arrayMark ++ arrayMarks k

theorem arrayMarks_append (k : Nat) : arrayMarks k ++ arrayMark = arrayMarks (k + 1) := by
  induction k with
  | zero => rfl
  | succ k ih => rw [arrayMarks, List.append_assoc, ih, ← arrayMarks]

theorem beginsIn_arrayMarks_append (k : Nat) (hr : BeginsIn closers r) :
    BeginsIn (' ' :: closers) (arrayMarks k ++ r) := by
  cases k with
  | zero => exact fun c hc => List.mem_cons_of_mem _ (hr c hc)
  | succ => exact beginsIn_cons.mpr List.mem_cons_self

theorem eq_of_arrayMarks_append_eq {k m : Nat} (hr : BeginsIn closers r) (hs : BeginsIn closers s)
    (h : arrayMarks k ++ r = arrayMarks m ++ s) : k = m ∧ r = s := by
  have hspace : ∀ {q : List Char}, ¬BeginsIn closers (' ' :: q) := fun hq =>
    absurd (beginsIn_cons.mp hq) (by decide)
  induction k generalizing m with
  | zero =>
    cases m with
    | zero => exact ⟨rfl, h⟩
    | succ m =>
      obtain rfl : r = arrayMarks (m + 1) ++ s := h
      exact absurd hr hspace
  | succ k ih =>
    cases m with
    | zero =>
      obtain rfl : arrayMarks (k + 1) ++ r = s := h
      exact absurd hs hspace
    | succ m =>
      rw [arrayMarks, arrayMarks, List.append_assoc, List.append_assoc] at h
      obtain ⟨rfl, rfl⟩ := ih (List.append_cancel_left h)
      exact ⟨rfl, rfl⟩

/-! ### The characters of a name -/

/-- The characters of the full name. -/
def nameChars (t : Annotation) : List Char :=
  t.fullName.toList

/-- The names of further elements of a list, each behind a comma. -/
def namesBehind (ts : List Annotation) : List Char :=
  ts.flatMap fun t => ',' :: ' ' :: t.nameChars

/-- The names of the elements of a list. -/
def listedNames : List Annotation → List Char
  | [] => []
  | t :: ts => t.nameChars ++ namesBehind ts

theorem toList_fullNamesAfter (ts : List Annotation) :
    (fullNamesAfter ts).toList = namesBehind ts := by
  induction ts with
  | nil => rfl
  | cons t ts ih => simp [fullNamesAfter, ih, namesBehind, nameChars]

theorem toList_intercalate_fullName (ts : List Annotation) :
    (", ".intercalate (ts.map fullName)).toList = listedNames ts := by
  induction ts with
  | nil => rfl
  | cons t ts ih =>
    cases ts with
    | nil => rw [List.map_singleton, String.intercalate_singleton]; exact (List.append_nil _).symm
    | cons u us =>
      rw [List.map_cons, List.map_cons, String.intercalate_cons_cons, ← List.map_cons,
        String.toList_append, ih]
      simp [listedNames, namesBehind, nameChars]

theorem nameChars_absent : absent.nameChars = "None".toList :=
  congrArg String.toList (fullName.eq_def _)

theorem nameChars_ellipsis : (value .ellipsis).nameChars = "Ellipsis".toList :=
  congrArg String.toList (fullName.eq_def _)

theorem nameChars_cls (c : Class) :
    (cls c).nameChars = if c = .known .noneType then "None".toList else c.fullName.toList := by
  have h : (cls c).fullName = if c == .known .noneType then "None" else c.fullName :=
    fullName.eq_def _
  rw [nameChars, h, apply_ite String.toList]
  simp only [beq_iff_eq]

theorem nameChars_params (ts : List Annotation) :
    (params ts).nameChars = '[' :: (listedNames ts ++ [']']) := by
  cases ts with
  | nil => exact congrArg String.toList (fullName.eq_def _)
  | cons t ts =>
    have h : (params (t :: ts)).fullName = "[" ++ t.fullName ++ fullNamesAfter ts ++ "]" :=
      fullName.eq_def _
    simp [nameChars, h, toList_fullNamesAfter, listedNames]

/-- An array with elements of the second annotation. -/
def IsArrayOf (t x : Annotation) : Prop :=
  ∃ spelling, t = .generic spelling (.known .tuple) [x, .value .ellipsis]

theorem IsArrayOf.nameChars_eq (h : t.IsArrayOf x) : t.nameChars = x.nameChars ++ arrayMark := by
  obtain ⟨spelling, rfl⟩ := h
  have h : (generic spelling (.known .tuple) [x, .value .ellipsis]).fullName =
      x.fullName ++ " []" := fullName.eq_def _
  simp [nameChars, h, arrayMark]

/-- The name of what a generic or a union is built over. -/
def headName? : Annotation → Option String
  | .generic _ c _ => some c.fullName
  | .union .aliased _ => some "typing.Union"
  | .union .direct _ => some "types.UnionType"
  | _ => none

theorem parts_eq_args {name : String} (hname : t.headName? = some name) : t.parts = t.args := by
  cases t with
  | generic | union => rfl
  | _ => cases hname

/-- Apart from arrays, what is built over something is written with its arguments in brackets. -/
theorem nameChars_of_headName? {name : String} (hname : t.headName? = some name)
    (hne : t.args ≠ []) (harray : ∀ x, ¬t.IsArrayOf x) :
    t.nameChars = name.toList ++ '<' :: (listedNames t.args ++ ['>']) := by
  have hlisted {x : Annotation} {xs : List Annotation}
      (h : t.fullName = name ++ "<" ++ x.fullName ++ fullNamesAfter xs ++ ">") :
      t.nameChars = name.toList ++ '<' :: (listedNames (x :: xs) ++ ['>']) := by
    simp [nameChars, h, toList_fullNamesAfter, listedNames]
  cases t with
  | generic spelling c ts =>
    obtain rfl : c.fullName = name := Option.some.inj hname
    cases ts with
    | nil => exact absurd rfl hne
    | cons x xs =>
      refine hlisted ((fullName.eq_def _).trans ?_)
      dsimp only
      split
      · cases ‹_ :: _ = []›
      · rename_i x heq
        obtain ⟨rfl, rfl⟩ := List.cons.inj heq
        refine (if_neg fun hc => harray x ⟨spelling, by rw [beq_iff_eq.mp hc]⟩).trans ?_
        have hellipsis : fullNamesAfter [value .ellipsis] = ", Ellipsis" := by
          have hvalue : (value .ellipsis).fullName = "Ellipsis" := fullName.eq_def _
          simp only [fullNamesAfter, hvalue, String.reduceAppend]
        rw [hellipsis, @String.append_assoc _ ", Ellipsis" ">"]
        rfl
      · rename_i heq
        obtain ⟨rfl, rfl⟩ := List.cons.inj heq
        rfl
  | union spelling ts =>
    cases ts with
    | nil => exact absurd rfl hne
    | cons x xs =>
      cases spelling <;> obtain rfl := Option.some.inj hname <;>
        exact hlisted (fullName.eq_def _)
  | _ => cases hname

/-! ### Arrays around an annotation -/

/-- The third annotation is the second with as many arrays around it as the number says. -/
inductive ArraysOf : Nat → Annotation → Annotation → Prop
  | zero {x : Annotation} : ArraysOf 0 x x
  | succ {k : Nat} {x t u : Annotation} (h : ArraysOf k x t) (hu : u.IsArrayOf t) :
      ArraysOf (k + 1) x u

theorem ArraysOf.inner {k : Nat} (h : ArraysOf k t t') (ht : t.IsArrayOf x) :
    ArraysOf (k + 1) x t' := by
  induction h with
  | zero => exact .succ .zero ht
  | succ _ harray ih => exact .succ (ih ht) harray

theorem ArraysOf.nameChars_eq {k : Nat} (h : ArraysOf k x t) :
    t.nameChars = x.nameChars ++ arrayMarks k := by
  induction h with
  | zero => exact (List.append_nil _).symm
  | succ _ harray ih => rw [harray.nameChars_eq, ih, List.append_assoc, arrayMarks_append]

theorem ArraysOf.sameStructure {k : Nat} (ht : ArraysOf k x t) (hu : ArraysOf k y u)
    (h : SameStructure x y) : SameStructure t u := by
  induction ht generalizing u with
  | zero =>
    cases hu
    exact h
  | succ _ harray ih =>
    obtain _ | ⟨hu, harray'⟩ := hu
    obtain ⟨_, rfl⟩ := harray
    obtain ⟨_, rfl⟩ := harray'
    exact .applied rfl rfl (.cons (ih hu h) (.cons (.plain rfl) .nil))

/-! ### Annotations that are no arrays -/

/-- The annotations without parts. -/
inductive IsPlain (classes : Set Class) : Annotation → Prop
  | absent : IsPlain classes .absent
  | ellipsis : IsPlain classes (.value .ellipsis)
  | cls {c : Class} (hc : c ∈ classes) : IsPlain classes (.cls c)

/-- How the name of an annotation begins that is no array: the run of name characters at the front,
and what follows it. -/
inductive Opens (classes : Set Class) : Annotation → List Char → List Char → Prop
  | plain {t : Annotation} (h : IsPlain classes t) : Opens classes t t.nameChars []
  | params {ts : List Annotation} (hts : ∀ t ∈ ts, IsBuiltFrom classes t) :
      Opens classes (.params ts) [] ('[' :: (listedNames ts ++ [']']))
  | applied {t : Annotation} {name : String} (hname : t.headName? = some name)
      (ht : t.IsBuiltFrom classes) (hne : t.args ≠ []) (harray : ∀ x, ¬t.IsArrayOf x) :
      Opens classes t name.toList ('<' :: (listedNames t.args ++ ['>']))

theorem Opens.nameChars_eq (h : Opens classes t a b) : t.nameChars = a ++ b := by
  cases h with
  | plain => exact (List.append_nil _).symm
  | params => exact nameChars_params _
  | applied hname _ hne harray => exact nameChars_of_headName? hname hne harray

/-- What follows the run at the front is no name character, whatever stands behind the name. -/
theorem Opens.isNameCharacter_head? (h : Opens classes t a b) (hr : BeginsIn (' ' :: closers) r) :
    ∀ c ∈ (b ++ r).head?, isNameCharacter c = false := by
  cases h with
  | plain => exact fun c hc => isNameCharacter_of_mem_marks (hr c hc)
  | params => rintro c ⟨rfl⟩; decide
  | applied => rintro c ⟨rfl⟩; decide

theorem IsBuiltFrom.of_mem_parts (h : t.IsBuiltFrom classes) (hx : x ∈ t.parts) :
    x.IsBuiltFrom classes := by
  cases h with
  | params hts | generic _ _ hts | union _ _ hts => exact hts x hx
  | _ => exact absurd hx List.not_mem_nil

/-- What is built is an array, or its name begins in one of the three ways. -/
theorem IsBuiltFrom.array_or_opens (h : t.IsBuiltFrom classes) :
    (∃ x, t.IsArrayOf x ∧ x.IsBuiltFrom classes) ∨ ∃ a b, Opens classes t a b := by
  have happlied {name : String} (hname : t.headName? = some name) (hne : t.args ≠ [])
      (hargs : ∀ x ∈ t.args, x.IsBuiltFrom classes) :
      (∃ x, t.IsArrayOf x ∧ x.IsBuiltFrom classes) ∨ ∃ a b, Opens classes t a b := by
    by_cases harray : ∃ x, t.IsArrayOf x
    · obtain ⟨x, spelling, rfl⟩ := harray
      exact .inl ⟨x, ⟨spelling, rfl⟩, hargs x List.mem_cons_self⟩
    · exact .inr ⟨_, _, .applied hname h hne (not_exists.mp harray)⟩
  cases h with
  | absent => exact .inr ⟨_, _, .plain .absent⟩
  | ellipsis => exact .inr ⟨_, _, .plain .ellipsis⟩
  | cls hc => exact .inr ⟨_, _, .plain (.cls hc)⟩
  | params hts => exact .inr ⟨_, _, .params hts⟩
  | generic _ hne hts => exact happlied rfl hne hts
  | @union spelling _ _ hne hts => cases spelling <;> exact happlied rfl hne hts

theorem IsBuiltFrom.exists_arraysOf (h : t.IsBuiltFrom classes) :
    ∃ k x a b, ArraysOf k x t ∧ Opens classes x a b := by
  induction t using partsInduction with
  | step t ih =>
    obtain ⟨x, harray, hx⟩ | ⟨a, b, hopens⟩ := h.array_or_opens
    · have hpart : x ∈ t.parts := by
        obtain ⟨_, rfl⟩ := harray
        exact List.mem_cons_self
      obtain ⟨k, y, a, b, hk, hopens⟩ := ih x hpart hx
      exact ⟨k + 1, y, a, b, .succ hk harray, hopens⟩
    · exact ⟨0, t, a, b, .zero, hopens⟩

/-- The full name of a class has a dot. -/
theorem ne_fullName {cs : List Char} (hcs : '.' ∉ cs) (d : Class) : cs ≠ d.fullName.toList := by
  rintro rfl
  exact hcs (by simp [Class.fullName])

/-- The name of a plain annotation is not empty. -/
theorem IsPlain.nameChars_ne_nil (h : t.IsPlain classes) : t.nameChars ≠ [] := by
  cases h with
  | absent => rw [nameChars_absent]; decide
  | ellipsis => rw [nameChars_ellipsis]; decide
  | @cls d =>
    rw [nameChars_cls]
    split
    · decide
    · exact (ne_fullName List.not_mem_nil d).symm

section Identified

variable (hclasses : IdentifiesClasses classes)
include hclasses

theorem all_isNameCharacter_fullName {d : Class} (hd : d ∈ classes) :
    d.fullName.toList.all isNameCharacter = true := by
  have hdot : ".".toList.all isNameCharacter = true := by decide
  rw [Class.fullName, String.toList_append, String.toList_append, List.all_append, List.all_append,
    hclasses.module d hd, hclasses.qualname d hd, hdot]
  rfl

theorem Opens.all_isNameCharacter (h : Opens classes t a b) : a.all isNameCharacter = true := by
  cases h with
  | plain h =>
    cases h with
    | absent => rw [nameChars_absent]; decide
    | ellipsis => rw [nameChars_ellipsis]; decide
    | @cls d hd =>
      rw [nameChars_cls]
      split
      · decide
      · exact all_isNameCharacter_fullName hclasses hd
  | params => rfl
  | @applied _ name hname ht =>
    cases ht with
    | generic hc =>
      obtain rfl := Option.some.inj hname
      exact all_isNameCharacter_fullName hclasses hc
    | @union spelling =>
      cases spelling <;> obtain rfl := Option.some.inj hname <;> decide
    | _ => cases hname

/-- Plain annotations with the same name are the same. -/
theorem normal_eq_of_isPlain (ht : t.IsPlain classes) (hu : u.IsPlain classes)
    (h : t.nameChars = u.nameChars) : t.normal = u.normal := by
  have hcases {x : Annotation} (hx : x.IsPlain classes) : x = .value .ellipsis ∨
      ∃ c, (c = .known .noneType ∨ c ∈ classes) ∧ x.normal = cls c ∧
        x.nameChars = (cls c).nameChars := by
    cases hx with
    | absent => exact .inr ⟨.known .noneType, .inl rfl, rfl, by
        rw [nameChars_absent, nameChars_cls, if_pos rfl]⟩
    | ellipsis => exact .inl rfl
    | cls hc => exact .inr ⟨_, .inr hc, rfl, rfl⟩
  have hellipsis (c : Class) : (value .ellipsis).nameChars ≠ (cls c).nameChars := by
    rw [nameChars_ellipsis, nameChars_cls]
    split
    · decide
    · exact ne_fullName (by decide) c
  obtain rfl | ⟨c, hc, hnormal, hname⟩ := hcases ht <;>
    obtain rfl | ⟨d, hd, hnormal', hname'⟩ := hcases hu
  · rfl
  · exact absurd (h.trans hname') (hellipsis d)
  · exact absurd (h.symm.trans hname) (hellipsis c)
  · rw [hname, hname', nameChars_cls, nameChars_cls] at h
    rw [hnormal, hnormal']
    refine congrArg cls ?_
    have hnone : '.' ∉ "None".toList := by decide
    split at h
    · split at h
      · exact ‹c = _›.trans ‹d = _›.symm
      · exact absurd h (ne_fullName hnone d)
    · split at h
      · exact absurd h.symm (ne_fullName hnone c)
      · exact hclasses.distinct c (hc.resolve_left ‹_›) d (hd.resolve_left ‹_›)
          (String.toList_inj.mp h)

/-- What has the same name is the same thing to be built over. -/
theorem exists_origin? {name : String} (ht : t.IsBuiltFrom classes) (hu : u.IsBuiltFrom classes)
    (htname : t.headName? = some name) (huname : u.headName? = some name) :
    ∃ o, t.origin? = some o ∧ u.origin? = some o := by
  have hcases {x : Annotation} (hx : x.IsBuiltFrom classes) (hname : x.headName? = some name) :
      (x.origin? = some (.form (.special "Union")) ∧ name = "typing.Union") ∨
        ∃ c ∈ classes, x.origin? = some (.cls c) ∧ c.fullName = name := by
    cases hx with
    | generic hc => exact .inr ⟨_, hc, rfl, Option.some.inj hname⟩
    | @union spelling _ hc =>
      cases spelling with
      | aliased => exact .inl ⟨rfl, (Option.some.inj hname).symm⟩
      | direct => exact .inr ⟨_, hc rfl, rfl, Option.some.inj hname⟩
    | _ => cases hname
  obtain ⟨ht, hunion⟩ | ⟨c, hc, ht, hname⟩ := hcases ht htname <;>
    obtain ⟨hu, hunion'⟩ | ⟨d, hd, hu, hname'⟩ := hcases hu huname
  · exact ⟨_, ht, hu⟩
  · exact absurd (hname'.trans hunion) (hclasses.notUnion d hd)
  · exact absurd (hname.trans hunion') (hclasses.notUnion c hc)
  · obtain rfl := hclasses.distinct c hc d hd (hname.trans hname'.symm)
    exact ⟨_, ht, hu⟩

/-- A name never begins with a mark that could follow it. -/
theorem not_beginsIn_nameChars (ht : t.IsBuiltFrom classes) :
    ¬BeginsIn closers (t.nameChars ++ r) := by
  obtain ⟨k, x, a, b, hk, hopens⟩ := ht.exists_arraysOf
  rw [hk.nameChars_eq, hopens.nameChars_eq]
  intro h
  cases a with
  | cons c a =>
    have hname := hopens.all_isNameCharacter hclasses
    have hmark := List.mem_cons_of_mem ' ' (beginsIn_cons.mp h)
    rw [List.all_cons, isNameCharacter_of_mem_marks hmark] at hname
    cases hname
  | nil =>
    generalize hrun : ([] : List Char) = run at hopens
    cases hopens with
    | plain hplain => exact hplain.nameChars_ne_nil hrun.symm
    | params => exact absurd (beginsIn_cons.mp h) (by decide)
    | applied => exact absurd (beginsIn_cons.mp h) (by decide)

/-! ### Names in front of longer texts -/

omit hclasses

/-- The name of the annotation can be cancelled from a text without losing its end. -/
def Cancels (classes : Set Class) (t : Annotation) : Prop :=
  ∀ {u : Annotation} {r s : List Char}, u.IsBuiltFrom classes → BeginsIn closers r →
    BeginsIn closers s → t.nameChars ++ r = u.nameChars ++ s → SameStructure t u ∧ r = s

theorem beginsIn_namesBehind_append (hc : c ∈ closers) :
    BeginsIn closers (namesBehind ts ++ c :: r) := by
  cases ts with
  | nil => exact beginsIn_cons.mpr hc
  | cons => exact beginsIn_cons.mpr List.mem_cons_self

theorem sameStructure_of_namesBehind_append_eq (hts : ∀ t ∈ ts, Cancels classes t)
    (hus : ∀ u ∈ us, u.IsBuiltFrom classes) (hc : c ∈ closers) (hcomma : c ≠ ',')
    (h : namesBehind ts ++ c :: r = namesBehind us ++ c :: s) :
    List.Forall₂ SameStructure ts us ∧ r = s := by
  induction ts generalizing us with
  | nil =>
    cases us with
    | nil => exact ⟨.nil, (List.cons.inj h).2⟩
    | cons u us => exact absurd (List.cons.inj h).1 hcomma
  | cons t ts ih =>
    cases us with
    | nil => exact absurd (List.cons.inj h).1.symm hcomma
    | cons u us =>
      rw [namesBehind, namesBehind, List.flatMap_cons, List.flatMap_cons, List.append_assoc,
        List.append_assoc] at h
      obtain ⟨htu, hrest⟩ := hts t List.mem_cons_self (hus u List.mem_cons_self)
        (beginsIn_namesBehind_append hc) (beginsIn_namesBehind_append hc)
        (List.append_cancel_left (show [',', ' '] ++ _ = [',', ' '] ++ _ from h))
      obtain ⟨hall, rfl⟩ := ih (fun t ht => hts t (List.mem_cons_of_mem _ ht))
        (fun u hu => hus u (List.mem_cons_of_mem _ hu)) hrest
      exact ⟨.cons htu hall, rfl⟩

include hclasses

theorem not_beginsIn_listedNames (ht : t.IsBuiltFrom classes) :
    ¬BeginsIn closers (listedNames (t :: ts) ++ r) := by
  rw [listedNames, List.append_assoc]
  exact not_beginsIn_nameChars hclasses ht

theorem sameStructure_of_listedNames_append_eq (hts : ∀ t ∈ ts, t.IsBuiltFrom classes)
    (hcancels : ∀ t ∈ ts, Cancels classes t) (hus : ∀ u ∈ us, u.IsBuiltFrom classes)
    (hc : c ∈ closers) (hcomma : c ≠ ',')
    (h : listedNames ts ++ c :: r = listedNames us ++ c :: s) :
    List.Forall₂ SameStructure ts us ∧ r = s := by
  cases ts with
  | nil =>
    cases us with
    | nil => exact ⟨.nil, (List.cons.inj h).2⟩
    | cons u us =>
      have hbegins : BeginsIn closers (listedNames (u :: us) ++ c :: s) :=
        h ▸ beginsIn_cons.mpr hc
      exact absurd hbegins (not_beginsIn_listedNames hclasses (hus u List.mem_cons_self))
  | cons t ts =>
    cases us with
    | nil =>
      have hbegins : BeginsIn closers (listedNames (t :: ts) ++ c :: r) :=
        h ▸ beginsIn_cons.mpr hc
      exact absurd hbegins (not_beginsIn_listedNames hclasses (hts t List.mem_cons_self))
    | cons u us =>
      rw [listedNames, listedNames, List.append_assoc, List.append_assoc] at h
      obtain ⟨htu, hrest⟩ := hcancels t List.mem_cons_self (hus u List.mem_cons_self)
        (beginsIn_namesBehind_append hc) (beginsIn_namesBehind_append hc) h
      obtain ⟨hall, rfl⟩ := sameStructure_of_namesBehind_append_eq
        (fun t ht => hcancels t (List.mem_cons_of_mem _ ht))
        (fun u hu => hus u (List.mem_cons_of_mem _ hu)) hc hcomma hrest
      exact ⟨.cons htu hall, rfl⟩

/-- Names of annotations that are no arrays can be cancelled, even where marks of arrays follow. -/
theorem Opens.sameStructure (ht : Opens classes t a b) (hu : Opens classes u a' b')
    (hparts : ∀ x ∈ t.parts, Cancels classes x) (hr : BeginsIn (' ' :: closers) r)
    (hs : BeginsIn (' ' :: closers) s) (h : t.nameChars ++ r = u.nameChars ++ s) :
    SameStructure t u ∧ r = s := by
  have hlist : ∀ {q : List Char}, ¬BeginsIn (' ' :: closers) ('[' :: q) := fun hq =>
    absurd (beginsIn_cons.mp hq) (by decide)
  have hargs : ∀ {q : List Char}, ¬BeginsIn (' ' :: closers) ('<' :: q) := fun hq =>
    absurd (beginsIn_cons.mp hq) (by decide)
  rw [ht.nameChars_eq, hu.nameChars_eq, List.append_assoc, List.append_assoc] at h
  obtain ⟨hrun, hrest⟩ := eq_of_append_eq (ht.all_isNameCharacter hclasses)
    (hu.all_isNameCharacter hclasses) (ht.isNameCharacter_head? hr)
    (hu.isNameCharacter_head? hs) h
  cases ht with
  | plain ht =>
    obtain rfl : r = _ := hrest
    cases hu with
    | plain hu => exact ⟨.plain (normal_eq_of_isPlain hclasses ht hu hrun), rfl⟩
    | params => exact absurd hr hlist
    | applied => exact absurd hr hargs
  | params hts =>
    cases hu with
    | plain =>
      obtain rfl : _ = s := hrest
      exact absurd hs hlist
    | params hus =>
      rw [List.cons_append, List.cons_append, List.append_assoc, List.append_assoc] at hrest
      obtain ⟨hall, hrest⟩ := sameStructure_of_listedNames_append_eq hclasses hts hparts hus
        (by decide) (by decide) (List.cons.inj hrest).2
      exact ⟨.params hall, hrest⟩
    | applied => exact absurd (List.cons.inj hrest).1 (by decide)
  | applied hname ht =>
    cases hu with
    | plain =>
      obtain rfl : _ = s := hrest
      exact absurd hs hargs
    | params => exact absurd (List.cons.inj hrest).1 (by decide)
    | applied hname' hu =>
      rw [List.cons_append, List.cons_append, List.append_assoc, List.append_assoc] at hrest
      obtain rfl := String.toList_inj.mp hrun
      obtain ⟨o, hto, huo⟩ := exists_origin? hclasses ht hu hname hname'
      rw [parts_eq_args hname] at hparts
      obtain ⟨hall, hrest⟩ := sameStructure_of_listedNames_append_eq hclasses
        (fun x hx => ht.of_mem_parts (parts_eq_args hname ▸ hx)) hparts
        (fun x hx => hu.of_mem_parts (parts_eq_args hname' ▸ hx)) (by decide) (by decide)
        (List.cons.inj hrest).2
      exact ⟨.applied hto huo hall, hrest⟩

/-- **The name of an annotation can be cancelled**, with any number of arrays around it. -/
theorem cancels_arraysOf {k : Nat} (ht : t.IsBuiltFrom classes) (hk : ArraysOf k t t')
    (hu : u.IsBuiltFrom classes) (hr : BeginsIn closers r) (hs : BeginsIn closers s)
    (h : t.nameChars ++ (arrayMarks k ++ r) = u.nameChars ++ s) : SameStructure t' u ∧ r = s := by
  induction t using partsInduction generalizing k t' u r s with
  | step t ih =>
    obtain ⟨x, harray, hx⟩ | ⟨a, b, hopens⟩ := ht.array_or_opens
    · have hpart : x ∈ t.parts := by
        obtain ⟨_, rfl⟩ := harray
        exact List.mem_cons_self
      rw [harray.nameChars_eq, List.append_assoc] at h
      exact ih x hpart hx (hk.inner harray) hu hr hs h
    · obtain ⟨m, y, a', b', hm, hopens'⟩ := hu.exists_arraysOf
      have hparts : ∀ x ∈ t.parts, Cancels classes x := fun x hx _ _ _ hu hr hs h =>
        ih x hx (ht.of_mem_parts hx) .zero hu hr hs h
      rw [hm.nameChars_eq, List.append_assoc] at h
      obtain ⟨hsame, hrest⟩ := hopens.sameStructure hclasses hopens' hparts
        (beginsIn_arrayMarks_append k hr) (beginsIn_arrayMarks_append m hs) h
      obtain ⟨rfl, rfl⟩ := eq_of_arrayMarks_append_eq hr hs hrest
      exact ⟨hk.sameStructure hm hsame, rfl⟩

theorem cancels (ht : t.IsBuiltFrom classes) : Cancels classes t :=
  fun hu hr hs h => cancels_arraysOf hclasses ht .zero hu hr hs h

end Identified

/-! ### Types of functions -/

/-- A handler whose parameters and result are annotated with what is written with given classes. -/
structure AnnotatesFrom (classes : Set Class) (handler : Descriptor) : Prop where
  parameters : ∀ p ∈ handler.parameters, p.annotation.IsBuiltFrom classes
  result : handler.result.IsBuiltFrom classes

theorem toList_functionType (handler : Descriptor) :
    handler.written.functionType.toList =
      '(' :: (listedNames (handler.parameters.map Parameter.annotation) ++
        ')' :: (" -> ".toList ++ handler.result.nameChars)) := by
  have hnames : handler.written.parameters.map Prod.snd =
      (handler.parameters.map Parameter.annotation).map fullName := by
    rw [Descriptor.written, List.map_map, List.map_map]
    rfl
  rw [WrittenSignature.functionType, hnames, String.toList_append, String.toList_append,
    String.toList_append, toList_intercalate_fullName, List.append_assoc, List.append_assoc]
  rfl

theorem isBuiltFrom_of_mem_annotations {handler : Descriptor} (h : AnnotatesFrom classes handler) :
    ∀ t ∈ handler.parameters.map Parameter.annotation, t.IsBuiltFrom classes :=
  List.forall_mem_map.mpr h.parameters

/-- **Full names tell annotations apart.** Where the full names tell the classes apart, annotations
with the same full name have the same structure. Handlers with the same type of function have the
same number of parameters, and their annotations, place by place, and their results have the same
structure. -/
theorem fullName_identifies (hclasses : IdentifiesClasses classes) :
    (∀ t u : Annotation, t.IsBuiltFrom classes → u.IsBuiltFrom classes →
      t.fullName = u.fullName → SameStructure t u) ∧
    ∀ handler handler' : Descriptor, AnnotatesFrom classes handler →
      AnnotatesFrom classes handler' →
      handler.written.functionType = handler'.written.functionType →
      List.Forall₂ (fun p q => SameStructure p.annotation q.annotation)
        handler.parameters handler'.parameters ∧
      SameStructure handler.result handler'.result := by
  have hnil : BeginsIn closers [] := fun _ hc => by cases hc
  have hname {t u : Annotation} (ht : t.IsBuiltFrom classes) (hu : u.IsBuiltFrom classes)
      (h : t.nameChars = u.nameChars) : SameStructure t u :=
    (cancels hclasses ht hu hnil hnil (congrArg (· ++ []) h)).1
  refine ⟨fun t u ht hu h => hname ht hu (congrArg String.toList h), ?_⟩
  intro handler handler' hbuilt hbuilt' h
  have hchars := congrArg String.toList h
  rw [toList_functionType, toList_functionType] at hchars
  obtain ⟨hall, hresult⟩ := sameStructure_of_listedNames_append_eq hclasses
    (isBuiltFrom_of_mem_annotations hbuilt)
    (fun t ht => cancels hclasses (isBuiltFrom_of_mem_annotations hbuilt t ht))
    (isBuiltFrom_of_mem_annotations hbuilt') (by decide) (by decide) (List.cons.inj hchars).2
  rw [List.forall₂_map_left_iff, List.forall₂_map_right_iff] at hall
  exact ⟨hall, hname hbuilt.result hbuilt'.result (List.append_cancel_left hresult)⟩

/-- Some classes that handlers are annotated with. -/
def commonClasses : List Class :=
  [.known .int, .known .str, .known .tuple, .known .dict, .known .callable, .known .noneType]

/-- A handler that takes an array and a callable, in the given spelling and with the given form of
the absent value. -/
def arrayHandler (spelling : Spelling) (none : Annotation) : Descriptor where
  scope := "shop"
  name := "apply"
  parameters :=
    [⟨"prices", .generic spelling (.known .tuple) [.cls (.known .int), .value .ellipsis]⟩,
      ⟨"store", .generic spelling (.known .callable) [.params [.cls (.known .int)], none]⟩]
  result := .generic spelling (.known .dict) [.cls (.known .str), none]
  shapeErrors := []

theorem identifiesClasses_commonClasses : IdentifiesClasses {c | c ∈ commonClasses} := by
  constructor <;> simp only [Set.mem_ofPred_eq] <;> decide +kernel

theorem annotatesFrom_arrayHandler (spelling : Spelling)
    (hnone : t.IsBuiltFrom {c | c ∈ commonClasses}) :
    AnnotatesFrom {c | c ∈ commonClasses} (arrayHandler spelling t) := by
  have hgeneric {c : Class} (hc : c ∈ commonClasses) {x y : Annotation}
      (hx : x.IsBuiltFrom {c | c ∈ commonClasses}) (hy : y.IsBuiltFrom {c | c ∈ commonClasses}) :
      (generic spelling c [x, y]).IsBuiltFrom {c | c ∈ commonClasses} :=
    .generic hc (List.cons_ne_nil _ _)
      (List.forall_mem_cons.mpr ⟨hx, List.forall_mem_singleton.mpr hy⟩)
  have hint : (cls (.known .int)).IsBuiltFrom {c | c ∈ commonClasses} := .cls (by decide)
  constructor
  · refine List.forall_mem_cons.mpr ⟨hgeneric (by decide) hint .ellipsis, ?_⟩
    refine List.forall_mem_singleton.mpr (hgeneric (by decide) (.params ?_) hnone)
    exact List.forall_mem_singleton.mpr hint
  · exact hgeneric (by decide) (.cls (by decide)) hnone

theorem fullName_identifies_arrayHandler :
    (arrayHandler .direct .absent).written.functionType =
        (arrayHandler .aliased noneType).written.functionType ∧
      SameStructure (arrayHandler .direct .absent).result
        (arrayHandler .aliased noneType).result := by
  have hdirect := annotatesFrom_arrayHandler .direct .absent
  have haliased := annotatesFrom_arrayHandler .aliased (t := noneType) (.cls (by decide))
  have htype : (arrayHandler .direct .absent).written.functionType =
      (arrayHandler .aliased noneType).written.functionType := by decide +kernel
  have hsame := (fullName_identifies identifiesClasses_commonClasses).2 _ _ hdirect haliased htype
  exact ⟨htype, hsame.2⟩

/-! ### Classes that share a full name -/

/-- Two classes for orders: one stands inside a class of the module `shop`, the other in the module
of that name within it. -/
def orderClasses : List Class :=
  [.declared (Class.declare 0 "Order" "shop" "orders.Order" [] false false),
    .declared (Class.declare 1 "Order" "shop.orders" "Order" [] false false)]

/-- **Classes that differ in module and in name can share a full name**, and then it does not tell
the annotations apart. -/
theorem fullName_ambiguous :
    (∀ c ∈ orderClasses, (c.module.toList ++ c.qualname.toList).all isNameCharacter = true) ∧
    (∀ c ∈ orderClasses, ∀ d ∈ orderClasses,
      c.module = d.module → c.qualname = d.qualname → c = d) ∧
    ∃ c ∈ orderClasses, ∃ d ∈ orderClasses, (cls c).fullName = (cls d).fullName ∧
      ¬SameStructure (.cls c) (.cls d) := by
  refine ⟨by decide +kernel, by decide +kernel, orderClasses[0], by decide, orderClasses[1],
    by decide, by decide +kernel, ?_⟩
  rintro (h | - | h)
  · exact absurd (cls.inj h) (by decide)
  · cases h

end Annotation

end HandlerBundle
