import HandlerBundle.Binding.Candidate
import HandlerBundle.Package.Pool
import HandlerBundle.Proofs.Package.Minting

/-!
# Candidates and their directories

The candidates of a batch that are packaged side by side have directories of their own at the top of
one tree. What is known of a task is about its own directory. So it goes on to hold when another
candidate gets a directory, or changes what is below its own one.

## Main definitions

* `owned` — the directories that candidates have.
* `IsStable` — what goes on to be known of a task while others take their steps.
* `HasPlaces` — tasks of candidates that have different directories, and nothing outside of them.

## Main results

* `HasPlaces.of_new` — one more candidate gets a directory.
* `HasPlaces.of_local` — a candidate changes what is below its own one.
-/

namespace HandlerBundle

open FileTree

variable {α : Type} {c : Candidate} {o : Option String} {d : String} {ds ds' : List String}
  {w w' : Workspace} {slots front back : List (Candidate × Option String)}
  {tasks tasks' : List (Task α)} {t t' : Task α}

/-! ### Directories -/

/-- The directories of candidates. -/
def owned (slots : List (Candidate × Option String)) : List String :=
  slots.filterMap Prod.snd

theorem owned_append_cons (front back : List (Candidate × Option String)) (c : Candidate)
    (o : Option String) :
    owned (front ++ (c, o) :: back) = owned front ++ (o.toList ++ owned back) := by
  rw [owned, List.filterMap_append, List.filterMap_cons]
  cases o <;> rfl

theorem mem_owned {slot : Candidate × Option String} (hslot : slot ∈ slots) (hd : d ∈ slot.2) :
    d ∈ owned slots :=
  List.mem_filterMap.mpr ⟨slot, hslot, hd⟩

/-- While a candidate has no directory, there are fewer of them than candidates. -/
theorem length_owned_lt (front back : List (Candidate × Option String)) (c : Candidate) :
    (owned (front ++ (c, none) :: back)).length < (front ++ (c, none) :: back).length := by
  have hfront : (owned front).length ≤ front.length := List.length_filterMap_le _ _
  have hback : (owned back).length ≤ back.length := List.length_filterMap_le _ _
  rw [owned_append_cons, List.length_append, List.length_append, List.length_append,
    Option.toList_none, List.length_nil, List.length_cons]
  omega

/-- A directory of one candidate is none of the others. -/
theorem ne_of_mem_owned (hnodup : (owned (front ++ (c, some d) :: back)).Nodup) {d' : String}
    (hd' : d' ∈ owned front ++ owned back) : d' ≠ d := by
  rw [owned_append_cons, Option.toList_some, List.singleton_append,
    List.perm_middle.nodup_iff, List.nodup_cons] at hnodup
  rintro rfl
  exact hnodup.1 hd'

/-- At the start no candidate has a directory. -/
theorem owned_start (cs : List Candidate) : owned (cs.map fun c => (c, none)) = [] := by
  rw [owned, List.filterMap_map]
  exact List.filterMap_eq_nil_iff.mpr fun _ _ => rfl

/-- The partner of an item stands where the item does. -/
theorem exists_of_forall₂_append_cons {α β : Type} {R : α → β → Prop} {xs : List α}
    {front back : List β} {y : β} (h : List.Forall₂ R xs (front ++ y :: back)) :
    ∃ front' x back', xs = front' ++ x :: back' ∧ List.Forall₂ R front' front ∧ R x y ∧
      List.Forall₂ R back' back := by
  have hfront := List.forall₂_take_append xs front (y :: back) h
  have hrest := List.forall₂_drop_append xs front (y :: back) h
  obtain ⟨x, back', hx, hback, hdrop⟩ := List.forall₂_cons_right_iff.mp hrest
  exact ⟨_, x, back', (hdrop ▸ List.take_append_drop front.length xs).symm, hfront, hx, hback⟩

/-! ### What is known of tasks -/

/-- What is known of the task of a candidate, in a workspace in which some directories at the top
have been made, one of which may be that of the candidate. -/
abbrev TaskProperty (α : Type) : Type :=
  Candidate → Workspace → List String → Option String → Task α → Prop

variable {P : TaskProperty α}

/-- What goes on to be known of a task as long as its directory is left as it is, in a workspace
that stays at its place. -/
def IsStable (P : TaskProperty α) : Prop :=
  ∀ {c w w' ds ds' o t}, P c w ds o t → w'.place = w.place → w.files.Minted ds →
    w'.files.Minted ds' → ds ⊆ ds' →
    (∀ d ∈ o, d ∈ ds ∧ w.files.SameBelow [d] w'.files [d]) → P c w' ds' o t

/-- The candidates have different directories, nothing is outside of these, and something is known
of the task of each. -/
structure HasPlaces (P : TaskProperty α) (slots : List (Candidate × Option String)) (w : Workspace)
    (tasks : List (Task α)) : Prop where
  minted : w.files.Minted (owned slots)
  nodup : (owned slots).Nodup
  known : List.Forall₂ (fun slot t => P slot.1 w (owned slots) slot.2 t) slots tasks

/-- What is done elsewhere leaves what is known of some tasks as it is. -/
theorem forall₂_mono (hstable : IsStable P)
    (h : List.Forall₂ (fun slot t => P slot.1 w ds slot.2 t) slots tasks)
    (hplace : w'.place = w.place) (hminted : w.files.Minted ds) (hminted' : w'.files.Minted ds')
    (hds : ds ⊆ ds')
    (hkept : ∀ d ∈ owned slots, d ∈ ds ∧ w.files.SameBelow [d] w'.files [d]) :
    List.Forall₂ (fun slot t => P slot.1 w' ds' slot.2 t) slots tasks := by
  induction h with
  | nil => exact .nil
  | @cons slot t slots tasks ht _ ih =>
    refine .cons (hstable ht hplace hminted hminted' hds fun d hd => ?_) (ih fun d hd => ?_)
    · exact hkept d (mem_owned List.mem_cons_self hd)
    · obtain ⟨slot', hslot', hd'⟩ := List.mem_filterMap.mp hd
      exact hkept d (mem_owned (List.mem_cons_of_mem _ hslot') hd')

namespace HasPlaces

/-- **One more candidate gets a directory.** -/
theorem of_new (hstable : IsStable P)
    (h : HasPlaces P (front ++ (c, none) :: back) w (tasks ++ t :: tasks'))
    (hfront : List.Forall₂ (fun slot t => P slot.1 w (owned (front ++ (c, none) :: back)) slot.2 t)
      front tasks)
    (hback : List.Forall₂ (fun slot t => P slot.1 w (owned (front ++ (c, none) :: back)) slot.2 t)
      back tasks')
    (hd : d ∉ owned (front ++ (c, none) :: back)) (hplace : w'.place = w.place)
    (hfiles : w'.files = w.files.withDirectory d)
    (ht : P c w' (d :: owned (front ++ (c, none) :: back)) (some d) t') :
    HasPlaces P (front ++ (c, some d) :: back) w' (tasks ++ t' :: tasks') := by
  have hperm : (owned (front ++ (c, some d) :: back)).Perm
      (d :: owned (front ++ (c, none) :: back)) := by
    rw [owned_append_cons, owned_append_cons]
    exact List.perm_middle
  have hminted : w'.files.Minted (owned (front ++ (c, some d) :: back)) := by
    rw [hfiles]
    exact (h.minted.withDirectory d).congr fun _ => hperm.mem_iff.symm
  have hnew : w'.files.Minted (d :: owned (front ++ (c, none) :: back)) :=
    hminted.congr fun _ => hperm.mem_iff
  have hsubset : owned (front ++ (c, none) :: back) ⊆ owned (front ++ (c, some d) :: back) :=
    fun _ hd' => hperm.mem_iff.mpr (List.mem_cons_of_mem _ hd')
  have hkept : ∀ d' ∈ owned front ++ owned back, d' ∈ owned (front ++ (c, none) :: back) ∧
      w.files.SameBelow [d'] w'.files [d'] := by
    intro d' hd'
    have hmem : d' ∈ owned (front ++ (c, none) :: back) := by rwa [owned_append_cons]
    rw [hfiles]
    exact ⟨hmem, Minted.sameBelow_of_ne fun heq => hd (heq ▸ hmem)⟩
  refine ⟨hminted, hperm.nodup_iff.mpr (h.nodup.cons hd), List.rel_append ?_ (.cons ?_ ?_)⟩
  · exact forall₂_mono hstable hfront hplace h.minted hminted hsubset fun d' hd' =>
      hkept d' (List.mem_append_left _ hd')
  · refine hstable ht rfl hnew hminted (fun _ => hperm.mem_iff.mpr) ?_
    rintro _ ⟨⟩
    exact ⟨List.mem_cons_self, .refl _ _⟩
  · exact forall₂_mono hstable hback hplace h.minted hminted hsubset fun d' hd' =>
      hkept d' (List.mem_append_right _ hd')

/-- **A candidate changes what is below its own directory**, and nothing else. -/
theorem of_local (hstable : IsStable P)
    (h : HasPlaces P (front ++ (c, o) :: back) w (tasks ++ t :: tasks'))
    (hfront : List.Forall₂ (fun slot t => P slot.1 w (owned (front ++ (c, o) :: back)) slot.2 t)
      front tasks)
    (hback : List.Forall₂ (fun slot t => P slot.1 w (owned (front ++ (c, o) :: back)) slot.2 t)
      back tasks')
    (hplace : w'.place = w.place)
    (hchange : w'.files = w.files ∨ ∃ d ∈ o, SameOutside [d] w.files w'.files)
    (ht : P c w' (owned (front ++ (c, o) :: back)) o t') :
    HasPlaces P (front ++ (c, o) :: back) w' (tasks ++ t' :: tasks') := by
  have hminted : w'.files.Minted (owned (front ++ (c, o) :: back)) := by
    rcases hchange with hfiles | ⟨d, hd, houtside⟩
    · rw [hfiles]
      exact h.minted
    · exact h.minted.of_sameOutside
        (mem_owned (List.mem_append_right _ List.mem_cons_self) hd) houtside
  have hkept : ∀ d' ∈ owned front ++ owned back, d' ∈ owned (front ++ (c, o) :: back) ∧
      w.files.SameBelow [d'] w'.files [d'] := by
    intro d' hd'
    refine ⟨?_, ?_⟩
    · rw [owned_append_cons]
      rcases List.mem_append.mp hd' with hd' | hd'
      · exact List.mem_append_left _ hd'
      · exact List.mem_append_right _ (List.mem_append_right _ hd')
    · rcases hchange with hfiles | ⟨d, rfl, houtside⟩
      · rw [hfiles]
        exact .refl _ _
      · refine .of_sameOutside houtside fun rel => ?_
        rw [singleton_prefix_append_iff]
        exact (ne_of_mem_owned h.nodup hd').symm
  refine ⟨hminted, h.nodup, List.rel_append ?_ (.cons ht ?_)⟩
  · exact forall₂_mono hstable hfront hplace h.minted hminted (List.Subset.refl _) fun d' hd' =>
      hkept d' (List.mem_append_left _ hd')
  · exact forall₂_mono hstable hback hplace h.minted hminted (List.Subset.refl _) fun d' hd' =>
      hkept d' (List.mem_append_right _ hd')

end HasPlaces

end HandlerBundle
