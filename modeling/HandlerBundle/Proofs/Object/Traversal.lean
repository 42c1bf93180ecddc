import HandlerBundle.Proofs.Object.Reachability
import HandlerBundle.Proofs.Search

/-!
# Walks in any order

A walk keeps the objects that are pending, those that it has seen and the modules that it has noted.
A step takes one of the pending objects, whichever it likes. It passes over the object if it has
seen it, and else it enters it: the object's homes are noted, and all that edges lead to is put to
the pending objects, in any order and as often as one likes. What a walk comes to does not depend on
these choices: it notes the homes of all that is reachable, or it fails because something reachable
fails when it is looked at. The walk of the program makes the choices so that the object that came
last is taken first.

## Main definitions

* `Heap.WalkState` — what a walk keeps.
* `Heap.WalkStep`, `Heap.WalkEnds`, `Heap.WalkYields` — walks that choose freely.
* `Heap.WalkState.Inv` — what holds throughout a walk.
* `Heap.IsOutcome`, `Heap.Agrees` — what a walk comes to, and outcomes that do not differ in more
  than the object that failed.
* `Heap.IsCopying` — objects and copies of them in another heap.

## Main results

* `Heap.wellFounded_walkStep`, `Heap.walkStep_or_walkEnds` — every walk ends.
* `Heap.WalkStep.inv` — a step keeps what holds throughout a walk.
* `Heap.WalkYields.isOutcome` — what a walk comes to.
* `Heap.walk_steps` — the walk of the program is one of them.
* `Heap.referencedModules_isReachable` — the modules that a value refers to.
-/

namespace HandlerBundle

namespace Heap

/-- The pending objects of a walk, those that it has seen, and the modules noted so far. -/
structure WalkState where
  pending : Multiset ObjectId
  seen : Finset ObjectId
  noted : Finset String

/-- A step of a walk: a pending object is passed over, or it is entered. -/
inductive WalkStep (h : Heap) (ex : Exclusion) : WalkState → WalkState → Prop
  | pass {id rest seen noted} (hpass : id ∈ seen ∨ h.object? id = none) :
      WalkStep h ex ⟨id ::ₘ rest, seen, noted⟩ ⟨rest, seen, noted⟩
  | enter {id o rest nexts seen noted noted'} (hfresh : id ∉ seen) (ho : h.object? id = some o)
      (hwhole : ∀ f, ¬ h.FailsWith id f) (hnexts : ∀ next, next ∈ nexts ↔ h.Edge ex id next)
      (hnoted : ∀ m, m ∈ noted' ↔ m ∈ noted ∨ IsHome ex o m) :
      WalkStep h ex ⟨id ::ₘ rest, seen, noted⟩ ⟨nexts + rest, insert id seen, noted'⟩

/-- The end of a walk: nothing is pending, or a pending object fails. -/
inductive WalkEnds (h : Heap) : WalkState → Except Failure (Finset String) → Prop
  | done {seen noted} : WalkEnds h ⟨0, seen, noted⟩ (.ok noted)
  | fault {id rest seen noted f} (hfresh : id ∉ seen) (hfails : h.FailsWith id f) :
      WalkEnds h ⟨id ::ₘ rest, seen, noted⟩ (.error f)

/-- A walk from a value may end with `out`. -/
def WalkYields (h : Heap) (ex : Exclusion) (value : ObjectId)
    (out : Except Failure (Finset String)) : Prop :=
  ∃ s, Relation.ReflTransGen (h.WalkStep ex) ⟨{value}, ∅, ∅⟩ s ∧ h.WalkEnds s out

/-- What a walk from a value comes to: the homes of all that is reachable, unless something
reachable fails. -/
inductive IsOutcome (h : Heap) (ex : Exclusion) (value : ObjectId) :
    Except Failure (Finset String) → Prop
  | ok {noted} (hwhole : ∀ id f, h.IsReachable ex value id → ¬ h.FailsWith id f)
      (hnoted : ∀ m, m ∈ noted ↔ ∃ id, h.IsReachable ex value id ∧ h.IsNotedUnder ex id m) :
      IsOutcome h ex value (.ok noted)
  | error {id f} (hid : h.IsReachable ex value id) (hfails : h.FailsWith id f) :
      IsOutcome h ex value (.error f)

/-- Outcomes with the same modules, or that both are failures. -/
inductive Agrees : Except Failure (Finset String) → Except Failure (Finset String) → Prop
  | ok {noted} : Agrees (.ok noted) (.ok noted)
  | error {f f'} : Agrees (.error f) (.error f')

variable {h : Heap} {ex : Exclusion} {value id : ObjectId}

/-- An object that a walk has nothing to do with any more. -/
def IsSettled (h : Heap) (seen : Finset ObjectId) (id : ObjectId) : Prop :=
  id ∈ seen ∨ h.object? id = none

theorem IsSettled.insert {seen : Finset ObjectId} (new : ObjectId) :
    h.IsSettled seen id → h.IsSettled (insert new seen) id :=
  Or.imp_left Finset.mem_insert_of_mem

/-! ### Termination -/

/-- How many objects are not seen yet. -/
def unseenCount (h : Heap) (seen : Finset ObjectId) : ℕ :=
  (Finset.range h.size \ seen).card

theorem unseenCount_insert_lt {seen : Finset ObjectId} {o : Object} (hfresh : id ∉ seen)
    (ho : h.object? id = some o) : h.unseenCount (insert id seen) < h.unseenCount seen :=
  card_sdiff_insert_lt (Finset.mem_range.mpr (lt_size_of_object?_eq_some ho)) hfresh

/-- Ever fewer objects are not seen yet, and until the next one is entered ever fewer are
pending. -/
theorem WalkStep.measures_lt {s t : WalkState} (hstep : h.WalkStep ex s t) :
    h.unseenCount t.seen < h.unseenCount s.seen ∨
      h.unseenCount t.seen = h.unseenCount s.seen ∧ t.pending.card < s.pending.card := by
  cases hstep with
  | pass => exact .inr ⟨rfl, by rw [Multiset.card_cons]; exact Nat.lt_succ_self _⟩
  | enter hfresh ho => exact .inl (unseenCount_insert_lt hfresh ho)

/-- **Every walk ends.** No walk goes on forever, whatever it chooses. -/
theorem wellFounded_walkStep (h : Heap) (ex : Exclusion) :
    WellFounded fun t s => h.WalkStep ex s t :=
  wellFounded_of_measures (fun s => h.unseenCount s.seen) (fun s => s.pending.card)
    fun _ _ hstep => hstep.measures_lt

/-- No walk gets stuck: as long as it has not ended there is a step that it can take. -/
theorem walkStep_or_walkEnds (h : Heap) (ex : Exclusion) (s : WalkState) :
    (∃ t, h.WalkStep ex s t) ∨ ∃ out, h.WalkEnds s out := by
  obtain ⟨pending, seen, noted⟩ := s
  induction pending using Multiset.induction_on with
  | empty => exact .inr ⟨_, .done⟩
  | cons id rest _ =>
    by_cases hseen : id ∈ seen
    · exact .inl ⟨_, .pass (.inl hseen)⟩
    · cases ho : h.object? id with
      | none => exact .inl ⟨_, .pass (.inr ho)⟩
      | some o =>
        by_cases hfails : ∃ f, h.FailsWith id f
        · obtain ⟨f, hfails⟩ := hfails
          exact .inr ⟨_, .fault hseen hfails⟩
        · refine .inl ⟨⟨(h.successors ex id o : Multiset ObjectId) + rest, insert id seen,
            noted ∪ (homes ex o).toFinset⟩, .enter hseen ho (not_exists.mp hfails) ?_ ?_⟩
          · exact fun next => by rw [Multiset.mem_coe, mem_successors_iff ho]
          · exact fun m => by rw [Finset.mem_union, List.mem_toFinset, mem_homes_iff]

/-! ### What holds throughout a walk -/

/-- What holds throughout a walk from a value: all it deals with is reachable, what the value and
the objects seen lead to is pending or settled, and the homes of the objects seen are noted. -/
structure WalkState.Inv (h : Heap) (ex : Exclusion) (value : ObjectId) (s : WalkState) : Prop where
  pending_reachable : ∀ id ∈ s.pending, h.IsReachable ex value id
  seen_reachable : ∀ id ∈ s.seen, h.IsReachable ex value id
  seen_whole : ∀ id ∈ s.seen, ∀ f, ¬ h.FailsWith id f
  value_kept : value ∈ s.pending ∨ h.IsSettled s.seen value
  edges_kept : ∀ id ∈ s.seen, ∀ next, h.Edge ex id next →
    next ∈ s.pending ∨ h.IsSettled s.seen next
  noted_iff : ∀ m, m ∈ s.noted ↔ ∃ id ∈ s.seen, h.IsNotedUnder ex id m

/-- At the start nothing but the value is pending. -/
theorem WalkState.inv_start (h : Heap) (ex : Exclusion) (value : ObjectId) :
    WalkState.Inv h ex value ⟨{value}, ∅, ∅⟩ where
  pending_reachable _ hid := Multiset.mem_singleton.mp hid ▸ .refl
  seen_reachable _ hid := absurd hid (Finset.notMem_empty _)
  seen_whole _ hid := absurd hid (Finset.notMem_empty _)
  value_kept := .inl (Multiset.mem_singleton_self value)
  edges_kept _ hid := absurd hid (Finset.notMem_empty _)
  noted_iff _ := by simp

/-- A step keeps what holds throughout a walk. -/
theorem WalkStep.inv {s t : WalkState} (hstep : h.WalkStep ex s t) (hinv : s.Inv h ex value) :
    t.Inv h ex value := by
  cases hstep with
  | pass hpass =>
    exact {
      pending_reachable := fun id hid => hinv.pending_reachable id (Multiset.mem_cons_of_mem hid)
      seen_reachable := hinv.seen_reachable
      seen_whole := hinv.seen_whole
      value_kept := pending_or_settled_of_pass hpass hinv.value_kept
      edges_kept := fun id hid next hedge =>
        pending_or_settled_of_pass hpass (hinv.edges_kept id hid next hedge)
      noted_iff := hinv.noted_iff }
  | @enter id o rest nexts seen noted noted' hfresh ho hwhole hnexts hnoted =>
    have hid := hinv.pending_reachable id (Multiset.mem_cons_self id rest)
    have hkept {next : ObjectId} : next ∈ id ::ₘ rest ∨ h.IsSettled seen next →
        next ∈ nexts + rest ∨ h.IsSettled (insert id seen) next :=
      pending_or_settled_of_take (fun _ h => h.insert id) (.inl (Finset.mem_insert_self id seen))
        nexts
    exact {
      pending_reachable := fun next hnext => by
        rcases Multiset.mem_add.mp hnext with hnext | hnext
        · exact hid.tail ((hnexts next).mp hnext)
        · exact hinv.pending_reachable next (Multiset.mem_cons_of_mem hnext)
      seen_reachable := Finset.forall_mem_insert _ _ _ |>.mpr ⟨hid, hinv.seen_reachable⟩
      seen_whole := Finset.forall_mem_insert _ _ _ |>.mpr ⟨hwhole, hinv.seen_whole⟩
      value_kept := hkept hinv.value_kept
      edges_kept := by
        refine Finset.forall_mem_insert _ _ _ |>.mpr
          ⟨fun next hedge => ?_, fun i hi next hedge => ?_⟩
        · exact .inl (Multiset.mem_add.mpr (.inl ((hnexts next).mpr hedge)))
        · exact hkept (hinv.edges_kept i hi next hedge)
      noted_iff := fun m => by
        have hhere : h.IsNotedUnder ex id m ↔ IsHome ex o m := by
          rw [IsNotedUnder, ho]
          simp
        rw [hnoted, hinv.noted_iff, Finset.exists_mem_insert, hhere, or_comm] }

/-- Whatever it chooses, a walk keeps what holds at its start. -/
theorem inv_of_walk_steps {s t : WalkState} (hrun : Relation.ReflTransGen (h.WalkStep ex) s t)
    (hinv : s.Inv h ex value) : t.Inv h ex value := by
  induction hrun with
  | refl => exact hinv
  | tail _ hstep ih => exact hstep.inv ih

/-! ### The end of a walk -/

section Inv

variable {seen : Finset ObjectId} {noted : Finset String}

/-- When nothing is pending, all that is reachable is settled. -/
theorem WalkState.Inv.isSettled (hinv : WalkState.Inv h ex value ⟨0, seen, noted⟩)
    (hid : h.IsReachable ex value id) : h.IsSettled seen id := by
  induction hid with
  | refl => exact hinv.value_kept.resolve_left (Multiset.notMem_zero _)
  | tail _ hedge ih =>
    obtain ⟨o, ho, -⟩ := hedge.exists_mem_successors
    have hseen := ih.resolve_right (by rw [ho]; exact Option.some_ne_none o)
    exact (hinv.edges_kept _ hseen _ hedge).resolve_left (Multiset.notMem_zero _)

/-- When nothing is pending, an object that is reachable has been seen. -/
theorem WalkState.Inv.mem_seen (hinv : WalkState.Inv h ex value ⟨0, seen, noted⟩) {o : Object}
    (hid : h.IsReachable ex value id) (ho : h.object? id = some o) : id ∈ seen :=
  (hinv.isSettled hid).resolve_right (by rw [ho]; exact Option.some_ne_none o)

/-- When nothing is pending, all that is reachable is noted. -/
theorem WalkState.Inv.isOutcome (hinv : WalkState.Inv h ex value ⟨0, seen, noted⟩) :
    h.IsOutcome ex value (.ok noted) := by
  refine .ok (fun id f hid hfails => ?_) (fun m => ?_)
  · have ⟨_, ho, _⟩ := hfails
    exact hinv.seen_whole id (hinv.mem_seen hid ho) f hfails
  · rw [hinv.noted_iff]
    constructor
    · rintro ⟨id, hseen, hm⟩
      exact ⟨id, hinv.seen_reachable id hseen, hm⟩
    · rintro ⟨id, hid, o, ho, hm⟩
      exact ⟨id, hinv.mem_seen hid ho, o, ho, hm⟩

end Inv

/-- **What a walk comes to.** It notes the homes of all that is reachable, or it fails with what
something reachable fails with. -/
theorem WalkYields.isOutcome {out : Except Failure (Finset String)} :
    h.WalkYields ex value out → h.IsOutcome ex value out
  | ⟨_, hrun, hend⟩ => by
      have hinv := inv_of_walk_steps hrun (WalkState.inv_start h ex value)
      cases hend with
      | done => exact hinv.isOutcome
      | fault hfresh hfails =>
        exact .error (hinv.pending_reachable _ (Multiset.mem_cons_self _ _)) hfails

/-- Two outcomes of walks from one value agree. -/
theorem IsOutcome.agrees {out out' : Except Failure (Finset String)}
    (hout : h.IsOutcome ex value out) (hout' : h.IsOutcome ex value out') : Agrees out out' := by
  cases hout with
  | ok hwhole hnoted =>
    cases hout' with
    | ok hwhole' hnoted' =>
      obtain rfl := Finset.ext fun m => (hnoted m).trans (hnoted' m).symm
      exact .ok
    | error hid hfails => exact absurd hfails (hwhole _ _ hid)
  | error hid hfails =>
    cases hout' with
    | ok hwhole' hnoted' => exact absurd hfails (hwhole' _ _ hid)
    | error hid' hfails' => exact .error

/-! ### The walk of the program -/

/-- A name is noted afterwards if it was before, or is one of those that are put to the others. -/
theorem mem_append_filter_iff {m : String} {noted names : List String} :
    m ∈ noted ++ names.eraseDups.filter (fun m => !noted.contains m) ↔ m ∈ noted ∨ m ∈ names := by
  rw [List.mem_append, List.mem_filter, List.mem_eraseDups, Bool.not_eq_true', ← Bool.not_eq_true,
    List.contains_iff_mem]
  by_cases hm : m ∈ noted
  · simp only [hm, true_or]
  · simp only [hm, not_false_eq_true, and_true]

/-- **The walk of the program takes steps.** It takes the objects from the top of its stack, as long
as it keeps those objects that are not seen yet. -/
theorem walk_steps (unseen stack : List ObjectId) (noted : List String) (seen : Finset ObjectId)
    (hunseen : ∀ id o, h.object? id = some o → (id ∈ unseen ↔ id ∉ seen))
    (hnodup : unseen.Nodup) :
    ∃ t, Relation.ReflTransGen (h.WalkStep ex) ⟨stack, seen, noted.toFinset⟩ t ∧
      h.WalkEnds t ((h.walk ex unseen stack noted).map List.toFinset) := by
  fun_induction walk h ex unseen stack noted generalizing seen with
  | case1 unseen noted => exact ⟨_, .refl, .done⟩
  | case2 unseen noted id rest hmem hnone ih =>
    rw [← Multiset.cons_coe]
    have hrest : ∀ i o, h.object? i = some o → (i ∈ unseen.erase id ↔ i ∉ seen) := by
      intro i o ho
      have hne : i ≠ id := by
        rintro rfl
        cases hnone.symm.trans ho
      rw [List.mem_erase_of_ne hne, hunseen i o ho]
    obtain ⟨t, hrun, hend⟩ := ih seen hrest (hnodup.erase id)
    exact ⟨t, .head (.pass (.inr hnone)) hrun, hend⟩
  | case3 unseen noted id rest hmem o ho f hfault =>
    rw [← Multiset.cons_coe]
    exact ⟨_, .refl, .fault ((hunseen id o ho).mp hmem) ⟨o, ho, hfault⟩⟩
  | case4 unseen noted id rest hmem o ho hwhole ih =>
    rw [← Multiset.cons_coe]
    have hrest : ∀ i o, h.object? i = some o → (i ∈ unseen.erase id ↔ i ∉ insert id seen) := by
      intro i o ho
      rw [hnodup.mem_erase_iff, hunseen i o ho, Finset.mem_insert, not_or]
    obtain ⟨t, hrun, hend⟩ := ih (insert id seen) hrest (hnodup.erase id)
    refine ⟨t, .head ?_ hrun, hend⟩
    rw [← Multiset.coe_add, Multiset.coe_reverse]
    refine .enter ((hunseen id o ho).mp hmem) ho (fun f hfails => ?_) (fun next => ?_) fun m => ?_
    · obtain ⟨o', ho', hfault⟩ := hfails
      obtain rfl := Option.some.inj (ho.symm.trans ho')
      cases hwhole.symm.trans hfault
    · rw [Multiset.mem_coe, mem_successors_iff ho]
    · rw [List.mem_toFinset, mem_append_filter_iff, List.mem_toFinset, mem_homes_iff]
  | case5 unseen noted id rest hmem ih =>
    rw [← Multiset.cons_coe]
    obtain ⟨t, hrun, hend⟩ := ih seen hunseen hnodup
    refine ⟨t, .head (.pass ?_) hrun, hend⟩
    cases ho : h.object? id with
    | none => exact .inr rfl
    | some o => exact .inl (not_not.mp fun hseen => hmem ((hunseen id o ho).mpr hseen))

/-- The walk of the program from a value is one of its walks. -/
theorem walkYields_referencedModules (h : Heap) (ex : Exclusion) (value : ObjectId) :
    h.WalkYields ex value ((h.referencedModules ex value).map List.toFinset) :=
  walk_steps (List.range h.size) [value] [] ∅
    (fun id o ho => by simpa using lt_size_of_object?_eq_some ho) List.nodup_range

/-- What the walk of the program comes to. -/
theorem isOutcome_referencedModules (h : Heap) (ex : Exclusion) (value : ObjectId) :
    h.IsOutcome ex value ((h.referencedModules ex value).map List.toFinset) :=
  (walkYields_referencedModules h ex value).isOutcome

/-- A walk from a value that fails when it is looked at goes no further. -/
theorem referencedModules_eq_error {f : Failure} :
    h.FailsWith value f → h.referencedModules ex value = .error f
  | ⟨o, ho, hfault⟩ => by
    rw [referencedModules, walk,
      if_pos (List.mem_range.mpr (lt_size_of_object?_eq_some ho))]
    simp only [ho, hfault]

/-! ### Copies of objects -/

/-- Objects of a heap and copies of them in another one: they are at home in the same modules, and
what the one leads to has a copy that the other one leads to. An object may have many copies, and
many objects may have one. -/
structure IsCopying (h h' : Heap) (ex : Exclusion) (R : ObjectId → ObjectId → Prop) : Prop where
  noted_iff : ∀ {id id'}, R id id' → ∀ m, h.IsNotedUnder ex id m ↔ h'.IsNotedUnder ex id' m
  fails_iff : ∀ {id id'}, R id id' → ∀ f, h.FailsWith id f ↔ h'.FailsWith id' f
  copied : ∀ {id id' next}, R id id' → h.Edge ex id next → ∃ next', h'.Edge ex id' next' ∧
    R next next'
  copy : ∀ {id id' next'}, R id id' → h'.Edge ex id' next' → ∃ next, h.Edge ex id next ∧
    R next next'

section IsCopying

variable {h' : Heap} {R : ObjectId → ObjectId → Prop} {value' : ObjectId}

/-- Copies in the other direction. -/
theorem IsCopying.symm (hcopy : IsCopying h h' ex R) : IsCopying h' h ex (flip R) where
  noted_iff hid m := (hcopy.noted_iff hid m).symm
  fails_iff hid f := (hcopy.fails_iff hid f).symm
  copied hid hedge := hcopy.copy hid hedge
  copy hid hedge := hcopy.copied hid hedge

/-- What is reachable from an object has a copy that is reachable from the copy of the object. -/
theorem IsCopying.exists_isReachable (hcopy : IsCopying h h' ex R) (hvalue : R value value')
    (hid : h.IsReachable ex value id) : ∃ id', h'.IsReachable ex value' id' ∧ R id id' := by
  induction hid with
  | refl => exact ⟨value', .refl, hvalue⟩
  | tail _ hedge ih =>
    obtain ⟨id', hid', hcopied⟩ := ih
    obtain ⟨next', hedge', hnext⟩ := hcopy.copied hcopied hedge
    exact ⟨next', hid'.tail hedge', hnext⟩

/-- A walk from a copy comes to the same. -/
theorem IsCopying.isOutcome (hcopy : IsCopying h h' ex R) (hvalue : R value value')
    {out : Except Failure (Finset String)} (hout : h.IsOutcome ex value out) :
    h'.IsOutcome ex value' out := by
  cases hout with
  | ok hwhole hnoted =>
    refine .ok (fun id' f hid' hfails => ?_) fun m => (hnoted m).trans ⟨?_, ?_⟩
    · obtain ⟨id, hid, hcopied⟩ := hcopy.symm.exists_isReachable hvalue hid'
      exact hwhole id f hid ((hcopy.fails_iff hcopied f).mpr hfails)
    · rintro ⟨id, hid, hm⟩
      obtain ⟨id', hid', hcopied⟩ := hcopy.exists_isReachable hvalue hid
      exact ⟨id', hid', (hcopy.noted_iff hcopied m).mp hm⟩
    · rintro ⟨id', hid', hm⟩
      obtain ⟨id, hid, hcopied⟩ := hcopy.symm.exists_isReachable hvalue hid'
      exact ⟨id, hid, (hcopy.noted_iff hcopied m).mpr hm⟩
  | error hid hfails =>
    obtain ⟨id', hid', hcopied⟩ := hcopy.exists_isReachable hvalue hid
    exact .error hid' ((hcopy.fails_iff hcopied _).mp hfails)

end IsCopying

/-! ### The modules that a value refers to -/

/-- **The modules that a value refers to.** If nothing reachable fails when it is looked at, they
are the homes of all that is reachable; and else the walk fails because of something reachable.
Whatever else a walk may choose, it ends, and with the same modules, and so does a walk from a copy
of the value in which objects are shared in another way. -/
theorem referencedModules_isReachable (h : Heap) (ex : Exclusion) (value : ObjectId) :
    ((∀ id f, h.IsReachable ex value id → ¬ h.FailsWith id f) →
      ∃ noted, h.referencedModules ex value = .ok noted ∧
        ∀ m, m ∈ noted ↔ ∃ id, h.IsReachable ex value id ∧ h.IsNotedUnder ex id m) ∧
    (∀ id f, h.IsReachable ex value id → h.FailsWith id f →
      ∃ id' f', h.IsReachable ex value id' ∧ h.FailsWith id' f' ∧
        h.referencedModules ex value = .error f') ∧
    (WellFounded fun t s => h.WalkStep ex s t) ∧
    (∀ s, (∃ t, h.WalkStep ex s t) ∨ ∃ out, h.WalkEnds s out) ∧
    h.WalkYields ex value ((h.referencedModules ex value).map List.toFinset) ∧
    (∀ out, h.WalkYields ex value out →
      Agrees out ((h.referencedModules ex value).map List.toFinset)) ∧
    ∀ h' R value', IsCopying h h' ex R → R value value' →
      Agrees ((h.referencedModules ex value).map List.toFinset)
        ((h'.referencedModules ex value').map List.toFinset) := by
  have hout := isOutcome_referencedModules h ex value
  refine ⟨fun hwhole => ?_, fun id f hid hfails => ?_, wellFounded_walkStep h ex,
    walkStep_or_walkEnds h ex, walkYields_referencedModules h ex value,
    fun out hyields => hyields.isOutcome.agrees hout,
    fun h' R value' hcopy hvalue =>
      (hcopy.isOutcome hvalue hout).agrees (isOutcome_referencedModules h' ex value')⟩
  · cases hresult : h.referencedModules ex value with
    | ok noted =>
      rw [hresult] at hout
      cases hout with
      | ok _ hnoted => exact ⟨noted, rfl, fun m => List.mem_toFinset.symm.trans (hnoted m)⟩
    | error f =>
      rw [hresult] at hout
      cases hout with
      | error hid hfails => exact absurd hfails (hwhole _ _ hid)
  · cases hresult : h.referencedModules ex value with
    | ok noted =>
      rw [hresult] at hout
      cases hout with
      | ok hwhole _ => exact absurd hfails (hwhole id f hid)
    | error f =>
      rw [hresult] at hout
      cases hout with
      | error hid hfails => exact ⟨_, _, hid, hfails, rfl⟩

/-- A list that holds a module twice and itself. -/
def sharedHeap : Heap := ⟨#[.list [1, 1, 0], .module "shop.orders"]⟩

/-- A list that holds two copies of a module, and itself. -/
def unsharedHeap : Heap := ⟨#[.list [1, 2, 0], .module "shop.orders", .module "shop.orders"]⟩

/-- The two copies of the module. -/
theorem isCopying_sharedHeap : IsCopying sharedHeap unsharedHeap ex
    fun id id' => id = 0 ∧ id' = 0 ∨ id = 1 ∧ (id' = 1 ∨ id' = 2) := by
  have hlist : ∀ next, sharedHeap.Edge ex 0 next ↔ next ∈ [1, 1, 0] :=
    fun next => (mem_successors_iff (o := .list [1, 1, 0]) rfl).symm
  have hlist' : ∀ next, unsharedHeap.Edge ex 0 next ↔ next ∈ [1, 2, 0] :=
    fun next => (mem_successors_iff (o := .list [1, 2, 0]) rfl).symm
  have hleaf : ∀ next, ¬ sharedHeap.Edge ex 1 next := fun next hedge =>
    absurd ((mem_successors_iff (o := .module "shop.orders") rfl).mpr hedge) List.not_mem_nil
  have hleaf' : ∀ id', id' = 1 ∨ id' = 2 → ∀ next, ¬ unsharedHeap.Edge ex id' next := by
    rintro _ (rfl | rfl) next hedge <;>
      exact absurd ((mem_successors_iff (o := .module "shop.orders") rfl).mpr hedge)
        List.not_mem_nil
  refine ⟨?_, ?_, ?_, ?_⟩
  · rintro _ _ (⟨rfl, rfl⟩ | ⟨rfl, rfl | rfl⟩) m
    · constructor <;> rintro ⟨_, ho, hm⟩ <;> cases ho <;> cases hm
    · exact Iff.rfl
    · exact Iff.rfl
  · rintro _ _ (⟨rfl, rfl⟩ | ⟨rfl, rfl | rfl⟩) f <;> constructor <;> rintro ⟨_, ho, hfault⟩ <;>
      cases ho <;> cases hfault
  · rintro _ id' next (⟨rfl, rfl⟩ | ⟨rfl, -⟩) hedge
    · have hnext : next = 1 ∨ next = 0 := by simpa using (hlist next).mp hedge
      rcases hnext with rfl | rfl
      · exact ⟨1, (hlist' 1).mpr (by simp), by simp⟩
      · exact ⟨0, (hlist' 0).mpr (by simp), by simp⟩
    · exact absurd hedge (hleaf next)
  · rintro _ id' next' (⟨rfl, rfl⟩ | ⟨rfl, hid'⟩) hedge
    · have hnext : next' = 1 ∨ next' = 2 ∨ next' = 0 := by simpa using (hlist' next').mp hedge
      rcases hnext with rfl | rfl | rfl
      · exact ⟨1, (hlist 1).mpr (by simp), by simp⟩
      · exact ⟨1, (hlist 1).mpr (by simp), by simp⟩
      · exact ⟨0, (hlist 0).mpr (by simp), by simp⟩
    · exact absurd hedge (hleaf' id' hid' next')

/-- The module is noted, however often the list holds it. -/
theorem referencedModules_isReachable_sharedHeap :
    (∀ id f, sharedHeap.IsReachable .standard 0 id → ¬ sharedHeap.FailsWith id f) ∧
    (∃ noted, sharedHeap.referencedModules .standard 0 = .ok noted ∧ "shop.orders" ∈ noted) ∧
    Agrees ((sharedHeap.referencedModules .standard 0).map List.toFinset)
      ((unsharedHeap.referencedModules .standard 0).map List.toFinset) := by
  have hwhole : ∀ id f, sharedHeap.IsReachable .standard 0 id → ¬ sharedHeap.FailsWith id f := by
    rintro id f - ⟨o, ho, hfault⟩
    have hmem := Array.mem_of_getElem? ho
    rcases (by simpa [sharedHeap] using hmem : o = .list [1, 1, 0] ∨ o = .module "shop.orders") with
      rfl | rfl <;> cases hfault
  obtain ⟨hnoted, -, -, -, -, -, hcopy⟩ := referencedModules_isReachable sharedHeap .standard 0
  obtain ⟨noted, hresult, hmem⟩ := hnoted hwhole
  refine ⟨hwhole, ⟨noted, hresult, (hmem _).mpr ⟨1, ?_, _, rfl, .module (by decide)⟩⟩,
    hcopy unsharedHeap _ 0 isCopying_sharedHeap (.inl ⟨rfl, rfl⟩)⟩
  exact .single (.item (.inl rfl) (show 1 ∈ [1, 1, 0] by decide))

end Heap

/-- An instance whose attributes cannot be looked at. -/
def unwalkableHeap : Heap where
  objects := #[
    .instance_ { cls := 1, fault := some ⟨.foreign "ValueError", "boom"⟩ },
    .cls
      { name := "Order", module := "shop.orders", qualname := "Order", bases := [], members := []
        slots := none }]

/-- The walk fails at the instance. -/
theorem Heap.referencedModules_unwalkableHeap :
    unwalkableHeap.referencedModules .standard 0 = .error ⟨.foreign "ValueError", "boom"⟩ :=
  Heap.referencedModules_eq_error ⟨_, rfl, by decide +kernel⟩

/-- Not every walk comes to the homes of what is reachable, because some objects cannot be looked
at. -/
theorem Heap.referencedModules_unwalkable_value :
    ¬ ∀ (h : Heap) (ex : Exclusion) (value : ObjectId), ∃ noted,
      h.referencedModules ex value = .ok noted ∧
        ∀ m, m ∈ noted ↔ ∃ id, h.IsReachable ex value id ∧ h.IsNotedUnder ex id m := by
  intro hall
  obtain ⟨noted, hnoted, -⟩ := hall unwalkableHeap .standard 0
  cases referencedModules_unwalkableHeap.symm.trans hnoted

end HandlerBundle
