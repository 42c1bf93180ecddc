import HandlerBundle.Proofs.Package.Minting

/-!
# Directories of a build

The handlers of a build are given their directories one after the other, and each directory is
filled below before or while others are made. Whatever has happened before, the next handler gets
the first of its names that no handler has been given. An identifier has no dot, so that only a
handler of the same name can have been given it as a directory; and a hundred names are enough for
a hundred handlers.

## Main definitions

* `Allocations` — the calls that have given directories to handlers, and what they have left.
* `allocated` — the directories that have been given.

## Main results

* `Allocations.exists_inv` — what holds after every sequence of calls.
* `next_directory_first_free` — what the next call comes to.
-/

namespace HandlerBundle

open FileTree

/-- A handler whose name is an identifier and whose scope can be a part of a path. -/
structure Descriptor.IsPlaceable (handler : Descriptor) : Prop where
  name : isIdentifier handler.name = true
  scope : IsPathPart handler.scope

/-- The directories that some calls have given, in the order of the calls. -/
def allocated (past : List (Descriptor × Except Failure TreePath)) : List TreePath :=
  past.filterMap fun call => call.2.toOption

/-- The calls that have given directories to handlers, from an empty directory on, with what they
came to, and the workspace after them. Between two calls, what is below a directory that has been
given may change in any way. -/
inductive Allocations : List (Descriptor × Except Failure TreePath) → Workspace → Prop
  | start {w} (hempty : w.files = .empty) : Allocations [] w
  | mint {past w handler result v} (hpast : Allocations past w)
      (hrun : (mintDirectory handler).run.run w = (result, v)) :
      Allocations (past ++ [(handler, result)]) v
  | fill {past w d v} (hpast : Allocations past w) (hd : d ∈ allocated past)
      (hchange : SameOutside d w.files v.files) : Allocations past v

variable {past : List (Descriptor × Except Failure TreePath)} {handler : Descriptor}
  {ds : List String} {w v : Workspace}

/-! ### What holds after every sequence of calls -/

/-- The directories `ds` have been given, all are different and at the top, each is named as one of
the handlers may be, and there is nothing else at the top. -/
structure Allocations.Inv (past : List (Descriptor × Except Failure TreePath)) (w : Workspace)
    (ds : List String) : Prop where
  allocated_eq : allocated past = ds.map fun d => [d]
  nodup : ds.Nodup
  minted : w.files.Minted ds
  tried : ∀ d ∈ ds, ∃ call ∈ past, d ∈ directoryNames call.1

theorem allocated_append_ok (past : List (Descriptor × Except Failure TreePath))
    (handler : Descriptor) (d : TreePath) :
    allocated (past ++ [(handler, .ok d)]) = allocated past ++ [d] :=
  List.filterMap_append

theorem allocated_append_error (past : List (Descriptor × Except Failure TreePath))
    (handler : Descriptor) (f : Failure) :
    allocated (past ++ [(handler, .error f)]) = allocated past := by
  rw [allocated, List.filterMap_append]
  exact List.append_nil _

/-- Each of the names that are tried for the handler can be that of an entry. -/
theorem Descriptor.IsPlaceable.isEntryName (hhandler : handler.IsPlaceable) :
    ∀ name ∈ directoryNames handler, IsEntryName name :=
  isEntryName_of_mem_directoryNames (.of_isIdentifier hhandler.name) hhandler.scope

namespace Allocations

/-- One more call adds its directory to those that have been given. -/
theorem Inv.mint (h : Inv past w ds) (hhandler : handler.IsPlaceable)
    {result : Except Failure TreePath} (hrun : (mintDirectory handler).run.run w = (result, v)) :
    ∃ ds', Inv (past ++ [(handler, result)]) v ds' := by
  have hmono : ∀ d ∈ ds, ∃ call ∈ past ++ [(handler, result)], d ∈ directoryNames call.1 := by
    intro d hd
    obtain ⟨call, hcall, htried⟩ := h.tried d hd
    exact ⟨call, List.mem_append_left _ hcall, htried⟩
  rcases mintDirectory_run_cases h.minted hhandler.isEntryName with
    ⟨front, d, back, hnames, -, hnew, hmade⟩ | ⟨-, hfailed⟩
  · obtain ⟨rfl, rfl⟩ := Prod.mk.inj (hmade.symm.trans hrun)
    refine ⟨ds ++ [d], ?_, ?_, ?_, ?_⟩
    · rw [allocated_append_ok, h.allocated_eq, List.map_append, List.map_singleton]
    · exact List.nodup_append_comm.mp (List.nodup_cons.mpr ⟨hnew, h.nodup⟩)
    · refine (h.minted.withDirectory d).congr fun d' => ?_
      rw [List.mem_cons, List.mem_append, List.mem_singleton, or_comm]
    · rw [List.forall_mem_append, List.forall_mem_singleton]
      exact ⟨hmono, _, List.mem_append_right _ (List.mem_singleton_self _),
        hnames ▸ List.mem_append_right _ List.mem_cons_self⟩
  · obtain ⟨rfl, rfl⟩ := Prod.mk.inj (hfailed.symm.trans hrun)
    refine ⟨ds, ?_, h.nodup, h.minted, hmono⟩
    rw [allocated_append_error, h.allocated_eq]

/-- **After every sequence of calls** all directories are different and at the top, and there is
nothing else at the top. -/
theorem exists_inv (h : Allocations past w) (hpast : ∀ call ∈ past, call.1.IsPlaceable) :
    ∃ ds, Inv past w ds := by
  induction h with
  | start hempty => exact ⟨[], rfl, List.nodup_nil, hempty ▸ minted_empty, List.forall_mem_nil _⟩
  | mint _ hrun ih =>
    rw [List.forall_mem_append, List.forall_mem_singleton] at hpast
    obtain ⟨ds, hinv⟩ := ih hpast.1
    exact hinv.mint hpast.2 hrun
  | fill _ hd hchange ih =>
    obtain ⟨ds, hinv⟩ := ih hpast
    rw [hinv.allocated_eq] at hd
    obtain ⟨d, hmem, rfl⟩ := List.mem_map.mp hd
    exact ⟨ds, hinv.allocated_eq, hinv.nodup, hinv.minted.of_sameOutside hmem hchange, hinv.tried⟩

namespace Inv

theorem length_le (h : Inv past w ds) : ds.length ≤ past.length := by
  have hle := List.length_filterMap_le (fun call => call.2.toOption) past
  have hlength := congrArg List.length h.allocated_eq
  rw [List.length_map] at hlength
  exact hlength ▸ hle

/-- A name has been given if and only if there is an entry of that name. -/
theorem mem_iff_has (h : Inv past w ds) {name : String} :
    name ∈ ds ↔ w.files.has [name] = true :=
  h.minted.has_singleton_iff.symm

theorem singleton_mem_allocated_iff (h : Inv past w ds) {name : String} :
    [name] ∈ allocated past ↔ name ∈ ds := by
  rw [h.allocated_eq, List.mem_map]
  constructor
  · rintro ⟨d, hd, heq⟩
    exact (List.cons.inj heq).1 ▸ hd
  · exact fun hname => ⟨name, hname, rfl⟩

/-- Only a handler of the same name can have been given an identifier. -/
theorem name_notMem (h : Inv past w ds) (hhandler : handler.IsPlaceable)
    (hfirst : ∀ call ∈ past, call.1.name ≠ handler.name) : handler.name ∉ ds := by
  intro hmem
  obtain ⟨call, hcall, htried⟩ := h.tried _ hmem
  exact hfirst call hcall (eq_name_of_mem_directoryNames htried hhandler.name).symm

end Inv

end Allocations

/-! ### The next call -/

/-- **The next directory is the first that is free.** Take any sequence of calls that have given
directories to handlers in a build whose directory was empty. All directories that have been given
are different, directly under that of the build, and there.

The next handler either gets a directory that was not there, under the first of its names that has
no entry: its name, its name with the scope, and that with the numbers from 2 to 99; or there is an
entry for each of the hundred names, and the handler fails and nothing is made. So no handler fails
within the first hundred calls, and a handler whose name none of the handlers before has gets its
name. -/
theorem next_directory_first_free (hcalls : Allocations past w)
    (hpast : ∀ call ∈ past, call.1.IsPlaceable) (hhandler : handler.IsPlaceable) :
    let qualified := handler.scope ++ "." ++ handler.name
    let names := handler.name :: qualified ::
      (List.range' 2 98).map fun i => qualified ++ "-" ++ toString i
    let call := (mintDirectory handler).run.run w
    (allocated past).Nodup ∧
    (∀ d ∈ allocated past, d.length = 1 ∧ d ∈ w.files.directories) ∧
    (∀ d, call.1 = .ok d →
      ∃ front name back, names = front ++ name :: back ∧ d = [name] ∧
        (∀ taken ∈ front, w.files.has [taken] = true) ∧ w.files.has d = false ∧
        d ∉ allocated past ∧ call.2 = { w with files := w.files.withDirectory name }) ∧
    (∀ f, call.1 = .error f →
      f = ⟨.packaging, "could not allocate an output directory for " ++ qualified⟩ ∧
        call.2 = w ∧ ∀ name ∈ names, w.files.has [name] = true) ∧
    (past.length < 100 → ∃ d, call.1 = .ok d) ∧
    ((∀ earlier ∈ past, earlier.1.name ≠ handler.name) → call.1 = .ok [handler.name]) := by
  intro qualified names call
  obtain ⟨ds, hinv⟩ := hcalls.exists_inv hpast
  have hcases := mintDirectory_run_cases hinv.minted hhandler.isEntryName
  refine ⟨?_, ?_, fun d hok => ?_, fun f herror => ?_, fun hfew => ?_, fun hfirst => ?_⟩
  · rw [hinv.allocated_eq]
    exact hinv.nodup.map fun d d' heq => (List.cons.inj heq).1
  · rw [hinv.allocated_eq, List.forall_mem_map]
    exact fun d hd => ⟨rfl, hinv.minted.mem_directories d hd⟩
  · rcases hcases with ⟨front, name, back, hnames, htaken, hnew, hrun⟩ | ⟨-, hrun⟩
    · obtain rfl := Except.ok.inj (hok.symm.trans (congrArg Prod.fst hrun))
      refine ⟨front, name, back, hnames, rfl, fun _ hmem => hinv.mem_iff_has.mp (htaken hmem), ?_,
        ?_, congrArg Prod.snd hrun⟩
      · rwa [hinv.mem_iff_has, Bool.not_eq_true] at hnew
      · rwa [hinv.singleton_mem_allocated_iff]
    · cases hok.symm.trans (congrArg Prod.fst hrun)
  · rcases hcases with ⟨_, _, _, -, -, -, hrun⟩ | ⟨hall, hrun⟩
    · cases herror.symm.trans (congrArg Prod.fst hrun)
    · exact ⟨Except.error.inj (herror.symm.trans (congrArg Prod.fst hrun)),
        congrArg Prod.snd hrun, fun _ hname => hinv.mem_iff_has.mp (hall hname)⟩
  · obtain ⟨d, -, -, hrun⟩ := mintDirectory_run hinv.minted hhandler.isEntryName
      (Nat.lt_of_le_of_lt hinv.length_le hfew)
    exact ⟨[d], congrArg Prod.fst hrun⟩
  · -- the name of the handler comes first, so that no other can be in front of it
    have hnew := hinv.name_notMem hhandler hfirst
    rcases hcases with ⟨front, name, back, hnames, htaken, -, hrun⟩ | ⟨hall, -⟩
    · cases front with
      | nil =>
        rw [show handler.name = name from (List.cons.inj hnames).1]
        exact congrArg Prod.fst hrun
      | cons taken front =>
        rw [show handler.name = taken from (List.cons.inj hnames).1] at hnew
        exact absurd (htaken List.mem_cons_self) hnew
    · exact absurd (hall List.mem_cons_self) hnew

/-! ### Handlers of one name -/

/-- A handler without parameters, of a scope. -/
def checkoutHandler (scope : String) : Descriptor where
  scope := scope
  name := "checkout"
  parameters := []
  result := Annotation.noneType
  shapeErrors := []

/-- Two handlers of one name, with the directories that they are given. -/
def checkoutCalls : List (Descriptor × Except Failure TreePath) :=
  [(checkoutHandler "shop", .ok ["checkout"]),
    (checkoutHandler "shop.tills", .ok ["shop.tills.checkout"])]

/-- The workspace after these two calls, with an entry point in the first directory. -/
def checkoutWorkspace : Workspace where
  place := "/srv"
  files := ⟨[["checkout"], ["shop.tills.checkout"]], [(["checkout", entryFile], .bytes [])]⟩
  events := []

/-- The two have been given their directories, and the first of these has been filled. A third one
of the same name and scope gets the next number. -/
theorem next_directory_first_free_checkoutHandler :
    let handler := checkoutHandler "shop.tills"
    let call := (mintDirectory handler).run.run checkoutWorkspace
    Allocations checkoutCalls checkoutWorkspace ∧
      (∀ earlier ∈ checkoutCalls, earlier.1.IsPlaceable) ∧ handler.IsPlaceable ∧
      call.1 = .ok ["shop.tills.checkout-2"] ∧
      ["shop.tills.checkout-2"] ∉ allocated checkoutCalls ∧
      call.2.files = checkoutWorkspace.files.withDirectory "shop.tills.checkout-2" := by
  intro handler call
  have hplaceable : ∀ scope ∈ ["shop", "shop.tills"], (checkoutHandler scope).IsPlaceable := by
    intro scope hscope
    refine ⟨show isIdentifier "checkout" = true by decide, ?_⟩
    revert scope
    decide
  have hfirst : Allocations [(checkoutHandler "shop", .ok ["checkout"])]
      ⟨"/srv", ⟨[["checkout"]], []⟩, []⟩ :=
    .mint (w := .empty "/srv") (.start rfl) rfl
  have hfilled := hfirst.fill (v := ⟨"/srv", _, []⟩) (List.mem_singleton_self _)
    (SameOutside.write _ (List.cons_ne_nil entryFile []) (.bytes []))
  have hcalls : Allocations checkoutCalls checkoutWorkspace := hfilled.mint rfl
  have hpast : ∀ earlier ∈ checkoutCalls, earlier.1.IsPlaceable := by
    rw [checkoutCalls, List.forall_mem_cons, List.forall_mem_singleton]
    exact ⟨hplaceable _ (by decide), hplaceable _ (by decide)⟩
  have hhandler : handler.IsPlaceable := hplaceable _ (by decide)
  obtain ⟨-, -, hok, -⟩ := next_directory_first_free hcalls hpast hhandler
  have hcall : call.1 = .ok ["shop.tills.checkout-2"] := by decide +kernel
  obtain ⟨-, _, -, -, hd, -, -, hnew, hmade⟩ := hok _ hcall
  obtain rfl := (List.cons.inj hd).1
  exact ⟨hcalls, hpast, hhandler, hcall, hnew, congrArg Workspace.files hmade⟩

end HandlerBundle
