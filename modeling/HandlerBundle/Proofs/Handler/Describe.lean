import HandlerBundle.Binding.Candidate
import HandlerBundle.Proofs.Handler.Signature

/-!
# The described signature

The description of a callable names the parameters that a call still has to give, and the generated
loader gives exactly these, by keyword. If the description has no shape errors, they are the
parameters that no layer supplies, in their order, and the call can be bound, with one exception: a
partial application that gives the name of a variadic keyword parameter by keyword hides it from the
shape errors. Then another keyword may name a parameter that is taken by position already, and it is
given twice.

## Main definitions

* `Signature.unsupplied` — the parameters that neither arguments by position nor keywords supply.

## Main results

* `Callable.describe?_spec` — what a call with the described parameters comes to.
* `Heap.describe_binds` — the same for objects.
-/

namespace HandlerBundle

namespace Signature

/-- The names of the parameters, variadic ones apart, that are supplied neither by a number of
arguments by position nor by keywords, in their order. -/
def unsupplied (sig : Signature) (count : Nat) (keywords : List String) : List String :=
  (sig.filter fun p =>
    !p.isVariadic && !(sig.takers count).contains p && !keywords.contains p.name).map (·.name)

variable {sig P V K W : Signature} {n : Nat} {keywords : List String}

theorem isVariadic_iff {p : FormalParameter} :
    p.isVariadic = true ↔ p.kind = .variadicPositional ∨ p.kind = .variadicKeyword := by
  rw [FormalParameter.isVariadic, Bool.or_eq_true, beq_iff_eq, beq_iff_eq]

namespace HasParts

theorem mem_iff (hparts : sig.HasParts P V K W) {p : FormalParameter} :
    p ∈ sig ↔ p ∈ P ∨ p ∈ V ∨ p ∈ K ∨ p ∈ W := by
  rw [hparts.eq, List.mem_append, List.mem_append, List.mem_append]

/-- Arguments by position go to the positional parameters. -/
theorem filter_isPositional (hparts : sig.HasParts P V K W) :
    sig.filter (·.isPositional) = P := by
  have hnone : ∀ p ∈ V ++ (K ++ W), ¬ p.isPositional = true := by
    intro p hp
    rw [isPositional_iff]
    rcases List.mem_append.mp hp with hV | hp
    · rw [hparts.variadic p hV]
      decide
    · rcases List.mem_append.mp hp with hK | hW
      · rw [hparts.keywordOnly p hK]
        decide
      · rw [hparts.others p hW]
        decide
  rw [hparts.eq, List.filter_append, List.filter_eq_self.mpr hparts.positional,
    List.filter_eq_nil_iff.mpr hnone, List.append_nil]

theorem takers_eq (hparts : sig.HasParts P V K W) : sig.takers n = P.take n := by
  rw [takers, hparts.filter_isPositional]

/-- What is taken has another name than what is left. -/
theorem name_ne (hparts : sig.HasParts P V K W) (hsig : sig.IsWellFormed) {p q : FormalParameter}
    (hp : p ∈ P.take n) (hq : q ∈ P.drop n ++ K) : p.name ≠ q.name := by
  have hsplit : (P.take n ++ (P.drop n ++ K)).Sublist sig := by
    rw [← List.append_assoc, List.take_append_drop, hparts.eq]
    exact (List.Sublist.refl P).append
      ((List.sublist_append_left K W).trans (List.sublist_append_right V _))
  have hnodup := (hsplit.map (·.name)).nodup hsig.nodup
  rw [List.map_append, List.nodup_append] at hnodup
  exact hnodup.2.2 _ (List.mem_map_of_mem hp) _ (List.mem_map_of_mem hq)

/-- The parameters of the function that can be supplied one by one are not variadic. -/
theorem isVariadic_eq (hparts : sig.HasParts P V K W) {p : FormalParameter} (hp : p ∈ P ++ K) :
    p.isVariadic = false := by
  rcases List.mem_append.mp hp with hp | hp
  · rcases isPositional_iff.mp (hparts.positional p hp) with hkind | hkind <;>
      rw [FormalParameter.isVariadic, hkind] <;> rfl
  · rw [FormalParameter.isVariadic, hparts.keywordOnly p hp]
    rfl

/-- A choice that leaves out what is taken and what is variadic is one among the others. -/
theorem filter_eq (hparts : sig.HasParts P V K W) {q : FormalParameter → Bool}
    (htaken : ∀ p ∈ P.take n, ¬ q p = true) (hV : ∀ p ∈ V, ¬ q p = true)
    (hW : ∀ p ∈ W, ¬ q p = true) : sig.filter q = (P.drop n ++ K).filter q := by
  calc sig.filter q
      = (P.take n).filter q ++ (P.drop n).filter q ++
          (V.filter q ++ (K.filter q ++ W.filter q)) := by
        rw [← List.filter_append (P.take n), List.take_append_drop, hparts.eq]
        simp only [List.filter_append]
    _ = (P.drop n ++ K).filter q := by
        rw [List.filter_eq_nil_iff.mpr htaken, List.filter_eq_nil_iff.mpr hV,
          List.filter_eq_nil_iff.mpr hW, List.nil_append, List.nil_append, List.append_nil,
          List.filter_append]

/-- The parameters that are not supplied are among the positional ones that are not taken and the
keyword-only ones. -/
theorem unsupplied_eq (hparts : sig.HasParts P V K W) (hsig : sig.IsWellFormed) :
    sig.unsupplied n keywords =
      ((P.drop n ++ K).map (·.name)).filter fun name => !keywords.contains name := by
  have hleft : ∀ p ∈ P.drop n ++ K,
      (!p.isVariadic && !(sig.takers n).contains p && !keywords.contains p.name) =
        !keywords.contains p.name := by
    intro p hp
    have hvariadic : p.isVariadic = false := by
      refine hparts.isVariadic_eq (List.mem_append.mpr ?_)
      exact (List.mem_append.mp hp).imp_left List.mem_of_mem_drop
    have htaken : p ∉ sig.takers n := by
      rw [hparts.takers_eq]
      exact fun hmem => hparts.name_ne hsig hmem hp rfl
    simp [hvariadic, htaken]
  rw [unsupplied, hparts.filter_eq, List.filter_congr hleft, List.filter_map]
  · rfl
  · intro p hp
    simp [hparts.takers_eq, hp]
  · intro p hp
    simp [isVariadic_iff.mpr (.inl (hparts.variadic p hp))]
  · intro p hp
    simp [isVariadic_iff.mpr (.inr (hparts.others p hp))]

end HasParts

/-! ### What is shown -/

variable {R S V' Q : Signature}

theorem isNamed_iff {p : FormalParameter} :
    Callable.isNamed p = true ↔ p.kind = .positionalOrKeyword ∨ p.kind = .keywordOnly := by
  rw [Callable.isNamed, Bool.or_eq_true, beq_iff_eq, beq_iff_eq]

/-- There are no shape errors if every parameter can be given by name. -/
theorem shapeErrorsOf_eq_nil_iff {left : Signature} :
    Callable.shapeErrorsOf left = [] ↔ ∀ p ∈ left, Callable.isNamed p = true := by
  rw [Callable.shapeErrorsOf, List.filterMap_eq_nil_iff]
  refine forall₂_congr fun p _ => ?_
  rw [isNamed_iff]
  cases p.kind <;> simp

namespace IsLayered

/-- A variadic parameter that is shown is given by keyword, if there are no shape errors. -/
theorem mem_of_variadic {shown : Signature}
    (hnamed : ∀ p ∈ shown.filter fun p => !keywords.contains p.name, Callable.isNamed p = true)
    {p : FormalParameter} (hp : p ∈ shown) (hvariadic : p.isVariadic = true) :
    p.name ∈ keywords := by
  by_contra hmem
  have hkind := isNamed_iff.mp (hnamed p (List.mem_filter.mpr ⟨hp, by simpa using hmem⟩))
  rw [isVariadic_iff] at hvariadic
  grind

/-- The parameters that are shown and not given by keyword, if there are no shape errors, are those
that are not supplied. -/
theorem names_eq (hparts : sig.HasParts P V K W) (hsig : sig.IsWellFormed)
    (h : IsLayered P V K W n keywords R S V' Q)
    (hnamed : ∀ p ∈ (R ++ (V' ++ (Q ++ W))).filter fun p => !keywords.contains p.name,
      Callable.isNamed p = true) :
    (((R ++ (V' ++ (Q ++ W))).filter fun p => !keywords.contains p.name).filter
      Callable.isNamed).map (·.name) = sig.unsupplied n keywords := by
  have htail := h.isTail hparts
  have hgone : ∀ p ∈ R ++ (V' ++ (Q ++ W)), p.isVariadic = true →
      ¬ (!keywords.contains p.name) = true := by
    intro p hp hvariadic
    simpa using mem_of_variadic hnamed hp hvariadic
  have hV : V'.filter (fun p => !keywords.contains p.name) = [] :=
    List.filter_eq_nil_iff.mpr fun p hp =>
      hgone p (by simp [hp]) (isVariadic_iff.mpr (.inl (htail.variadic p hp)))
  have hW : W.filter (fun p => !keywords.contains p.name) = [] :=
    List.filter_eq_nil_iff.mpr fun p hp =>
      hgone p (by simp [hp]) (isVariadic_iff.mpr (.inr (htail.others p hp)))
  rw [List.filter_eq_self.mpr hnamed, hparts.unsupplied_eq hsig, h.split]
  calc ((R ++ (V' ++ (Q ++ W))).filter fun p => !keywords.contains p.name).map (·.name)
      = ((R ++ Q).filter fun p => !keywords.contains p.name).map (·.name) := by
        simp only [List.filter_append, hV, hW, List.nil_append, List.append_nil]
    _ = ((R ++ Q).map (·.name)).filter fun name => !keywords.contains name := by
        rw [List.filter_map]
        rfl
    _ = ((R ++ S ++ K).map (·.name)).filter fun name => !keywords.contains name := by
        rw [List.map_append, h.names, ← List.map_append, List.append_assoc]

/-- Every parameter that is not taken can be given by name, and is, if all that are not supplied are
given. -/
theorem isNamed_and_given (hparts : sig.HasParts P V K W) (hsig : sig.IsWellFormed)
    (h : IsLayered P V K W n keywords R S V' Q)
    (hnamed : ∀ p ∈ (R ++ (V' ++ (Q ++ W))).filter fun p => !keywords.contains p.name,
      Callable.isNamed p = true) {p : FormalParameter} (hp : p ∈ P.drop n ++ K) :
    Callable.isNamed p = true ∧ p.name ∈ keywords ++ sig.unsupplied n keywords := by
  constructor
  · rw [h.split, List.mem_append, List.mem_append] at hp
    rcases hp with (hR | hS) | hK
    · exact hnamed p (List.mem_filter.mpr ⟨by simp [hR], by simpa using h.notMem p hR⟩)
    · exact isNamed_iff.mpr (.inl (h.kind_closed p hS))
    · exact isNamed_iff.mpr (.inr (hparts.keywordOnly p hK))
  · rw [hparts.unsupplied_eq hsig, List.mem_append, List.mem_filter]
    by_cases hmem : p.name ∈ keywords
    · exact .inl hmem
    · exact .inr ⟨List.mem_map_of_mem hp, by simpa using hmem⟩

/-- A keyword that names a parameter that is taken goes to a variadic one. -/
theorem ne_nil_of_twice (hparts : sig.HasParts P V K W) (hsig : sig.IsWellFormed)
    (h : IsLayered P V K W n keywords R S V' Q) {p : FormalParameter} (hp : p ∈ P.take n)
    (hmem : p.name ∈ keywords) : W ≠ [] := by
  refine (h.expected p.name hmem).resolve_left fun hother => ?_
  obtain ⟨q, hq, hname⟩ := List.mem_map.mp hother
  refine hparts.name_ne hsig hp ?_ hname.symm
  rw [h.split, List.append_assoc]
  exact List.mem_append_right _ hq

/-- **A call with the parameters that are not supplied** can be bound if there are no shape errors
and no keyword names a parameter that is taken. -/
theorem binds_iff (hparts : sig.HasParts P V K W) (hsig : sig.IsWellFormed)
    (h : IsLayered P V K W n keywords R S V' Q)
    (hnamed : ∀ p ∈ (R ++ (V' ++ (Q ++ W))).filter fun p => !keywords.contains p.name,
      Callable.isNamed p = true) :
    sig.Binds n (keywords ++ sig.unsupplied n keywords) ↔
      ∀ p ∈ sig.takers n, p.kind = .positionalOrKeyword → p.name ∉ keywords := by
  constructor
  · intro hbinds p hp hkind hmem
    exact hbinds.once p hp hkind (List.mem_append_left _ hmem)
  · intro honce
    have hall : ∀ p ∈ P.drop n ++ K, Callable.isNamed p = true ∧
        p.name ∈ keywords ++ sig.unsupplied n keywords :=
      fun p hp => h.isNamed_and_given hparts hsig hnamed hp
    have hnames : ∀ {k}, k ∈ (P.drop n ++ K).map (·.name) →
        ∃ p ∈ sig, Callable.isNamed p = true ∧ p.name = k := by
      intro k hk
      obtain ⟨p, hp, rfl⟩ := List.mem_map.mp hk
      refine ⟨p, hparts.mem_iff.mpr ?_, (hall p hp).1, rfl⟩
      exact (List.mem_append.mp hp).imp List.mem_of_mem_drop fun hK => .inr (.inl hK)
    have hunsupplied : ∀ {k}, k ∈ sig.unsupplied n keywords →
        k ∈ (P.drop n ++ K).map (·.name) := fun hk =>
      (List.mem_filter.mp (hparts.unsupplied_eq hsig ▸ hk)).1
    constructor
    · rw [hparts.filter_isPositional]
      refine h.placed.imp_right fun hV => ?_
      obtain ⟨v, hv⟩ := List.exists_mem_of_ne_nil V hV
      exact ⟨v, hparts.mem_iff.mpr (.inr (.inl hv)), hparts.variadic v hv⟩
    · intro p hp hkind hmem
      rcases List.mem_append.mp hmem with hgiven | hleft
      · exact honce p hp hkind hgiven
      · obtain ⟨q, hq, hname⟩ := List.mem_map.mp (hunsupplied hleft)
        exact hparts.name_ne hsig (hparts.takers_eq ▸ hp) hq hname.symm
    · intro k hk
      rcases List.mem_append.mp hk with hgiven | hleft
      · refine (h.expected k hgiven).imp (fun hk => hnames ?_) fun hW => ?_
        · rw [h.split, List.append_assoc, List.map_append]
          exact List.mem_append_right _ hk
        · obtain ⟨w, hw⟩ := List.exists_mem_of_ne_nil W hW
          exact ⟨w, hparts.mem_iff.mpr (.inr (.inr (.inr hw))), hparts.others w hw⟩
      · exact .inl (hnames (hunsupplied hleft))
    · intro p hp hvariadic _
      rw [hparts.takers_eq]
      rcases hparts.mem_iff.mp hp with hP | hV | hK | hW
      · rw [← List.take_append_drop n P, List.mem_append] at hP
        exact hP.imp_right fun hdrop => hall p (List.mem_append_left _ hdrop)
      · cases (isVariadic_iff.mpr (.inl (hparts.variadic p hV))).symm.trans hvariadic
      · exact .inr (hall p (List.mem_append_right _ hK))
      · cases (isVariadic_iff.mpr (.inr (hparts.others p hW))).symm.trans hvariadic

end IsLayered

end Signature

/-! ### Descriptions -/

namespace Callable

variable {header : FunctionHeader} {sig : Signature} {f : Callable} {d : Descriptor}

/-- A description shows the signature, without what is given by keyword. -/
theorem exists_signature_of_describe? (hd : f.describe? = .ok d) :
    ∃ shown unresolved, f.signature = .ok shown ∧
      d.parameters.map (·.name) =
        ((shown.filter fun p => !f.suppliedKeywords.contains p.name).filter isNamed).map (·.name) ∧
      d.shapeErrors = unresolved ++
        shapeErrorsOf (shown.filter fun p => !f.suppliedKeywords.contains p.name) := by
  rw [describe?] at hd
  cases hheader : f.header? with
  | none => rw [hheader] at hd; cases hd
  | some header =>
    rw [hheader] at hd
    cases hshown : f.signature with
    | error e => rw [hshown] at hd; cases hd
    | ok shown =>
      rw [hshown] at hd
      obtain rfl := Except.ok.inj hd
      refine ⟨shown, _, rfl, ?_, rfl⟩
      rw [List.map_map]
      rfl

/-- **What a call with the described parameters comes to.** If a callable over a plain function has
a description without shape errors, this names the parameters that no layer supplies, in their
order. A call that gives them by keyword can be bound exactly if no layer gives by keyword what is
taken by position; so it can if no layer gives the name of a variadic keyword parameter. -/
theorem describe?_spec (hsig : sig.IsWellFormed) (hf : f.IsOver header sig)
    (hd : f.describe? = .ok d) (hshape : d.shapeErrors = []) :
    d.parameters.map (·.name) = sig.unsupplied f.given f.suppliedKeywords ∧
      (f.Accepts 0 (d.parameters.map (·.name)) ↔
        ∀ p ∈ sig.takers f.given, p.kind = .positionalOrKeyword → p.name ∉ f.suppliedKeywords) ∧
      ((∀ p ∈ sig, p.kind = .variadicKeyword → p.name ∉ f.suppliedKeywords) →
        f.Accepts 0 (d.parameters.map (·.name))) := by
  obtain ⟨P, V, K, W, hparts⟩ := hsig.exists_parts
  obtain ⟨shown, unresolved, hshown, hnames, herrors⟩ := exists_signature_of_describe? hd
  obtain ⟨R, S, V', Q, rfl, hlayered⟩ := hf.exists_isLayered hparts hsig hshown
  rw [hshape] at herrors
  have hnamed := Signature.shapeErrorsOf_eq_nil_iff.mp (List.append_eq_nil_iff.mp herrors.symm).2
  rw [hlayered.names_eq hparts hsig hnamed] at hnames
  have hbinds : f.Accepts 0 (d.parameters.map (·.name)) ↔
      ∀ p ∈ sig.takers f.given, p.kind = .positionalOrKeyword → p.name ∉ f.suppliedKeywords := by
    rw [hnames, hf.accepts_iff, Nat.add_zero]
    exact hlayered.binds_iff hparts hsig hnamed
  refine ⟨hnames, hbinds, fun hhidden => hbinds.mpr fun p hp _ hmem => ?_⟩
  have hW := hlayered.ne_nil_of_twice hparts hsig (hparts.takers_eq ▸ hp) hmem
  obtain ⟨w, hw⟩ := List.exists_mem_of_ne_nil W hW
  have hkind := hparts.others w hw
  refine hhidden w (hparts.mem_iff.mpr (.inr (.inr (.inr hw)))) hkind ?_
  exact Signature.IsLayered.mem_of_variadic hnamed (by simp [hw])
    (Signature.isVariadic_iff.mpr (.inr hkind))

end Callable

namespace Heap

variable {h : Heap} {f : FunctionObject} {id : ObjectId} {n fuel : Nat}

/-- An object over a function is a callable over it. -/
theorem IsOver.isOver_callable (hid : h.IsOver f n id) (hplain : f.wrapped = none)
    (hlt : n < fuel) : (h.callable fuel id).IsOver (header f) f.signature := by
  induction hid generalizing fuel with
  | function ho =>
    obtain ⟨fuel, rfl⟩ := Nat.exists_eq_add_one.mpr hlt
    rw [callable, ho]
    dsimp only
    rw [hplain]
    exact .function
  | applied ho _ ih =>
    obtain ⟨fuel, rfl⟩ := Nat.exists_eq_add_one.mpr (Nat.zero_lt_of_lt hlt)
    rw [callable, ho]
    exact .partialApplication _ _ (ih (Nat.succ_lt_succ_iff.mp hlt))
  | bound ho _ ih =>
    obtain ⟨fuel, rfl⟩ := Nat.exists_eq_add_one.mpr (Nat.zero_lt_of_lt hlt)
    rw [callable, ho]
    exact .method (ih (Nat.succ_lt_succ_iff.mp hlt))

/-- **The described signature can be called.** If an object over a plain function has a description
without shape errors, this names the parameters of the function that no layer supplies, in their
order, and a call that gives them by keyword can be bound, unless a layer gives by keyword a
parameter that is taken by position. No layer does so unless one gives the name of a variadic
keyword parameter. -/
theorem describe_binds {d : Descriptor} (hid : h.IsOver f n id) (hplain : f.wrapped = none)
    (hsig : f.signature.IsWellFormed) (hd : h.describe id = .ok d) (hshape : d.shapeErrors = []) :
    let g := h.callable h.size id
    d.parameters.map (·.name) = f.signature.unsupplied g.given g.suppliedKeywords ∧
      (g.Accepts 0 (d.parameters.map (·.name)) ↔ ∀ p ∈ f.signature.takers g.given,
        p.kind = .positionalOrKeyword → p.name ∉ g.suppliedKeywords) ∧
      ((∀ p ∈ f.signature, p.kind = .variadicKeyword → p.name ∉ g.suppliedKeywords) →
        g.Accepts 0 (d.parameters.map (·.name))) := by
  intro g
  have hg : g.IsOver (header f) f.signature := hid.isOver_callable hplain hid.lt_size
  rw [describe] at hd
  split at hd
  next handler hdescribed =>
    obtain rfl := Except.ok.inj hd
    exact Callable.describe?_spec hsig hg hdescribed hshape
  next => cases hd

/-- A plain function with the given parameters. -/
def plainFunction (signature : Signature) : FunctionObject where
  name := "run"
  module := some "handlers"
  qualname := "run"
  isAsync := false
  signature := signature

/-- A function with a receiver and a list of messages, whose annotation is a text. -/
def messagesFunction : FunctionObject :=
  { plainFunction [⟨"self", .positionalOrKeyword, false⟩, ⟨"messages", .positionalOrKeyword, false⟩,
      ⟨"limit", .keywordOnly, false⟩] with
    annotations := [("messages", .forward "list[str]")]
    hintScope := ⟨fun _ => .ok (.generic .direct (.known .list) [.cls (.known .str)])⟩ }

theorem hints_messagesFunction : (header messagesFunction).hints =
    .ok [("messages", .generic .direct (.known .list) [.cls (.known .str)])] := by
  simp only [FunctionHeader.hints, header, messagesFunction, List.mapM_cons, List.mapM_nil,
    Annotation.resolve, Annotation.resolveNames]
  rfl

/-- The function, a method of it, and a partial application that gives the method its limit. -/
def messagesHeap : Heap where
  objects := #[.constant (.int 0), .function messagesFunction, .method 1 0,
    .partialApplication { func := 2, args := [], keywords := [("limit", 0)] }]

/-- Of a receiver, messages and a limit, the partial application gives the limit, and the messages
are left for the call. -/
theorem describe_binds_limit :
    ∃ d, messagesHeap.describe 3 = .ok d ∧ d.parameters.map (·.name) = ["messages"] ∧
      (messagesHeap.callable messagesHeap.size 3).Accepts 0 ["messages"] := by
  have hsig : messagesFunction.signature.IsWellFormed := ⟨by decide, by decide⟩
  have hid : messagesHeap.IsOver messagesFunction 2 3 := .applied rfl (.bound rfl (.function rfl))
  obtain ⟨d, hd, hshape, hnames⟩ : ∃ d, messagesHeap.describe 3 = .ok d ∧ d.shapeErrors = [] ∧
      d.parameters.map (·.name) = ["messages"] :=
    ⟨_, rfl, by rw [hints_messagesFunction]; decide +kernel, by decide +kernel⟩
  obtain ⟨-, -, hbinds⟩ := describe_binds hid rfl hsig hd hshape
  exact ⟨d, hd, hnames, hnames ▸ hbinds (by decide)⟩

end Heap

end HandlerBundle
