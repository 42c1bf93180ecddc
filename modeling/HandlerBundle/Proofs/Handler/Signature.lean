import HandlerBundle.Proofs.Handler.Call

/-!
# Signatures under layers

A layer takes positional parameters off the front of a signature, and it gives others by keyword.
From the first positional parameter that is given by keyword on, all of them are closed: they can
only be given by keyword, and nothing goes to a variadic positional parameter any more. So of the
positional parameters the first ones are taken, then some are open and the rest is closed, and the
signature that is shown puts the open ones in front and the closed ones behind.

## Main definitions

* `Signature.HasParts` — a signature in the order of the kinds.
* `Signature.IsLayered` — what layers leave of a signature.

## Main results

* `Signature.IsLayered.dropReceiver`, `Signature.IsLayered.apply` — one more layer.
* `Callable.IsOver.exists_isLayered` — all layers.
-/

namespace HandlerBundle

namespace Signature

/-- A signature in the order of the kinds: positional parameters, variadic positional ones,
keyword-only ones and variadic keyword ones. -/
structure HasParts (sig P V K W : Signature) : Prop where
  eq : sig = P ++ (V ++ (K ++ W))
  positional : ∀ p ∈ P, p.isPositional = true
  variadic : ∀ p ∈ V, p.kind = .variadicPositional
  keywordOnly : ∀ p ∈ K, p.kind = .keywordOnly
  others : ∀ p ∈ W, p.kind = .variadicKeyword

theorem isPositional_iff {p : FormalParameter} :
    p.isPositional = true ↔ p.kind = .positionalOnly ∨ p.kind = .positionalOrKeyword := by
  rw [FormalParameter.isPositional, Bool.or_eq_true, beq_iff_eq, beq_iff_eq]

/-- A signature with its kinds in order has its parts. -/
theorem IsWellFormed.exists_parts {sig : Signature} (hsig : sig.IsWellFormed) :
    ∃ P V K W, sig.HasParts P V K W := by
  have hordered := hsig.ordered
  clear hsig
  induction sig with
  | nil => exact ⟨[], [], [], [], rfl, nofun, nofun, nofun, nofun⟩
  | cons p sig ih =>
    rw [List.pairwise_cons] at hordered
    obtain ⟨P, V, K, W, rfl, hP, hV, hK, hW⟩ := ih hordered.2
    -- A part of lower kinds is empty: all that follows is of the kind of `p` or above.
    have hempty : ∀ {L : Signature} {n : Nat}, L ⊆ P ++ (V ++ (K ++ W)) →
        (∀ q ∈ L, q.kind.place ≤ n) → n < p.kind.place → L = [] := fun hsub hle hlt =>
      List.eq_nil_iff_forall_not_mem.mpr fun q hq =>
        absurd (hordered.1 q (hsub hq)) (Nat.not_le.mpr (Nat.lt_of_le_of_lt (hle q hq) hlt))
    have hnoP : 1 < p.kind.place → P = [] := hempty (List.subset_append_left P _) fun q hq => by
      rcases isPositional_iff.mp (hP q hq) with h | h <;> rw [h] <;> decide
    have hnoV : 2 < p.kind.place → V = [] := hempty
      (List.subset_append_of_subset_right P (List.subset_append_left V _)) fun q hq => by
      rw [hV q hq]
      decide
    have hnoK : 3 < p.kind.place → K = [] := hempty
      (List.subset_append_of_subset_right P (List.subset_append_of_subset_right V
        (List.subset_append_left K _))) fun q hq => by
      rw [hK q hq]
      decide
    cases hkind : p.kind with
    | positionalOnly =>
      exact ⟨p :: P, V, K, W, rfl,
        List.forall_mem_cons.mpr ⟨isPositional_iff.mpr (.inl hkind), hP⟩, hV, hK, hW⟩
    | positionalOrKeyword =>
      exact ⟨p :: P, V, K, W, rfl,
        List.forall_mem_cons.mpr ⟨isPositional_iff.mpr (.inr hkind), hP⟩, hV, hK, hW⟩
    | variadicPositional =>
      rw [hkind] at hnoP
      obtain rfl := hnoP (by decide)
      exact ⟨[], p :: V, K, W, rfl, nofun, List.forall_mem_cons.mpr ⟨hkind, hV⟩, hK, hW⟩
    | keywordOnly =>
      rw [hkind] at hnoP hnoV
      obtain rfl := hnoP (by decide)
      obtain rfl := hnoV (by decide)
      exact ⟨[], [], p :: K, W, rfl, nofun, nofun, List.forall_mem_cons.mpr ⟨hkind, hK⟩, hW⟩
    | variadicKeyword =>
      rw [hkind] at hnoP hnoV hnoK
      obtain rfl := hnoP (by decide)
      obtain rfl := hnoV (by decide)
      obtain rfl := hnoK (by decide)
      exact ⟨[], [], [], p :: W, rfl, nofun, nofun, nofun, List.forall_mem_cons.mpr ⟨hkind, hW⟩⟩

/-! ### One layer on the parts -/

variable {R V Q W : Signature} {keywords : List String} {count : Nat}

/-- The kinds of the parts behind the positional parameters. -/
structure IsTail (V Q W : Signature) : Prop where
  variadic : ∀ p ∈ V, p.kind = .variadicPositional
  keywordOnly : ∀ p ∈ Q, p.kind = .keywordOnly
  others : ∀ p ∈ W, p.kind = .variadicKeyword

/-- What stands behind the positional parameters and the variadic ones is given by keyword. -/
theorem IsTail.kind_of_mem (htail : IsTail V Q W) :
    ∀ p ∈ Q ++ W, p.kind = .keywordOnly ∨ p.kind = .variadicKeyword := by
  intro p hp
  exact (List.mem_append.mp hp).imp (htail.keywordOnly p) (htail.others p)

/-- A receiver goes to the first positional parameter, or else to a variadic one. -/
theorem dropReceiver_parts (hR : ∀ p ∈ R, p.isPositional = true) (htail : IsTail V Q W)
    {sig : Signature} (hdrop : dropReceiver (R ++ (V ++ (Q ++ W))) = .ok sig) :
    (∃ p R', R = p :: R' ∧ sig = R' ++ (V ++ (Q ++ W))) ∨
      (R = [] ∧ V ≠ [] ∧ sig = V ++ (Q ++ W)) := by
  cases R with
  | cons p R' =>
    refine .inl ⟨p, R', rfl, ?_⟩
    rw [List.cons_append, Signature.dropReceiver] at hdrop
    rcases isPositional_iff.mp (hR p List.mem_cons_self) with hkind | hkind <;>
      rw [hkind] at hdrop <;> exact (Except.ok.inj hdrop).symm
  | nil =>
    cases V with
    | cons v V' =>
      refine .inr ⟨rfl, List.cons_ne_nil _ _, ?_⟩
      rw [List.nil_append, List.cons_append, Signature.dropReceiver,
        htail.variadic v List.mem_cons_self] at hdrop
      exact (Except.ok.inj hdrop).symm
    | nil =>
      have hbehind := htail.kind_of_mem
      rw [List.nil_append, List.nil_append] at hdrop
      cases hE : Q ++ W with
      | nil => rw [hE] at hdrop; cases hdrop
      | cons p E =>
        rw [hE] at hdrop hbehind
        rw [Signature.dropReceiver] at hdrop
        rcases hbehind p List.mem_cons_self with hkind | hkind <;> rw [hkind] at hdrop <;>
          cases hdrop

/-- The first argument that is given by position goes to the first positional parameter. -/
theorem takePositional_cons {p : FormalParameter} {ps : Signature} {taken : List String}
    {left : Signature} (hp : p.isPositional = true)
    (htake : takePositional keywords (count + 1) (p :: ps) = .ok (taken, left)) :
    ∃ taken', taken = p.name :: taken' ∧ takePositional keywords count ps = .ok (taken', left) := by
  have hnext : ((takePositional keywords count ps).bind fun others =>
      .ok (p.name :: others.1, others.2)) = .ok (taken, left) := by
    rw [takePositional] at htake
    rcases isPositional_iff.mp hp with hkind | hkind <;> rw [hkind] at htake
    · exact htake
    · dsimp only at htake
      split_ifs at htake
      exact htake
  cases hothers : takePositional keywords count ps with
  | error e => rw [hothers] at hnext; cases hnext
  | ok others =>
    rw [hothers] at hnext
    obtain ⟨rfl, rfl⟩ := Prod.mk.inj (Except.ok.inj hnext)
    exact ⟨others.1, rfl, rfl⟩

/-- Arguments that are given by position go to the first positional parameters, or all the rest of
them to a variadic one. -/
theorem takePositional_parts (hR : ∀ p ∈ R, p.isPositional = true) (htail : IsTail V Q W)
    {taken : List String} {left : Signature}
    (htake : takePositional keywords count (R ++ (V ++ (Q ++ W))) = .ok (taken, left)) :
    taken = (R.take count).map (·.name) ∧ (count ≤ R.length ∨ V ≠ []) ∧
      ∃ V' ⊆ V, left = R.drop count ++ (V' ++ (Q ++ W)) := by
  induction R generalizing count taken left with
  | nil =>
    cases count with
    | zero =>
      rw [takePositional] at htake
      obtain ⟨rfl, rfl⟩ := Prod.mk.inj (Except.ok.inj htake)
      exact ⟨rfl, .inl (Nat.zero_le _), V, List.Subset.refl _, rfl⟩
    | succ count =>
      cases V with
      | cons v V' =>
        rw [List.nil_append, List.cons_append, takePositional,
          htail.variadic v List.mem_cons_self] at htake
        obtain ⟨rfl, rfl⟩ := Prod.mk.inj (Except.ok.inj htake)
        exact ⟨rfl, .inr (List.cons_ne_nil _ _), V', List.subset_cons_self _ _, rfl⟩
      | nil =>
        have hbehind := htail.kind_of_mem
        rw [List.nil_append, List.nil_append] at htake
        cases hE : Q ++ W with
        | nil => rw [hE] at htake; cases htake
        | cons p E =>
          rw [hE] at htake hbehind
          rw [takePositional] at htake
          rcases hbehind p List.mem_cons_self with hkind | hkind <;> rw [hkind] at htake <;>
            cases htake
  | cons p R ih =>
    rw [List.forall_mem_cons] at hR
    cases count with
    | zero =>
      rw [takePositional] at htake
      obtain ⟨rfl, rfl⟩ := Prod.mk.inj (Except.ok.inj htake)
      exact ⟨rfl, .inl (Nat.zero_le _), V, List.Subset.refl _, rfl⟩
    | succ count =>
      obtain ⟨taken', rfl, hothers⟩ := takePositional_cons hR.1 htake
      obtain ⟨rfl, hplaced, V', hsub, rfl⟩ := ih hR.2 hothers
      exact ⟨rfl, hplaced.imp_left Nat.succ_le_succ, V', hsub, rfl⟩

/-- Keywords that are accepted name no positional-only parameter that is left, and each names
another one that is left, unless there is a variadic one for the others. -/
theorem acceptsKeywords_parts (hR : ∀ p ∈ R, p.isPositional = true) (htail : IsTail V Q W)
    (haccepts : acceptsKeywords keywords (R ++ (V ++ (Q ++ W))) = true) :
    (∀ p ∈ R, p.kind = .positionalOnly → p.name ∉ keywords) ∧
      ((∀ k ∈ keywords, (∃ p ∈ R, p.kind = .positionalOrKeyword ∧ p.name = k) ∨
        k ∈ Q.map (·.name)) ∨ W ≠ []) := by
  rw [acceptsKeywords, Bool.and_eq_true, Bool.not_eq_true', List.any_eq_false, Bool.or_eq_true,
    List.any_eq_true, List.all_eq_true] at haccepts
  obtain ⟨hmisplaced, hknown⟩ := haccepts
  have hcases : ∀ p ∈ R ++ (V ++ (Q ++ W)), p ∈ R ∧ p.isPositional = true ∨
      p.kind = .variadicPositional ∨ (p ∈ Q ∧ p.kind = .keywordOnly) ∨
        (p ∈ W ∧ p.kind = .variadicKeyword) := by
    intro p hp
    rw [List.mem_append, List.mem_append, List.mem_append] at hp
    exact hp.imp (fun h => ⟨h, hR p h⟩) (Or.imp (htail.variadic p)
      (Or.imp (fun h => ⟨h, htail.keywordOnly p h⟩) fun h => ⟨h, htail.others p h⟩))
  refine ⟨fun p hp hkind hmem => ?_, hknown.symm.imp (fun hall k hk => ?_) ?_⟩
  · exact hmisplaced p (List.mem_append_left _ hp) (by simp [hkind, hmem])
  · obtain ⟨p, hp, hname⟩ := List.any_eq_true.mp (hall k hk)
    obtain ⟨hp, hkind⟩ := List.mem_filter.mp hp
    obtain rfl : p.name = k := eq_of_beq hname
    rcases hcases p hp with ⟨hmem, hpositional⟩ | hvariadic | ⟨hmem, -⟩ | ⟨-, hvariadic⟩
    · rcases isPositional_iff.mp hpositional with honly | hboth
      · simp [honly] at hkind
      · exact .inl ⟨p, hmem, hboth, rfl⟩
    · simp [hvariadic] at hkind
    · exact .inr (List.mem_map_of_mem hmem)
    · simp [hvariadic] at hkind
  · rintro ⟨p, hp, hkind⟩ rfl
    have hkind : p.kind = .variadicKeyword := eq_of_beq hkind
    rcases hcases p hp with ⟨-, hpositional⟩ | hvariadic | ⟨-, honly⟩ | ⟨hmem, -⟩
    · simp [FormalParameter.isPositional, hkind] at hpositional
    · cases hkind.symm.trans hvariadic
    · cases hkind.symm.trans honly
    · cases hmem

/-- A parameter with the default that a keyword gives it. -/
def withDefault (keywords : List String) (p : FormalParameter) : FormalParameter :=
  if keywords.contains p.name then { p with hasDefault := true } else p

/-- A parameter that from now on is given by keyword only. -/
def closed (keywords : List String) (p : FormalParameter) : FormalParameter :=
  { withDefault keywords p with kind := .keywordOnly }

@[simp] theorem name_withDefault (keywords : List String) (p : FormalParameter) :
    (withDefault keywords p).name = p.name := by
  unfold withDefault
  split_ifs <;> rfl

@[simp] theorem kind_withDefault (keywords : List String) (p : FormalParameter) :
    (withDefault keywords p).kind = p.kind := by
  unfold withDefault
  split_ifs <;> rfl

@[simp] theorem name_closed (keywords : List String) (p : FormalParameter) :
    (closed keywords p).name = p.name :=
  name_withDefault keywords p

/-- What remains of the parts behind the positional parameters. If one of these is closed, the
variadic ones are gone. -/
theorem remaining_tail (taken : List String) (c : Bool) (htail : IsTail V Q W) :
    remaining taken keywords c (V ++ (Q ++ W)) =
      if c then ([], Q.map (withDefault keywords) ++ W)
      else (V ++ (Q.map (withDefault keywords) ++ W), []) := by
  obtain ⟨hV, hQ, hW⟩ := htail
  have hothers : remaining taken keywords c W = if c then ([], W) else (W, []) := by
    induction W with
    | nil => cases c <;> rfl
    | cons w W ih =>
      rw [List.forall_mem_cons] at hW
      cases c <;> simp [remaining, hW.1, ih hW.2]
  have hkeywordOnly : remaining taken keywords c (Q ++ W) =
      if c then ([], Q.map (withDefault keywords) ++ W)
      else (Q.map (withDefault keywords) ++ W, []) := by
    induction Q with
    | nil => exact hothers
    | cons q Q ih =>
      rw [List.forall_mem_cons] at hQ
      cases c <;> simp [remaining, hQ.1, ih hQ.2, withDefault]
  induction V with
  | nil => exact hkeywordOnly
  | cons v V ih =>
    rw [List.forall_mem_cons] at hV
    cases c <;> simp [remaining, hV.1, ih hV.2]

/-- Positional parameters that are taken are gone. -/
theorem remaining_taken {taken : List String} {T : Signature}
    (hT : ∀ p ∈ T, p.isPositional = true ∧ p.name ∈ taken) (rest : Signature) :
    remaining taken keywords false (T ++ rest) = remaining taken keywords false rest := by
  induction T with
  | nil => rfl
  | cons p T ih =>
    rw [List.forall_mem_cons] at hT
    rcases isPositional_iff.mp hT.1.1 with hkind | hkind <;>
      simp [remaining, hkind, hT.1.2, ih hT.2]

/-- Behind a positional parameter that is closed, all of them are. -/
theorem remaining_closed {taken : List String} {S : Signature}
    (hS : ∀ p ∈ S, p.kind = .positionalOrKeyword ∧ p.name ∉ taken) (htail : IsTail V Q W) :
    remaining taken keywords true (S ++ (V ++ (Q ++ W))) =
      ([], S.map (closed keywords) ++ (Q.map (withDefault keywords) ++ W)) := by
  induction S with
  | nil => exact remaining_tail taken true htail
  | cons p S ih =>
    rw [List.forall_mem_cons] at hS
    simp [remaining, hS.1.1, hS.1.2, ih hS.2, closed, withDefault]

/-- Of the positional parameters that are not taken, those in front of the first one that is given
by keyword stay open, and from it on they are closed. -/
theorem remaining_parts {taken : List String}
    (hR : ∀ p ∈ R, p.isPositional = true ∧ p.name ∉ taken)
    (hordered : R.Pairwise fun p q => p.kind = .positionalOrKeyword → q.kind = .positionalOrKeyword)
    (honly : ∀ p ∈ R, p.kind = .positionalOnly → p.name ∉ keywords) (htail : IsTail V Q W) :
    ∃ A S V', R = A ++ S ∧ (∀ p ∈ A, p.name ∉ keywords) ∧
      (∀ p ∈ S, p.kind = .positionalOrKeyword) ∧ (S = [] → V' = V) ∧ (S ≠ [] → V' = []) ∧
      (remaining taken keywords false (R ++ (V ++ (Q ++ W)))).1 ++
        (remaining taken keywords false (R ++ (V ++ (Q ++ W)))).2 =
      A ++ (V' ++ ((S.map (closed keywords) ++ Q.map (withDefault keywords)) ++ W)) := by
  induction R with
  | nil =>
    refine ⟨[], [], V, rfl, nofun, nofun, fun _ => rfl, fun h => absurd rfl h, ?_⟩
    rw [List.nil_append, remaining_tail taken false htail]
    exact List.append_nil _
  | cons p R ih =>
    rw [List.forall_mem_cons] at hR honly
    rw [List.pairwise_cons] at hordered
    by_cases hgiven : p.kind = .positionalOrKeyword ∧ p.name ∈ keywords
    · obtain ⟨hkind, hmem⟩ := hgiven
      have hclosed := @remaining_closed V Q W keywords taken R
        (fun q hq => ⟨hordered.1 q hq hkind, (hR.2 q hq).2⟩) htail
      refine ⟨[], p :: R, [], rfl, nofun,
        List.forall_mem_cons.mpr ⟨hkind, fun q hq => hordered.1 q hq hkind⟩,
        fun h => absurd h (List.cons_ne_nil _ _), fun _ => rfl, ?_⟩
      simp [remaining, hkind, hmem, hR.1.2, hclosed, closed, withDefault]
    · obtain ⟨A, S, V', rfl, hA, hS, hopen, hclosed, hrest⟩ := ih hR.2 hordered.2 honly.2
      have hname : p.name ∉ keywords := by
        rcases isPositional_iff.mp hR.1.1 with hkind | hkind
        · exact honly.1 hkind
        · exact fun hmem => hgiven ⟨hkind, hmem⟩
      refine ⟨p :: A, S, V', rfl, List.forall_mem_cons.mpr ⟨hname, hA⟩, hS, hopen, hclosed, ?_⟩
      change _ = p :: (A ++ _)
      rw [← hrest]
      rcases isPositional_iff.mp hR.1.1 with hkind | hkind <;>
        simp [remaining, hkind, hname, hR.1.2]

/-! ### All layers -/

/-- What layers leave of a signature with the parts `P`, `V`, `K` and `W`, if they give `n`
arguments by position and the keywords `ks`: of the positional parameters the first `n` are taken,
`R` is open and `S` is closed. Then `R`, `V'`, `Q` and `W` are the parts of the signature that is
shown. -/
structure IsLayered (P V K W : Signature) (n : Nat) (ks : List String) (R S V' Q : Signature) :
    Prop where
  split : P.drop n = R ++ S
  kind_closed : ∀ p ∈ S, p.kind = .positionalOrKeyword
  variadic_of_open : S = [] → V' = V
  variadic_of_closed : S ≠ [] → V' = []
  names : Q.map (·.name) = (S ++ K).map (·.name)
  keywordOnly : ∀ p ∈ Q, p.kind = .keywordOnly
  notMem : ∀ p ∈ R, p.name ∉ ks
  placed : n ≤ P.length ∨ V ≠ []
  expected : ∀ k ∈ ks, k ∈ (S ++ K).map (·.name) ∨ W ≠ []

namespace IsLayered

variable {sig P V K W R S V' Q : Signature} {n : Nat} {ks : List String}

/-- Without layers, all positional parameters are open. -/
theorem refl (hparts : sig.HasParts P V K W) : IsLayered P V K W 0 [] P [] V K where
  split := (List.append_nil P).symm
  kind_closed := nofun
  variadic_of_open _ := rfl
  variadic_of_closed h := absurd rfl h
  names := rfl
  keywordOnly := hparts.keywordOnly
  notMem _ _ := List.not_mem_nil
  placed := .inl (Nat.zero_le _)
  expected := nofun

/-- The open parameters are some of the positional ones, in their order. -/
theorem sublist (h : IsLayered P V K W n ks R S V' Q) : R.Sublist P :=
  (List.sublist_append_left R S).trans (h.split ▸ List.drop_sublist n P)

theorem isTail (hparts : sig.HasParts P V K W) (h : IsLayered P V K W n ks R S V' Q) :
    IsTail V' Q W where
  variadic := by
    by_cases hS : S = []
    · exact h.variadic_of_open hS ▸ hparts.variadic
    · rw [h.variadic_of_closed hS]
      exact nofun
  keywordOnly := h.keywordOnly
  others := hparts.others

/-- Where something goes to a variadic parameter, nothing is closed. -/
theorem closed_eq_nil (h : IsLayered P V K W n ks R S V' Q) (hV : V' ≠ []) : S = [] ∧ V ≠ [] := by
  have hS : S = [] := by_contra fun hS => hV (h.variadic_of_closed hS)
  exact ⟨hS, h.variadic_of_open hS ▸ hV⟩

/-- **One more method.** Its receiver takes the first open parameter. -/
theorem dropReceiver (hparts : sig.HasParts P V K W) (h : IsLayered P V K W n ks R S V' Q)
    {sig' : Signature} (hdrop : Signature.dropReceiver (R ++ (V' ++ (Q ++ W))) = .ok sig') :
    ∃ R', sig' = R' ++ (V' ++ (Q ++ W)) ∧ IsLayered P V K W (n + 1) ks R' S V' Q := by
  have hR : ∀ p ∈ R, p.isPositional = true := fun p hp => hparts.positional p (h.sublist.subset hp)
  rcases dropReceiver_parts hR (h.isTail hparts) hdrop with ⟨p, R', rfl, rfl⟩ | ⟨rfl, hV, rfl⟩
  · have hdropped : P.drop (n + 1) = R' ++ S := by
      rw [← List.drop_drop, h.split]
      rfl
    have hlt : n < P.length := by
      by_contra hle
      have hnil := h.split
      rw [List.drop_eq_nil_of_le (Nat.not_lt.mp hle)] at hnil
      cases hnil
    exact ⟨R', rfl, { h with
      split := hdropped
      notMem := fun p hp => h.notMem p (List.mem_cons_of_mem _ hp)
      placed := .inl hlt }⟩
  · obtain ⟨rfl, hV⟩ := h.closed_eq_nil hV
    refine ⟨[], rfl, { h with split := ?_, placed := .inr hV }⟩
    rw [← List.drop_drop, h.split]
    rfl

/-- One more layer takes some of the open parameters, leaves `A` open and closes `S'`. -/
theorem close (h : IsLayered P V K W n ks R S V' Q) {count : Nat} {keywords : List String}
    {A S' V'' Q' : Signature} (hsplit : R.drop count = A ++ S')
    (hplaced : count ≤ R.length ∨ V' ≠ []) (hA : ∀ p ∈ A, p.name ∉ keywords)
    (hS' : ∀ p ∈ S', p.kind = .positionalOrKeyword) (hopen : S' = [] → V'' = V')
    (hclosed : S' ≠ [] → V'' = []) (hnames : Q'.map (·.name) = (S' ++ Q).map (·.name))
    (hkind : ∀ p ∈ Q', p.kind = .keywordOnly)
    (hknown : (∀ k ∈ keywords, (∃ p ∈ R.drop count, p.kind = .positionalOrKeyword ∧ p.name = k) ∨
      k ∈ Q.map (·.name)) ∨ W ≠ []) :
    IsLayered P V K W (n + count) (keywords ++ ks) A (S' ++ S) V'' Q' where
  split := by
    have hrest : S.drop (count - R.length) = S := by
      rcases hplaced with hle | hV
      · rw [Nat.sub_eq_zero_of_le hle, List.drop_zero]
      · rw [(h.closed_eq_nil hV).1, List.drop_nil]
    rw [← List.drop_drop, h.split, List.drop_append, hsplit, hrest, List.append_assoc]
  kind_closed := List.forall_mem_append.mpr ⟨hS', h.kind_closed⟩
  variadic_of_open hnil := by
    obtain ⟨hS'nil, hSnil⟩ := List.append_eq_nil_iff.mp hnil
    rw [hopen hS'nil, h.variadic_of_open hSnil]
  variadic_of_closed hne := by
    by_cases hS'nil : S' = []
    · rw [hopen hS'nil]
      exact h.variadic_of_closed fun hSnil => hne (by rw [hS'nil, hSnil]; rfl)
    · exact hclosed hS'nil
  names := by
    rw [hnames, List.map_append, h.names, ← List.map_append, List.append_assoc]
  keywordOnly := hkind
  notMem p hp := by
    rw [List.mem_append, not_or]
    have hpR : p ∈ R := List.mem_of_mem_drop (hsplit ▸ List.mem_append_left _ hp)
    exact ⟨hA p hp, h.notMem p hpR⟩
  placed := by
    rcases hplaced with hle | hV
    · refine h.placed.imp_left fun hn => ?_
      have hlength := congrArg List.length h.split
      rw [List.length_drop, List.length_append] at hlength
      omega
    · exact .inr (h.closed_eq_nil hV).2
  expected := by
    have hgrow : ∀ k, k ∈ (S ++ K).map (·.name) → k ∈ (S' ++ S ++ K).map (·.name) := by
      intro k hk
      rw [List.append_assoc, List.map_append]
      exact List.mem_append_right _ hk
    rw [List.forall_mem_append]
    refine ⟨fun k hk => ?_, fun k hk => (h.expected k hk).imp_left (hgrow k)⟩
    refine hknown.imp_left fun hall => ?_
    rcases hall k hk with ⟨p, hp, -, rfl⟩ | hmem
    · rw [hsplit, List.mem_append] at hp
      rcases hp with hp | hp
      · exact absurd hk (hA p hp)
      · rw [List.append_assoc, List.map_append]
        exact List.mem_append_left _ (List.mem_map_of_mem hp)
    · exact hgrow k (h.names ▸ hmem)

/-- **One more partial application.** Its arguments by position take open parameters, and from the
first parameter on that it gives by keyword, the others are closed. -/
theorem apply (hparts : sig.HasParts P V K W) (hnodup : (P.map (·.name)).Nodup)
    (hordered : P.Pairwise fun p q => p.kind = .positionalOrKeyword →
      q.kind = .positionalOrKeyword)
    (h : IsLayered P V K W n ks R S V' Q) {count : Nat} {keywords : List String} {sig' : Signature}
    (happly : Signature.apply (R ++ (V' ++ (Q ++ W))) count keywords = .ok sig') :
    ∃ R' S' V'' Q', sig' = R' ++ (V'' ++ (Q' ++ W)) ∧
      IsLayered P V K W (n + count) (keywords ++ ks) R' S' V'' Q' := by
  have hR : ∀ p ∈ R, p.isPositional = true := fun p hp => hparts.positional p (h.sublist.subset hp)
  have htail := h.isTail hparts
  rw [Signature.apply] at happly
  cases htake : takePositional keywords count (R ++ (V' ++ (Q ++ W))) with
  | error e => rw [htake] at happly; cases happly
  | ok took =>
    obtain ⟨taken, left⟩ := took
    rw [htake] at happly
    obtain ⟨rfl, hplaced, V₁, hV₁, rfl⟩ := takePositional_parts hR htail htake
    change (if acceptsKeywords keywords _ then _ else _) = _ at happly
    split_ifs at happly with haccepts
    have htail₁ : IsTail V₁ Q W := { htail with variadic := fun p hp => htail.variadic p (hV₁ hp) }
    have hleft : ∀ p ∈ R.drop count, p ∈ R := fun p hp => List.mem_of_mem_drop hp
    obtain ⟨honly, hknown⟩ := acceptsKeywords_parts (fun p hp => hR p (hleft p hp)) htail₁ haccepts
    have htaken : ∀ p ∈ R.take count, p.isPositional = true ∧
        p.name ∈ (R.take count).map (·.name) := fun p hp =>
      ⟨hR p (List.mem_of_mem_take hp), List.mem_map_of_mem hp⟩
    have hnodupR : (R.map (·.name)).Nodup := (h.sublist.map _).nodup hnodup
    have hnottaken : ∀ p ∈ R.drop count, p.isPositional = true ∧
        p.name ∉ (R.take count).map (·.name) := by
      intro p hp
      refine ⟨hR p (hleft p hp), fun hmem => ?_⟩
      rw [← List.take_append_drop count R, List.map_append, List.nodup_append] at hnodupR
      exact hnodupR.2.2 _ hmem _ (List.mem_map_of_mem hp) rfl
    obtain ⟨A, S', V'', hsplit, hA, hS', hopen, hclosed, hrest⟩ := remaining_parts hnottaken
      (hordered.sublist ((List.drop_sublist count R).trans h.sublist)) honly htail
    obtain rfl := Except.ok.inj happly
    refine ⟨A, S' ++ S, V'', S'.map (closed keywords) ++ Q.map (withDefault keywords), ?_, ?_⟩
    · rw [← hrest]
      have hfront : R ++ (V' ++ (Q ++ W)) =
          R.take count ++ (R.drop count ++ (V' ++ (Q ++ W))) := by
        rw [← List.append_assoc (R.take count), List.take_append_drop]
      rw [hfront, remaining_taken htaken]
    · refine h.close hsplit hplaced hA hS' hopen hclosed ?_ ?_ hknown
      · simp [Function.comp_def]
      · simp only [List.forall_mem_append, List.forall_mem_map]
        exact ⟨fun _ _ => rfl, fun p hp => (kind_withDefault _ _).trans (h.keywordOnly p hp)⟩

end IsLayered

end Signature

/-- In a well-formed signature, nothing that is given by position alone stands behind a parameter
that can be given by keyword. -/
theorem Signature.HasParts.pairwise_positional {sig P V K W : Signature}
    (hparts : sig.HasParts P V K W) (hsig : sig.IsWellFormed) :
    P.Pairwise fun p q => p.kind = .positionalOrKeyword → q.kind = .positionalOrKeyword := by
  have hP : P.Sublist sig := hparts.eq ▸ List.sublist_append_left _ _
  refine (hsig.ordered.sublist hP).imp_of_mem fun {p q} _ hq hle hkind => ?_
  rcases Signature.isPositional_iff.mp (hparts.positional q hq) with honly | hboth
  · rw [hkind, honly] at hle
    exact absurd hle (by decide)
  · exact hboth

open Signature in
/-- **All layers.** The signature that a callable over a function shows is what the layers leave of
that of the function. -/
theorem Callable.IsOver.exists_isLayered {header : FunctionHeader} {sig P V K W : Signature}
    (hparts : sig.HasParts P V K W) (hsig : sig.IsWellFormed) {f : Callable}
    (hf : f.IsOver header sig) {shown : Signature} (hshown : f.signature = .ok shown) :
    ∃ R S V' Q, shown = R ++ (V' ++ (Q ++ W)) ∧
      IsLayered P V K W f.given f.suppliedKeywords R S V' Q := by
  induction hf generalizing shown with
  | function =>
    obtain rfl := Except.ok.inj hshown
    exact ⟨P, [], V, K, hparts.eq, .refl hparts⟩
  | @partialApplication inner count keywords _ ih =>
    rw [Callable.signature] at hshown
    cases hinner : inner.signature with
    | error e => rw [hinner] at hshown; cases hshown
    | ok under =>
      rw [hinner] at hshown
      obtain ⟨R, S, V', Q, rfl, hlayered⟩ := ih hinner
      have hnodup : (P.map (·.name)).Nodup := by
        have hP : P.Sublist sig := hparts.eq ▸ List.sublist_append_left _ _
        exact (hP.map _).nodup hsig.nodup
      obtain ⟨R', S', V'', Q', rfl, hlayered'⟩ :=
        hlayered.apply hparts hnodup (hparts.pairwise_positional hsig) hshown
      exact ⟨R', S', V'', Q', rfl, hlayered'⟩
  | @method inner _ ih =>
    rw [Callable.signature] at hshown
    cases hinner : inner.signature with
    | error e => rw [hinner] at hshown; cases hshown
    | ok under =>
      rw [hinner] at hshown
      obtain ⟨R, S, V', Q, rfl, hlayered⟩ := ih hinner
      obtain ⟨R', rfl, hlayered'⟩ := hlayered.dropReceiver hparts hshown
      exact ⟨R', S, V', Q, rfl, hlayered'⟩

end HandlerBundle
