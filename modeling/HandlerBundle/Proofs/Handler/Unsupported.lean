import HandlerBundle.Proofs.Binding.Resolution
import HandlerBundle.Proofs.Handler.Describe

/-!
# Parameters that the host cannot give

The host gives arguments by keyword, so it can give neither a variadic parameter nor a
positional-only one, and each that the signature of a callable still shows is a shape error, for
which the handler is rejected. The description leaves out by their names what the layers give by
keyword. This never hides a positional-only parameter: a call that names one by keyword cannot be
bound, so that a callable with such a layer shows no signature. It does hide a variadic parameter
whose name is given by keyword, although the keyword is one of those that the parameter collects.

## Main results

* `Callable.notMem_suppliedKeywords` — no layer gives a positional-only parameter by keyword.
* `Callable.mem_shapeErrors_iff` — which of the parameters that are shown are shape errors.
* `Heap.unsupported_parameters_reported` — the same for objects, with what becomes of the handler.
-/

namespace HandlerBundle

namespace Signature

variable {sig shown left : Signature} {taken keywords : List String} {count : Nat}
  {p : FormalParameter}

/-- A positional-only parameter that no argument takes is left over. -/
theorem mem_left_of_takePositional (htake : takePositional keywords count sig = .ok (taken, left))
    (hp : p ∈ sig) (hkind : p.kind = .positionalOnly) (htaken : p.name ∉ taken) : p ∈ left := by
  induction sig generalizing count taken with
  | nil => cases hp
  | cons q sig ih =>
    cases count with
    | zero =>
      rw [takePositional] at htake
      obtain ⟨rfl, rfl⟩ := Prod.mk.inj (Except.ok.inj htake)
      exact hp
    | succ count =>
      by_cases hq : q.isPositional = true
      · obtain ⟨taken, rfl, hothers⟩ := takePositional_cons hq htake
        rw [List.mem_cons, not_or] at htaken
        rcases List.mem_cons.mp hp with rfl | hp
        · exact absurd rfl htaken.1
        · exact ih hothers hp htaken.2
      · rw [isPositional_iff, not_or] at hq
        rw [takePositional] at htake
        rcases List.mem_cons.mp hp with rfl | hp
        · exact absurd hkind hq.1
        · cases hqkind : q.kind with
          | positionalOnly => exact absurd hqkind hq.1
          | positionalOrKeyword => exact absurd hqkind hq.2
          | keywordOnly | variadicKeyword => rw [hqkind] at htake; cases htake
          | variadicPositional =>
            rw [hqkind] at htake
            obtain ⟨rfl, rfl⟩ := Prod.mk.inj (Except.ok.inj htake)
            exact hp

/-- A positional-only parameter that remains was one before, and no argument takes it. -/
theorem mem_of_mem_remaining {closed : Bool}
    (hp : p ∈ (remaining taken keywords closed sig).1 ++ (remaining taken keywords closed sig).2)
    (hkind : p.kind = .positionalOnly) : p ∈ sig ∧ p.name ∉ taken := by
  fun_induction remaining taken keywords closed sig <;> grind

/-- A positional-only parameter that a partial application shows is shown by what it applies, and
none of its keywords names it. -/
theorem mem_of_mem_apply (happly : sig.apply count keywords = .ok shown) (hp : p ∈ shown)
    (hkind : p.kind = .positionalOnly) : p ∈ sig ∧ p.name ∉ keywords := by
  rw [apply] at happly
  cases htake : takePositional keywords count sig with
  | error e => rw [htake] at happly; cases happly
  | ok result =>
    obtain ⟨taken, left⟩ := result
    rw [htake] at happly
    change (if acceptsKeywords keywords left = true then _ else _) = _ at happly
    split_ifs at happly with haccepts
    obtain rfl := Except.ok.inj happly
    obtain ⟨hmem, htaken⟩ := mem_of_mem_remaining hp hkind
    rw [acceptsKeywords, Bool.and_eq_true, Bool.not_eq_true', List.any_eq_false] at haccepts
    have hplaced := haccepts.1 p (mem_left_of_takePositional htake hmem hkind htaken)
    exact ⟨hmem, fun hgiven => hplaced (by simp [hkind, hgiven])⟩

/-- What a method shows is shown by its function. -/
theorem mem_of_mem_dropReceiver (hdrop : sig.dropReceiver = .ok shown) (hp : p ∈ shown) :
    p ∈ sig := by
  cases sig with
  | nil => cases hdrop
  | cons q sig =>
    rw [dropReceiver] at hdrop
    split at hdrop
    · cases hdrop
    · cases hdrop
    · obtain rfl := Except.ok.inj hdrop
      exact List.mem_cons_of_mem _ hp
    · obtain rfl := Except.ok.inj hdrop
      exact List.mem_cons_of_mem _ hp
    · obtain rfl := Except.ok.inj hdrop
      exact hp

end Signature

namespace Callable

variable {f : Callable} {shown : Signature} {p : FormalParameter}

/-- **No layer gives a positional-only parameter by keyword**, if the signature shows it. -/
theorem notMem_suppliedKeywords (hshown : f.signature = .ok shown) (hp : p ∈ shown)
    (hkind : p.kind = .positionalOnly) : p.name ∉ f.suppliedKeywords := by
  induction f generalizing shown with
  | function header sig => exact List.not_mem_nil
  | wrapper header inner ih => exact List.not_mem_nil
  | other => exact List.not_mem_nil
  | partialApplication inner count keywords ih =>
    rw [signature] at hshown
    cases hinner : inner.signature with
    | error e => rw [hinner] at hshown; cases hshown
    | ok sig =>
      rw [hinner] at hshown
      obtain ⟨hmem, hkeywords⟩ := Signature.mem_of_mem_apply hshown hp hkind
      rw [suppliedKeywords, List.mem_append, not_or]
      exact ⟨hkeywords, ih hinner hmem⟩
  | method inner ih =>
    rw [signature] at hshown
    cases hinner : inner.signature with
    | error e => rw [hinner] at hshown; cases hshown
    | ok sig =>
      rw [hinner] at hshown
      exact ih hinner (Signature.mem_of_mem_dropReceiver hshown hp)

/-- The shape errors are those of the annotations and those of the parameters that are shown and
whose names no layer gives by keyword. -/
theorem exists_describe?_of_signature {header : FunctionHeader}
    (hheader : f.header? = some header) (hshown : f.signature = .ok shown) :
    ∃ d unresolved, f.describe? = .ok d ∧
      (∀ e ∈ unresolved, ∃ cause, e = ShapeError.unresolved cause) ∧
      d.shapeErrors = unresolved ++
        shapeErrorsOf (shown.filter fun p => !f.suppliedKeywords.contains p.name) := by
  rw [describe?, hheader]
  dsimp only
  rw [hshown]
  refine ⟨_, _, rfl, fun e he => ?_, rfl⟩
  cases hhints : header.hints with
  | ok hints => rw [hhints] at he; cases he
  | error cause =>
    rw [hhints] at he
    exact ⟨cause, List.mem_singleton.mp he⟩

theorem variadic_mem_shapeErrorsOf {left : Signature} {name : String} :
    ShapeError.variadic name ∈ shapeErrorsOf left ↔
      ∃ p ∈ left, p.isVariadic = true ∧ p.name = name := by
  rw [shapeErrorsOf, List.mem_filterMap]
  refine exists_congr fun p => and_congr_right fun _ => ?_
  rw [Signature.isVariadic_iff]
  cases p.kind <;> simp

theorem positionalOnly_mem_shapeErrorsOf {left : Signature} {name : String} :
    ShapeError.positionalOnly name ∈ shapeErrorsOf left ↔
      ∃ p ∈ left, p.kind = .positionalOnly ∧ p.name = name := by
  rw [shapeErrorsOf, List.mem_filterMap]
  refine exists_congr fun p => and_congr_right fun _ => ?_
  cases p.kind <;> simp

/-- **Which parameters are shape errors.** Of the parameters that the signature shows, every
positional-only one is, and a variadic one is exactly if no layer gives its name by keyword. -/
theorem mem_shapeErrors_iff {header : FunctionHeader}
    (hheader : f.header? = some header) (hshown : f.signature = .ok shown) :
    ∃ d, f.describe? = .ok d ∧
      (∀ p ∈ shown, p.kind = .positionalOnly → .positionalOnly p.name ∈ d.shapeErrors) ∧
      ∀ p ∈ shown, p.isVariadic = true →
        (.variadic p.name ∈ d.shapeErrors ↔ p.name ∉ f.suppliedKeywords) := by
  obtain ⟨d, unresolved, hd, hunresolved, herrors⟩ :=
    exists_describe?_of_signature hheader hshown
  refine ⟨d, hd, fun p hp hkind => ?_, fun p hp hvariadic => ?_⟩
  · rw [herrors, List.mem_append, positionalOnly_mem_shapeErrorsOf]
    have hgiven := notMem_suppliedKeywords hshown hp hkind
    exact .inr ⟨p, List.mem_filter.mpr ⟨hp, by simpa using hgiven⟩, hkind, rfl⟩
  · have hnot : ShapeError.variadic p.name ∉ unresolved := by
      intro hmem
      obtain ⟨cause, hcause⟩ := hunresolved _ hmem
      cases hcause
    rw [herrors, List.mem_append, or_iff_right hnot, variadic_mem_shapeErrorsOf]
    constructor
    · rintro ⟨q, hq, -, hname⟩
      simpa [hname] using (List.mem_filter.mp hq).2
    · exact fun hgiven => ⟨p, List.mem_filter.mpr ⟨hp, by simpa using hgiven⟩, hvariadic, rfl⟩

end Callable

/-- A shape error is one of the errors for which a handler is rejected. -/
theorem shape_mem_errors_resolve {d : Descriptor} {e : ShapeError} (he : e ∈ d.shapeErrors)
    (attributes : List Attribute) : .shape e ∈ (resolve d attributes).errors := by
  have hshape : ¬ d.IsReproducible := fun h => List.ne_nil_of_mem he h.1
  rw [resolve_of_not_isReproducible attributes hshape, shapeStage, List.mem_append]
  exact .inl (List.mem_map_of_mem he)

namespace Heap

variable {h : Heap} {f : FunctionObject} {id : ObjectId} {n fuel : Nat}

/-- A callable over a function has its header. -/
theorem IsOver.header?_callable (hid : h.IsOver f n id) (hlt : n < fuel) :
    (h.callable fuel id).header? = some (header f) := by
  induction hid generalizing fuel with
  | function ho =>
    obtain ⟨fuel, rfl⟩ := Nat.exists_eq_add_one.mpr hlt
    rw [callable, ho]
    dsimp only
    cases f.wrapped <;> rfl
  | applied ho _ ih | bound ho _ ih =>
    obtain ⟨fuel, rfl⟩ := Nat.exists_eq_add_one.mpr (Nat.zero_lt_of_lt hlt)
    rw [callable, ho]
    exact ih (Nat.succ_lt_succ_iff.mp hlt)

/-- **Parameters that the host cannot give are reported.** An object over a function that has a
signature has a description. Every positional-only parameter of the signature is a shape error
naming it, and every variadic one is, unless a layer gives its name by keyword. A handler with such
an error is rejected for it, whatever its attributes. -/
theorem unsupported_parameters_reported {shown : Signature}
    (hid : h.IsOver f n id) (hshown : (h.callable h.size id).signature = .ok shown) :
    ∃ d, h.describe id = .ok d ∧
      (∀ p ∈ shown, p.kind = .positionalOnly → .positionalOnly p.name ∈ d.shapeErrors) ∧
      (∀ p ∈ shown, p.isVariadic = true →
        (.variadic p.name ∈ d.shapeErrors ↔
          p.name ∉ (h.callable h.size id).suppliedKeywords)) ∧
      ∀ e ∈ d.shapeErrors, ∀ attributes, .shape e ∈ (resolve d attributes).errors := by
  obtain ⟨d, hd, honly, hvariadic⟩ :=
    Callable.mem_shapeErrors_iff (hid.header?_callable hid.lt_size) hshown
  refine ⟨d, ?_, honly, hvariadic, fun e he => shape_mem_errors_resolve he⟩
  rw [describe, hd]

/-- A function under a partial application with keywords. -/
def appliedHeap (signature : Signature) (keywords : List String) : Heap where
  objects := #[.constant (.int 0), .function (plainFunction signature),
    .partialApplication ⟨1, [], keywords.map fun k => (k, 0), []⟩]

/-- Of a positional-only message, the rest of the arguments and the options, the first two are
reported. The options are not if a partial application gives their name, although the signature
still shows them. -/
theorem unsupported_parameters_reported_options :
    let message : FormalParameter := ⟨"message", .positionalOnly, false⟩
    let rest : FormalParameter := ⟨"rest", .variadicPositional, false⟩
    let options : FormalParameter := ⟨"options", .variadicKeyword, false⟩
    let h := appliedHeap [message, rest, options] ["options"]
    (h.callable h.size 2).signature = .ok [message, rest, options] ∧
      ∃ d, h.describe 2 = .ok d ∧ .positionalOnly "message" ∈ d.shapeErrors ∧
        .variadic "rest" ∈ d.shapeErrors ∧ .variadic "options" ∉ d.shapeErrors ∧
        .shape (.variadic "rest") ∈ (resolve d []).errors := by
  intro message rest options h
  have hshown : (h.callable h.size 2).signature = .ok [message, rest, options] := rfl
  have hid : h.IsOver (plainFunction [message, rest, options]) 1 2 := .applied rfl (.function rfl)
  obtain ⟨d, hd, honly, hvariadic, hrejected⟩ :=
    unsupported_parameters_reported hid hshown
  have hrest := (hvariadic rest (by decide) rfl).mpr (by decide)
  have hoptions := (hvariadic options (by decide) rfl).not_left.mpr (by decide)
  exact ⟨hshown, d, hd, honly message (by decide) rfl, hrest, hoptions, hrejected _ hrest []⟩

end Heap

end HandlerBundle
