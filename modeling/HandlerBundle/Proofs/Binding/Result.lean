import HandlerBundle.Binding.Check
import HandlerBundle.Handler.Callable
import HandlerBundle.Proofs.Annotation.Assignable

/-!
# What the check of a result accepts

A result is checked against a list of allowed annotations and the deferred form of each. It is
accepted exactly if it satisfies an allowed annotation, or if it wraps a deferred result, of any
class of such wrappers, and its last argument satisfies an allowed annotation. So a handler whose
result is accepted as it stands stays accepted when the result is wrapped, and when the handler is
made asynchronous.

## Main definitions

* `Callable.madeAsync` — a callable with its function made asynchronous.

## Main results

* `Annotation.isAssignable_deferred_iff` — what satisfies the deferred form of a slot.
* `Callable.describe?_madeAsync` — making a function asynchronous defers its result, and changes
  nothing else in its description.
* `deferred_results_accepted` — what the check accepts.
-/

namespace HandlerBundle

/-! ### Deferred slots -/

namespace Annotation

variable {t : Annotation}

/-- Only a generic is a wrapper with arguments, and its last argument is its result. -/
theorem IsWrapper.result?_eq (h : t.IsWrapper) : t.result? = t.args.getLast? := by
  obtain ⟨o, ho, hdeferred⟩ := h
  cases t with
  | generic | bare => rfl
  | union spelling ts => exact absurd ⟨o, ho, hdeferred⟩ (not_isWrapper_union spelling ts)
  | literal | annotated => cases ho; cases hdeferred
  | _ => cases ho

theorem isWrapper_deferred (t : Annotation) : (deferred t).IsWrapper :=
  ⟨.cls awaitable, rfl, rfl⟩

theorem fits_deferred_iff (t u : Annotation) : t.Fits (deferred u) ↔ t.IsWrapper := by
  constructor
  · rintro ⟨o, p, ho, hp, hfit⟩
    cases hp
    refine ⟨o, ho, ?_⟩
    rcases hfit with hfit | hfit
    · rw [same_cls_iff.mp hfit]
      rfl
    · exact hfit
  · rintro ⟨o, ho, hdeferred⟩
    exact ⟨o, .cls awaitable, ho, rfl, .inr hdeferred⟩

/-- The deferred form of a slot is satisfied by the wrappers whose last argument satisfies the
slot. -/
theorem isAssignable_deferred_iff (t u : Annotation) :
    t.isAssignable (deferred u.normal) = true ↔
      t.IsWrapper ∧ ∃ r, t.args.getLast? = some r ∧ r.isAssignable u = true := by
  rw [isAssignable_iff, satisfies_iff_of_isWrapper (isWrapper_deferred _), fits_deferred_iff]
  constructor
  · rintro ⟨ht, h | ⟨r, s, hlevel, h⟩⟩
    · cases h
    · obtain rfl := Option.some.inj hlevel.right
      refine ⟨ht, r, ht.result?_eq ▸ hlevel.left, ?_⟩
      rwa [← isAssignable_normal_right, isAssignable_iff]
  · rintro ⟨ht, r, hr, h⟩
    have hlevel : t.ComesDownTo (deferred u.normal) r u.normal :=
      ⟨(fits_deferred_iff _ _).mpr ht, isWrapper_deferred _, ht.result?_eq.trans hr, rfl⟩
    refine ⟨ht, .inr ⟨r, u.normal, hlevel, ?_⟩⟩
    rwa [← isAssignable_iff, isAssignable_normal_right]

theorem isAssignableToSome_withDeferred_iff (t : Annotation) (allowed : List Annotation) :
    t.isAssignableToSome (withDeferred allowed) = true ↔
      (∃ u ∈ allowed, t.isAssignable u = true) ∨
        t.IsWrapper ∧ ∃ r, t.args.getLast? = some r ∧ ∃ u ∈ allowed, r.isAssignable u = true := by
  simp only [isAssignableToSome, withDeferred, List.any_eq_true, List.mem_flatMap,
    List.mem_cons, List.not_mem_nil, or_false]
  constructor
  · rintro ⟨_, ⟨u, hu, rfl | rfl⟩, h⟩
    · exact .inl ⟨u, hu, by rwa [isAssignable_normal_right] at h⟩
    · obtain ⟨ht, r, hr, h⟩ := (isAssignable_deferred_iff t u).mp h
      exact .inr ⟨ht, r, hr, u, hu, h⟩
  · rintro (⟨u, hu, h⟩ | ⟨ht, r, hr, u, hu, h⟩)
    · exact ⟨u.normal, ⟨u, hu, .inl rfl⟩, by rwa [isAssignable_normal_right]⟩
    · exact ⟨_, ⟨u, hu, .inr rfl⟩, (isAssignable_deferred_iff t u).mpr ⟨ht, r, hr, h⟩⟩

end Annotation

theorem messages_checkResult_eq_nil_iff (allowed : List Annotation) (handler : Descriptor) :
    (checkResult allowed handler).messages = [] ↔
      handler.result.isAssignableToSome ( Annotation.withDeferred allowed) = true := by
  rw [checkResult]
  split <;> simp [*]

/-! ### Asynchronous handlers -/

namespace Callable

/-- A callable with the function at the bottom made asynchronous. -/
def madeAsync : Callable → Callable
  | .function header sig => .function { header with isAsync := true } sig
  | .wrapper header inner => .wrapper { header with isAsync := true } inner
  | .partialApplication inner count keywords => .partialApplication inner.madeAsync count keywords
  | .method inner => .method inner.madeAsync
  | .other => .other

theorem header?_madeAsync (f : Callable) :
    f.madeAsync.header? = f.header?.map fun header => { header with isAsync := true } := by
  induction f with
  | function | wrapper | other => rfl
  | partialApplication inner _ _ ih | method inner ih => exact ih

theorem signature_madeAsync (f : Callable) : f.madeAsync.signature = f.signature := by
  induction f with
  | function | wrapper | other => rfl
  | partialApplication inner _ _ ih | method inner ih => simp only [madeAsync, signature, ih]

theorem suppliedKeywords_madeAsync (f : Callable) :
    f.madeAsync.suppliedKeywords = f.suppliedKeywords := by
  induction f with
  | function | wrapper | other => rfl
  | partialApplication inner _ _ ih | method inner ih =>
    simp only [madeAsync, suppliedKeywords, ih]

/-- Making a function asynchronous defers its result, unless it already was, and changes nothing
else in its description. -/
theorem describe?_madeAsync {f : Callable} {d : Descriptor} (hd : f.describe? = .ok d) :
    f.madeAsync.describe? = .ok d ∨
      f.madeAsync.describe? = .ok { d with result := Annotation.deferred d.result } := by
  unfold describe? at hd ⊢
  rw [header?_madeAsync, signature_madeAsync, suppliedKeywords_madeAsync]
  cases hheader : f.header? with
  | none => simp only [hheader, reduceCtorEq] at hd
  | some header =>
    cases hsig : f.signature with
    | error cause => simp only [hheader, hsig, reduceCtorEq] at hd
    | ok sig =>
      simp only [hheader, hsig, Except.ok.injEq] at hd
      subst hd
      cases hasync : header.isAsync with
      | true => exact .inl rfl
      | false => exact .inr rfl

end Callable

/-- **What the check of a result accepts.** It finds nothing wrong exactly with the results that
satisfy an allowed annotation, and with the wrappers of deferred results whose last argument does.
So it accepts an accepted result in every wrapper, and the result of an accepted handler that is
made asynchronous. -/
theorem deferred_results_accepted (allowed : List Annotation) :
    (∀ handler : Descriptor, (checkResult allowed handler).messages = [] ↔
      (∃ u ∈ allowed, handler.result.isAssignable u = true) ∨
        ∃ o r, handler.result.origin? = some o ∧
          o.isSubclass (.cls Annotation.awaitable) = true ∧
          handler.result.args.getLast? = some r ∧ ∃ u ∈ allowed, r.isAssignable u = true) ∧
    (∀ (handler : Descriptor) (t : Annotation) (spelling : Spelling) (c : Class)
      (ts : List Annotation), (∃ u ∈ allowed, t.isAssignable u = true) →
      c.isSubclass Annotation.awaitable = true →
      (checkResult allowed { handler with result := .generic spelling c (ts ++ [t]) }).messages =
        []) ∧
    ∀ (f : Callable) (d : Descriptor), f.describe? = .ok d →
      (∃ u ∈ allowed, d.result.isAssignable u = true) →
      ∃ d', f.madeAsync.describe? = .ok d' ∧ (checkResult allowed d').messages = [] := by
  have haccepts (handler : Descriptor) : (checkResult allowed handler).messages = [] ↔ _ :=
    (messages_checkResult_eq_nil_iff allowed handler).trans
      ( Annotation.isAssignableToSome_withDeferred_iff handler.result allowed)
  have hwrapped (handler : Descriptor) (t : Annotation) (spelling : Spelling) (c : Class)
      (ts : List Annotation) (ht : ∃ u ∈ allowed, t.isAssignable u = true)
      (hc : c.isSubclass Annotation.awaitable = true) :
      (checkResult allowed { handler with result := .generic spelling c (ts ++ [t]) }).messages =
        [] :=
    (haccepts _).mpr (.inr ⟨⟨.cls c, rfl, hc⟩, t, List.getLast?_concat, ht⟩)
  refine ⟨fun handler => (haccepts handler).trans (or_congr_right ?_), hwrapped, ?_⟩
  · constructor
    · rintro ⟨⟨o, ho, hdeferred⟩, r, hr, h⟩
      exact ⟨o, r, ho, hdeferred, hr, h⟩
    · rintro ⟨o, r, ho, hdeferred, hr, h⟩
      exact ⟨⟨o, ho, hdeferred⟩, r, hr, h⟩
  · intro f d hd hresult
    rcases Callable.describe?_madeAsync hd with hd' | hd'
    · exact ⟨d, hd', (haccepts d).mpr (.inl hresult)⟩
    · exact ⟨_, hd', hwrapped d d.result .direct Annotation.awaitable [] hresult rfl⟩

/-! ### A handler that returns a text -/

/-- A function that returns a text. -/
def replyHeader : FunctionHeader where
  name := "reply"
  module := "handlers"
  qualname := "reply"
  isAsync := false
  annotations := [("return", .cls (.known .str))]

theorem hints_replyHeader : replyHeader.hints = .ok replyHeader.annotations := by
  simp only [FunctionHeader.hints, replyHeader, List.mapM_cons, List.mapM_nil, Annotation.resolve,
    Annotation.resolveNames]
  rfl

theorem exists_describe?_replyHeader :
    ∃ d, (Callable.function replyHeader []).describe? = .ok d ∧
      d.result = .cls (.known .str) := by
  simp only [Callable.describe?, Callable.header?, Callable.signature, hints_replyHeader]
  exact ⟨_, rfl, by simp [hintFor, replyHeader, Annotation.normal]⟩

/-- The handler may return a text where one is allowed, also from a coroutine, and also once its
function is asynchronous. -/
theorem deferred_results_accepted_replyHeader :
    let allowed : List Annotation := [.cls (.known .str)]
    let coroutine : Annotation :=
      .generic .direct (.known .coroutine) ([.absent, .absent] ++ [.cls (.known .str)])
    ∃ d d', (Callable.function replyHeader []).describe? = .ok d ∧
      (checkResult allowed d).messages = [] ∧
      (checkResult allowed { d with result := coroutine }).messages = [] ∧
      (Callable.function replyHeader []).madeAsync.describe? = .ok d' ∧
      (checkResult allowed d').messages = [] := by
  intro allowed coroutine
  obtain ⟨d, hd, hresult⟩ := exists_describe?_replyHeader
  have htext : ( Annotation.cls (.known .str)).isAssignable (.cls (.known .str)) = true := by cbv
  have hallowed : ∃ u ∈ allowed, d.result.isAssignable u = true :=
    ⟨_, List.mem_cons_self, hresult ▸ htext⟩
  obtain ⟨haccepts, hwrapped, hasync⟩ := deferred_results_accepted allowed
  obtain ⟨d', hd', haccepted⟩ := hasync _ d hd hallowed
  exact ⟨d, d', hd, (haccepts d).mpr (.inl hallowed),
    hwrapped d _ .direct (.known .coroutine) [.absent, .absent] ⟨_, List.mem_cons_self, htext⟩ rfl,
    hd', haccepted⟩

end HandlerBundle
