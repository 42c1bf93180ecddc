import HandlerBundle.Handler.Callable
import HandlerBundle.Proofs.Object.Layers

/-!
# Calls

A call gives arguments by position and by keyword. A partial application puts its own in front of
those of the call, and a method puts its receiver in front, so that a function under such layers is
called with the arguments of all of them. What it makes of them is up to the rules of calls.

## Main definitions

* `Signature.Binds` — the rules of a call.
* `Callable.IsOver` — a callable that is a function under layers.
* `Callable.Accepts` — a call of a callable can be bound.

## Main results

* `Callable.IsOver.accepts_iff` — a call reaches the function with the arguments of all layers.
-/

namespace HandlerBundle

namespace ParameterKind

/-- The place of parameters of a kind among the others. -/
def place : ParameterKind → Nat
  | .positionalOnly => 0
  | .positionalOrKeyword => 1
  | .variadicPositional => 2
  | .keywordOnly => 3
  | .variadicKeyword => 4

end ParameterKind

namespace FormalParameter

/-- Whether an argument that is given by position can go to the parameter alone. -/
def isPositional (p : FormalParameter) : Bool :=
  p.kind == .positionalOnly || p.kind == .positionalOrKeyword

/-- Whether the parameter takes any number of arguments. -/
def isVariadic (p : FormalParameter) : Bool :=
  p.kind == .variadicPositional || p.kind == .variadicKeyword

end FormalParameter

namespace Signature

/-- The parameters of a function are in the order of their kinds and have different names. -/
structure IsWellFormed (sig : Signature) : Prop where
  ordered : sig.Pairwise fun p q => p.kind.place ≤ q.kind.place
  nodup : (sig.map (·.name)).Nodup

/-- The parameters that a number of arguments given by position go to. -/
def takers (sig : Signature) (count : Nat) : Signature :=
  (sig.filter (·.isPositional)).take count

/-- The rules of a call with a number of arguments by position and with keywords. -/
structure Binds (sig : Signature) (count : Nat) (keywords : List String) : Prop where
  /-- There is a parameter for each argument that is given by position. -/
  placed : count ≤ (sig.filter (·.isPositional)).length ∨
    ∃ p ∈ sig, p.kind = .variadicPositional
  /-- No parameter is given twice. -/
  once : ∀ p ∈ sig.takers count, p.kind = .positionalOrKeyword → p.name ∉ keywords
  /-- There is a parameter for each keyword. -/
  expected : ∀ k ∈ keywords, (∃ p ∈ sig, Callable.isNamed p = true ∧ p.name = k) ∨
    ∃ p ∈ sig, p.kind = .variadicKeyword
  /-- No parameter is missing that has no default. -/
  complete : ∀ p ∈ sig, p.isVariadic = false → p.hasDefault = false →
    p ∈ sig.takers count ∨ (Callable.isNamed p = true ∧ p.name ∈ keywords)

/-- The rules look at no more than which keywords there are. -/
theorem Binds.of_keywords {sig : Signature} {count : Nat} {ks ls : List String}
    (h : sig.Binds count ks) (hsame : ∀ k, k ∈ ks ↔ k ∈ ls) : sig.Binds count ls where
  placed := h.placed
  once p hp hkind hmem := h.once p hp hkind ((hsame _).mpr hmem)
  expected k hk := h.expected k ((hsame k).mpr hk)
  complete p hp hvariadic hdefault :=
    (h.complete p hp hvariadic hdefault).imp_right (And.imp_right (hsame _).mp)

end Signature

namespace Callable

/-- A callable is a function with a signature under layers of partial applications and methods. -/
inductive IsOver (header : FunctionHeader) (sig : Signature) : Callable → Prop
  | function : IsOver header sig (.function header sig)
  | partialApplication {inner} (count keywords) (hinner : IsOver header sig inner) :
      IsOver header sig (.partialApplication inner count keywords)
  | method {inner} (hinner : IsOver header sig inner) : IsOver header sig (.method inner)

/-- The number of arguments that the layers give by position, receivers among them. -/
def given : Callable → Nat
  | .partialApplication inner count _ => inner.given + count
  | .method inner => inner.given + 1
  | _ => 0

/-- A call of a callable can be bound. A partial application is called with its own arguments and
those of the call, and a method with the receiver as well. -/
def Accepts : Callable → Nat → List String → Prop
  | .function _ sig, count, keywords => sig.Binds count keywords
  | .partialApplication inner own ks, count, keywords =>
    inner.Accepts (own + count) (ks ++ keywords)
  | .method inner, count, keywords => inner.Accepts (1 + count) keywords
  | .wrapper _ inner, count, keywords => inner.Accepts count keywords
  | .other, _, _ => False

variable {header : FunctionHeader} {sig : Signature} {f : Callable}

/-- **A call reaches the function with the arguments of all layers.** -/
theorem IsOver.accepts_iff (hf : f.IsOver header sig) {count : Nat} {keywords : List String} :
    f.Accepts count keywords ↔ sig.Binds (f.given + count) (f.suppliedKeywords ++ keywords) := by
  induction hf generalizing count keywords with
  | function => simp only [Accepts, given, suppliedKeywords, Nat.zero_add, List.nil_append]
  | @partialApplication inner own ks _ ih =>
    have hsame : ∀ k, k ∈ inner.suppliedKeywords ++ (ks ++ keywords) ↔
        k ∈ ks ++ inner.suppliedKeywords ++ keywords := by
      intro k
      simp only [List.mem_append]
      tauto
    rw [Accepts, ih, given, suppliedKeywords, Nat.add_assoc]
    exact ⟨fun h => h.of_keywords hsame, fun h => h.of_keywords fun k => (hsame k).symm⟩
  | method _ ih => rw [Accepts, ih, given, suppliedKeywords, Nat.add_assoc]

end Callable

end HandlerBundle
