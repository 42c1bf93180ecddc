/-!
# Call signatures

A signature is the list of formal parameters of a callable. A bound method leaves out the parameter
that takes the receiver. A partial application leaves out what it gives by position; a parameter it
gives by keyword can from then on only be given by keyword, and so can all that follow it.

## Main definitions

* `ParameterKind`, `FormalParameter`, `SignatureError`.
* `Signature.dropReceiver`, `Signature.apply` — the signature of a method and of a partial
  application.
-/

namespace HandlerBundle

/-- How a formal parameter takes its argument. -/
inductive ParameterKind where
  | positionalOnly
  | positionalOrKeyword
  | variadicPositional
  | keywordOnly
  | variadicKeyword
  deriving DecidableEq, Repr

/-- A formal parameter of a callable. -/
structure FormalParameter where
  name : String
  kind : ParameterKind
  hasDefault : Bool
  deriving DecidableEq, Repr

/-- Why a callable has no signature. -/
inductive SignatureError where
  | noReceiver
  | wrongArguments
  deriving DecidableEq, Repr

/-- The formal parameters of a callable, in order. -/
abbrev Signature := List FormalParameter

namespace Signature

/-- The signature of a method: the receiver takes the first positional parameter, or goes into a
variadic one. -/
def dropReceiver : Signature → Except SignatureError Signature
  | [] => .error .noReceiver
  | p :: rest =>
    match p.kind with
    | .keywordOnly | .variadicKeyword => .error .noReceiver
    | .positionalOnly | .positionalOrKeyword => .ok rest
    | .variadicPositional => .ok (p :: rest)

/-- Gives `count` positional arguments and returns the names that take them with the parameters
left over. An argument whose parameter is also given by keyword is one too many. -/
def takePositional (keywords : List String) :
    Nat → Signature → Except SignatureError (List String × Signature)
  | 0, ps => .ok ([], ps)
  | _ + 1, [] => .error .wrongArguments
  | count + 1, p :: ps =>
    match p.kind with
    | .keywordOnly | .variadicKeyword => .error .wrongArguments
    | .variadicPositional => .ok ([], ps)
    | .positionalOnly => do
      let (taken, left) ← takePositional keywords count ps
      return (p.name :: taken, left)
    | .positionalOrKeyword =>
      if keywords.contains p.name then .error .wrongArguments
      else do
        let (taken, left) ← takePositional keywords count ps
        return (p.name :: taken, left)

/-- Whether the keywords can be given to the parameters left over: none names a positional-only
parameter, and each names a parameter unless there is a variadic one for the others. -/
def acceptsKeywords (keywords : List String) (left : Signature) : Bool :=
  let named := left.filter fun p =>
    p.kind == .positionalOrKeyword || p.kind == .keywordOnly
  let misplaced := left.any fun p => p.kind == .positionalOnly && keywords.contains p.name
  let takesAny := left.any fun p => p.kind == .variadicKeyword
  !misplaced && (takesAny || keywords.all fun k => named.any fun p => p.name == k)

/-- What remains of the parameters after a partial application: those `taken` by position go, and
from the first positional one given by keyword on the rest becomes keyword-only, without a variadic
positional one. -/
def remaining (taken keywords : List String) (closed : Bool) : Signature → Signature × Signature
  | [] => ([], [])
  | p :: ps =>
    let isTaken := taken.contains p.name
    match p.kind with
    | .positionalOnly =>
      let (kept, moved) := remaining taken keywords closed ps
      (if isTaken then kept else p :: kept, moved)
    | .positionalOrKeyword =>
      if isTaken then remaining taken keywords closed ps
      else
        let closed := closed || keywords.contains p.name
        let p := if keywords.contains p.name then { p with hasDefault := true } else p
        let (kept, moved) := remaining taken keywords closed ps
        if closed then (kept, { p with kind := .keywordOnly } :: moved) else (p :: kept, moved)
    | .variadicPositional =>
      let (kept, moved) := remaining taken keywords closed ps
      if closed then (kept, moved) else (p :: kept, moved)
    | .keywordOnly =>
      let p := if keywords.contains p.name then { p with hasDefault := true } else p
      let (kept, moved) := remaining taken keywords closed ps
      if closed then (kept, p :: moved) else (p :: kept, moved)
    | .variadicKeyword =>
      let (kept, moved) := remaining taken keywords closed ps
      if closed then (kept, p :: moved) else (p :: kept, moved)

/-- The signature of a partial application with `count` positional arguments and keywords. -/
def apply (sig : Signature) (count : Nat) (keywords : List String) :
    Except SignatureError Signature := do
  let (taken, left) ← takePositional keywords count sig
  if acceptsKeywords keywords left then
    let (kept, moved) := remaining taken keywords false sig
    return kept ++ moved
  else .error .wrongArguments

end Signature

end HandlerBundle
