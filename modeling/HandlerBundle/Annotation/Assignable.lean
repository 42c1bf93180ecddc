import HandlerBundle.Annotation.Basic

/-!
# Assignability

Whether a value declared with one annotation satisfies a slot declared with another. Classes follow
the subclass relation. Generics must agree in what they are built over, or be counted under it, and
match in their arguments; wrappers of a deferred result only compare the results, and by the same
relation.

## Main definitions

* `Annotation.isAssignable` — the relation.
* `Annotation.isAssignableToSome`, `Annotation.withDeferred` — lists of allowed annotations, and
  the same list with each deferred form beside the plain one.
-/

namespace HandlerBundle

namespace Annotation

/-- The class of values whose result is awaited. -/
def awaitable : Class := .known .awaitable

/-- Whether a generic built over this wraps a deferred result. -/
def isDeferred (origin : Annotation) : Bool :=
  origin.isSubclass (.cls awaitable)

/-- The result of a wrapper: its last argument. -/
def result? : Annotation → Option Annotation
  | .generic _ _ ts => ts.getLast?
  | _ => none

theorem sizeOf_result?_lt {t u : Annotation} (h : t.result? = some u) : sizeOf u < sizeOf t := by
  cases t with
  | generic spelling c ts =>
    have hu := List.mem_of_getLast? h
    have := List.sizeOf_lt_of_mem hu
    simp only [generic.sizeOf_spec]
    omega
  | _ => simp [result?] at h

/-- Whether two lists of arguments are equal, the absent value counting as its class. -/
def sameArgs (ts us : List Annotation) : Bool :=
  sameList (ts.map normal) (us.map normal)

/-- Whether a value declared with the first annotation satisfies a slot declared with the second. -/
def isAssignable (t target : Annotation) : Bool :=
  if t.normal.same target.normal || target.normal.same any then true
  else
    match t.origin?, target.origin? with
    | none, none => t.normal.isSubclass target.normal
    | some o, none => o.isSubclass target.normal
    | none, some _ => false
    | some o, some p =>
      if !(o.same p || o.isSubclass p) then false
      else if target.args.isEmpty then true
      else if isDeferred p then
        match _h : t.result?, target.result? with
        | some r, some s => isAssignable r s
        | _, _ => false
      else sameArgs t.args target.args
termination_by sizeOf t
decreasing_by exact sizeOf_result?_lt _h

/-- Whether an annotation satisfies one of the allowed ones. -/
def isAssignableToSome (t : Annotation) (allowed : List Annotation) : Bool :=
  allowed.any (isAssignable t)

/-- A deferred result. -/
def deferred (t : Annotation) : Annotation :=
  .generic .direct awaitable [t]

/-- Each allowed annotation, followed by its deferred form. -/
def withDeferred (ts : List Annotation) : List Annotation :=
  ts.flatMap fun t => [t.normal, deferred t.normal]

end Annotation

end HandlerBundle
