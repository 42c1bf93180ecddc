import HandlerBundle.Binding.Resolution
import HandlerBundle.Object.Basic

/-!
# Candidates

A candidate is a value that the host may be given to call, with its description and its attributes.
Most are made from a function, possibly under partial applications and methods; a ready-made
candidate stands for itself.

## Main definitions

* `Heap.candidate` — the candidate that an object is or makes.
* `Heap.elements`, `Heap.candidates` — the elements of an input, which is a sequence or a single
  one, and the candidates that they are or make.
-/

namespace HandlerBundle

namespace Heap

/-- The failure of a description. -/
def describeFailure (cause : DescribeError) : Failure :=
  ⟨.inputShape, cause.message⟩

/-- The description of an object. -/
def describe (h : Heap) (id : ObjectId) : Except Failure Descriptor :=
  match (h.callable h.size id).describe? with
  | .ok handler => .ok handler
  | .error cause => .error (describeFailure cause)

/-- The ready-made candidate that an object is. -/
def ready? (h : Heap) (id : ObjectId) : Option Candidate :=
  match h.object? id with
  | some (.instance_ i) => i.candidate
  | _ => none

/-- The candidate that an object is or makes. -/
def candidate (h : Heap) (id : ObjectId) : Except Failure Candidate :=
  match h.ready? id with
  | some c => .ok c
  | none =>
    match h.underlying? h.size id with
    | some f => do
      let handler ← h.describe id
      return ⟨id, handler, ← f.attached.attributes⟩
    | none => .error (describeFailure .notAFunction)

/-- The elements of an input: the items of a list or tuple, also of one of a derived class, or the
input itself. -/
def elements (h : Heap) (id : ObjectId) : List ObjectId :=
  match h.object? id with
  | some (.list items) | some (.tuple items) => items
  | some (.instance_ i) =>
    match h.nativeClass? i.cls with
    | some .list | some .tuple => h.payloadContents i
    | _ => [id]
  | _ => [id]

/-- The candidates of an input. -/
def candidates (h : Heap) (id : ObjectId) : Except Failure (List Candidate) :=
  (h.elements id).mapM h.candidate

end Heap

end HandlerBundle
