import HandlerBundle.Object.Basic

/-!
# Comparing objects

Containers are compared by what they hold, byte strings whether or not they can change, and sets
likewise; constants are compared by value, and anything else is equal only to itself. A container
without items, zero, the empty text and the absent value count as false.

## Main definitions

* `Heap.equalValues` — equality of objects.
* `Heap.isTrue` — whether an object counts as true.
-/

namespace HandlerBundle

namespace Constant

/-- Whether a constant counts as true. -/
def isTrue : Constant → Bool
  | .none => false
  | .text s => !s.isEmpty
  | .bytes bs => !bs.isEmpty
  | .ellipsis => true
  | c => c.integer? != some 0

end Constant

namespace Heap

/-- The object whose value stands for an object: of an instance with a value as such, that value. -/
def valueOf (h : Heap) (id : ObjectId) : ObjectId :=
  match h.object? id with
  | some (.instance_ i) => i.payload.getD id
  | _ => id

/-- The constant whose value stands for an object. -/
def constant? (h : Heap) (id : ObjectId) : Option Constant :=
  match h.object? (h.valueOf id) with
  | some (.constant c) => some c
  | _ => none

/-- Whether an object counts as true. -/
def isTrue (h : Heap) (id : ObjectId) : Bool :=
  match h.object? (h.valueOf id) with
  | some (.constant c) => c.isTrue
  | some (.byteArray bs) => !bs.isEmpty
  | some (.list items) | some (.tuple items) | some (.set items) | some (.frozenSet items) =>
    !items.isEmpty
  | some (.dict entries) => !entries.isEmpty
  | _ => true

/-- The bytes of a byte string, whether or not it can change. -/
def bytes? : Object → Option Bytes
  | .constant (.bytes bs) | .byteArray bs => some bs
  | _ => none

/-- The items of a set, whether or not it can change. -/
def setItems? : Object → Option (List ObjectId)
  | .set items | .frozenSet items => some items
  | _ => none

/-- Whether two objects are equal. The fuel bounds the depth. -/
def equalAt (h : Heap) : Nat → ObjectId → ObjectId → Bool
  | 0, a, b => a == b
  | fuel + 1, a, b =>
    let same := h.equalAt fuel
    a == b ||
    match h.object? (h.valueOf a), h.object? (h.valueOf b) with
    | some (.constant c), some (.constant d) => c.same d
    | some (.list xs), some (.list ys) | some (.tuple xs), some (.tuple ys) =>
      xs.length == ys.length && (xs.zip ys).all fun p => same p.1 p.2
    | some (.dict xs), some (.dict ys) =>
      xs.length == ys.length &&
        xs.all fun x => ys.any fun y => same x.1 y.1 && same x.2 y.2
    | some o, some p =>
      match setItems? o, setItems? p with
      | some xs, some ys => xs.length == ys.length && xs.all fun x => ys.any (same x)
      | _, _ =>
        match bytes? o, bytes? p with
        | some bs, some cs => bs == cs
        | _, _ => false
    | _, _ => false

/-- Whether two objects are equal. -/
def equalValues (h : Heap) (a b : ObjectId) : Bool :=
  h.equalAt (h.size + 1) a b

end Heap

end HandlerBundle
