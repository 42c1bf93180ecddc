import HandlerBundle.Object.Display

/-!
# Wrappers

A decorator may put a function in the place of the one that it decorates. The wrapper then takes
over what the wrapped object says of itself: its names, its annotations and what is attached to it.
It shows the signature of the wrapped object, and keeps its own code.

## Main definitions

* `Heap.attachedTo` — what a class has in the place of attributes.
* `Heap.wrapping` — a wrapper that has taken over what the wrapped object says of itself.
-/

namespace HandlerBundle

/-- The name under which attributes are attached. -/
def attachedName : String := "__funcpack_attributes__"

namespace Heap

/-- What a class has in the place of attributes, where no object of a graph is an attribute. -/
def attachedTo (h : Heap) (c : ClassObject) : Attached :=
  match c.members.lookup attachedName with
  | none => .listed []
  | some id =>
    match h.object? id with
    | some (.constant (.text _)) | some (.constant (.bytes _)) | some (.byteArray _)
    | some (.list _) | some (.tuple _) | some (.set _) | some (.frozenSet _) | some (.dict _) =>
      .listed []
    | _ => .single (h.className id)

/-- What an object says of itself is put in the place of what a wrapper says. A method speaks for
its function. The fuel bounds the number of methods. -/
def takeOver (h : Heap) (wrapper : FunctionObject) : Nat → ObjectId → FunctionObject
  | 0, _ => wrapper
  | fuel + 1, id =>
    match h.object? id with
    | some (.function f) =>
      { wrapper with
        name := f.name, module := f.module, qualname := f.qualname
        annotations := f.annotations, hintScope := f.hintScope, attached := f.attached }
    | some (.method func _) => h.takeOver wrapper fuel func
    | some (.builtin name module) => { wrapper with name, module, qualname := name }
    | some (.cls c) =>
      { wrapper with
        name := c.name, module := c.module, qualname := c.qualname, attached := h.attachedTo c }
    | some (.annotationClass c) =>
      { wrapper with name := c.name, module := some c.module, qualname := c.qualname }
    | _ => wrapper

/-- A wrapper that has taken over what the wrapped object says of itself. -/
def wrapping (h : Heap) (wrapper : FunctionObject) (inner : ObjectId) : FunctionObject :=
  { h.takeOver wrapper h.size inner with wrapped := some inner }

end Heap

end HandlerBundle
