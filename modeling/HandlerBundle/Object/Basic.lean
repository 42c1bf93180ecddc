import HandlerBundle.Binding.Attribute
import HandlerBundle.Constant
import HandlerBundle.Handler.Callable

/-!
# Objects

The values that handlers are bound to form a graph of objects: functions with the globals that
their code names, closure cells and defaults; partial applications and methods; classes and
instances; containers; and constants. A *heap* holds the objects, and an object refers to others by
their place in it, so that objects can be shared and cycles are possible.

## Main definitions

* `Code` — the code of a function, with that of the functions nested in it.
* `Attached` — what is attached to a function in the place of its attributes.
* `Candidate` — a value to be called, with its description and its attributes.
* `Object`, `FunctionObject`, `PartialObject`, `ClassObject`, `InstanceObject`.
* `Heap` — the objects; `Heap.alloc`, `Heap.object?`, `Heap.replace`.
* `Heap.ancestors` — the classes above a class, in the order in which members are looked up.
-/

namespace HandlerBundle

/-- The module of the built-in classes and functions, and of the root of all classes. -/
def rootModule : String := "builtins"

/-- The place of an object in a heap. -/
abbrev ObjectId := Nat

/-- The code of a function: the names that it uses, and the code of the functions nested in it. -/
inductive Code where
  | mk (own : List String) (nested : List Code)
  deriving Inhabited

namespace Code

mutual

/-- The names that a code and those nested in it use. -/
def names : Code → List String
  | .mk own nested => own ++ namesOf nested

/-- The names that several codes and those nested in them use. -/
def namesOf : List Code → List String
  | [] => []
  | c :: cs => c.names ++ namesOf cs

end

/-- Code that uses no names. -/
def empty : Code := .mk [] []

end Code

/-- What is attached to a function in the place of its attributes. -/
inductive Attached where
  /-- Something that can be gone through, with the attributes in it. -/
  | listed (attributes : List Attribute)
  /-- Something that cannot be gone through, by the name of its class. -/
  | single (className : String)

namespace Attached

/-- The attributes in what is attached. -/
def attributes : Attached → Except Failure (List Attribute)
  | .listed attributes => .ok attributes
  | .single className =>
    .error ⟨.foreign "TypeError", quoted className ++ " object is not iterable"⟩

end Attached

/-- A value to be called, with its description and its attributes. -/
structure Candidate where
  value : ObjectId
  handler : Descriptor
  attributes : List Attribute

/-- A function: what it says of itself, and what it refers to. -/
structure FunctionObject where
  name : String
  /-- The module that declares the function, if it names one. -/
  module : Option String
  qualname : String
  isAsync : Bool
  signature : Signature
  annotations : List (String × Annotation) := []
  /-- Where the texts of the annotations are looked up. -/
  hintScope : Scope := .empty
  /-- The callable whose signature the function shows. -/
  wrapped : Option ObjectId := none
  attached : Attached := .listed []
  code : Code := .empty
  globals : List (String × ObjectId) := []
  /-- The closure cells; a cell may be empty. -/
  cells : List (Option ObjectId) := []
  defaults : List ObjectId := []
  keywordDefaults : List ObjectId := []

/-- A partial application: a function with some of its arguments, and attributes of its own. -/
structure PartialObject where
  func : ObjectId
  args : List ObjectId
  keywords : List (String × ObjectId)
  attributes : List (String × ObjectId) := []

/-- The slots that a class declares: a list of names, or a single name. -/
inductive SlotDeclaration where
  | single (name : String)
  | listed (names : List String)

namespace SlotDeclaration

/-- The names of the slots, as they are written. -/
def written : SlotDeclaration → List String
  | .single name => [name]
  | .listed names => names

/-- What is met when the declaration is gone through: of a single name its characters. -/
def entries : SlotDeclaration → List String
  | .single name => name.toList.map fun c => String.ofList [c]
  | .listed names => names

end SlotDeclaration

/-- A class declared by a program. -/
structure ClassObject where
  name : String
  /-- The module that declares the class, if it names one. -/
  module : Option String
  qualname : String
  bases : List ObjectId
  members : List (String × ObjectId)
  slots : Option SlotDeclaration

/-- Whether a name is private to the class in which it is written. -/
def isPrivateName (name : String) : Bool :=
  "__".toList.isPrefixOf name.toList && !"__".toList.isSuffixOf name.toList

/-- The name that a private name of a class stands for. -/
def mangledName (className name : String) : String :=
  let stripped := String.ofList (className.toList.dropWhile (· == '_'))
  if isPrivateName name && !stripped.isEmpty then "_" ++ stripped ++ name else name

/-- The names of the slots that a class declares. -/
def ClassObject.slotNames (c : ClassObject) : List String :=
  match c.slots with
  | some d => d.written.map (mangledName c.name)
  | none => []

/-- An instance of a class. -/
structure InstanceObject where
  cls : ObjectId
  /-- The attributes in the dictionary of the instance. -/
  attributes : List (String × ObjectId) := []
  /-- The attributes in slots. -/
  slotted : List (String × ObjectId) := []
  /-- The value as such of an instance of a class that derives from a built-in one. -/
  payload : Option ObjectId := none
  /-- The failure of looking at the attributes. -/
  fault : Option Failure := none
  /-- What the instance says, if it is a ready-made candidate. -/
  candidate : Option Candidate := none

/-- An object. -/
inductive Object where
  | constant (c : Constant)
  | byteArray (bs : Bytes)
  | list (items : List ObjectId)
  | tuple (items : List ObjectId)
  | set (items : List ObjectId)
  | frozenSet (items : List ObjectId)
  | dict (entries : List (ObjectId × ObjectId))
  | module (name : String)
  | function (f : FunctionObject)
  /-- A function of the runtime; a method bound to a value has no module. -/
  | builtin (name : String) (module : Option String)
  | partialApplication (p : PartialObject)
  | method (func receiver : ObjectId)
  | staticMethod (func : ObjectId)
  | classMethod (func : ObjectId)
  /-- A property with the accessors it has. -/
  | property (accessors : List ObjectId)
  | cls (c : ClassObject)
  /-- A class that annotations can name. -/
  | annotationClass (c : Class)
  | instance_ (i : InstanceObject)
  /-- An annotation that is not a class. -/
  | form (t : Annotation)

/-- The objects of a graph. -/
structure Heap where
  objects : Array Object

namespace Heap

/-- No objects. -/
def empty : Heap := ⟨#[]⟩

/-- The object at a place. -/
def object? (h : Heap) (id : ObjectId) : Option Object :=
  h.objects[id]?

/-- Adds an object. -/
def alloc (h : Heap) (o : Object) : Heap × ObjectId :=
  (⟨h.objects.push o⟩, h.objects.size)

/-- Puts another object in a place. -/
def replace (h : Heap) (id : ObjectId) (o : Object) : Heap :=
  ⟨h.objects.setIfInBounds id o⟩

/-- The number of objects. -/
def size (h : Heap) : Nat := h.objects.size

/-- An object has a place below the number of objects. -/
theorem lt_size_of_object?_eq_some {h : Heap} {id : ObjectId} {o : Object}
    (ho : h.object? id = some o) : id < h.size :=
  (Array.getElem?_eq_some_iff.mp ho).1

/-- Whether two objects are equal as keys: constants by value, tuples and frozen sets by their
items, anything else only if it is the same. The fuel bounds the depth. -/
def equalKeys (h : Heap) : Nat → ObjectId → ObjectId → Bool
  | 0, a, b => a == b
  | fuel + 1, a, b =>
    a == b ||
    match h.object? a, h.object? b with
    | some (.constant c), some (.constant d) => c.same d
    | some (.tuple xs), some (.tuple ys) =>
      xs.length == ys.length && (xs.zip ys).all fun p => h.equalKeys fuel p.1 p.2
    | some (.frozenSet xs), some (.frozenSet ys) =>
      xs.length == ys.length && xs.all fun x => ys.any fun y => h.equalKeys fuel x y
    | _, _ => false

/-- Puts an entry among those of a dictionary: an equal key keeps its place and takes the new
value. -/
def putEntry (h : Heap) (entries : List (ObjectId × ObjectId)) (key value : ObjectId) :
    List (ObjectId × ObjectId) :=
  if entries.any fun e => h.equalKeys h.size e.1 key then
    entries.map fun e => if h.equalKeys h.size e.1 key then (e.1, value) else e
  else entries ++ [(key, value)]

/-- Puts an item among those of a set, unless an equal one is there. -/
def putItem (h : Heap) (items : List ObjectId) (item : ObjectId) : List ObjectId :=
  if items.any fun i => h.equalKeys h.size i item then items else items ++ [item]

/-- Merges orders of classes into one: of their first classes the first one is taken that stands
behind no other in any of them. Where there is none, as no program can declare it, the very first
one is taken. The fuel bounds the number of classes. -/
def mergeOrders : Nat → List (List ObjectId) → List ObjectId
  | 0, _ => []
  | fuel + 1, orders =>
    let heads := orders.filterMap (·.head?)
    let isFree := fun head => orders.all fun order => !order.tail.contains head
    match (heads.find? isFree).or heads.head? with
    | some next => next :: mergeOrders fuel (orders.map fun order => order.filter (· != next))
    | none => []

/-- The classes above a class, in the order in which members are looked up; the fuel bounds the
depth. -/
def ancestors (h : Heap) : Nat → ObjectId → List ObjectId
  | 0, _ => []
  | fuel + 1, id =>
    match h.object? id with
    | some (.cls c) =>
      let orders := c.bases.map (fun base => base :: h.ancestors fuel base) ++ [c.bases]
      mergeOrders orders.flatten.length orders
    | _ => []

/-- A class with those above it, in the order in which members are looked up. -/
def resolutionOrder (h : Heap) (id : ObjectId) : List ObjectId :=
  id :: h.ancestors h.size id

/-- A member of a class or of the nearest class above it that has one of the name. -/
def classMember? (h : Heap) (id : ObjectId) (name : String) : Option ObjectId :=
  (h.resolutionOrder id).findSome? fun a =>
    match h.object? a with
    | some (.cls c) => (c.members.find? fun m => m.1 == name).map Prod.snd
    | _ => none

/-- Whether an object can be called: instances if their class says how; of annotations, aliases and
new types. -/
def isCallable (h : Heap) (id : ObjectId) : Bool :=
  match h.object? id with
  | some (.instance_ i) => (h.classMember? i.cls "__call__").isSome
  | some (.function _) | some (.builtin ..) | some (.partialApplication ..) | some (.method ..)
  | some (.cls _) | some (.annotationClass _) | some (.staticMethod _) => true
  | some (.form t) =>
    match t with
    | .bare _ | .generic .. | .union .aliased _ | .literal _ | .annotated .. => true
    | .form (.newType ..) | .form (.special _) | .form (.function _) => true
    | _ => false
  | _ => false

/-- Calls for something to be called. -/
def notCallable (subject : String) : Failure :=
  ⟨.foreign "TypeError", subject ++ " must be callable"⟩

/-- A partial application. One of a partial application without attributes is a single one with the
arguments of both; a keyword given twice has its last value. -/
def partialOf (h : Heap) (func : ObjectId) (args : List ObjectId)
    (keywords : List (String × ObjectId)) : Except Failure Object :=
  match h.object? func with
  | some (.partialApplication ⟨f, xs, ks, []⟩) =>
    let merged := keywords.foldl (fun done k =>
      if done.any fun d => d.1 == k.1 then
        done.map fun d => if d.1 == k.1 then k else d
      else done ++ [k]) ks
    .ok (.partialApplication { func := f, args := xs ++ args, keywords := merged })
  | _ =>
    if h.isCallable func then .ok (.partialApplication { func, args, keywords })
    else .error (notCallable "the first argument")

/-- A method of a receiver, which is not the absent value. -/
def methodOf (h : Heap) (func receiver : ObjectId) : Except Failure Object :=
  if !h.isCallable func then .error (notCallable "first argument")
  else
    match h.object? receiver with
    | some (.constant .none) => .error ⟨.foreign "TypeError", "self must not be None"⟩
    | _ => .ok (.method func receiver)

/-- What a function says of itself. -/
def header (f : FunctionObject) : FunctionHeader where
  name := f.name
  module := f.module.getD "None"
  qualname := f.qualname
  isAsync := f.isAsync
  annotations := f.annotations
  hintScope := f.hintScope

/-- An object as something to be called. The fuel bounds the number of layers. -/
def callable (h : Heap) : Nat → ObjectId → Callable
  | 0, _ => .other
  | fuel + 1, id =>
    match h.object? id with
    | some (.function f) =>
      match f.wrapped with
      | none => .function (header f) f.signature
      | some inner => .wrapper (header f) (h.callable fuel inner)
    | some (.partialApplication p) =>
      .partialApplication (h.callable fuel p.func) p.args.length (p.keywords.map Prod.fst)
    | some (.method func _) => .method (h.callable fuel func)
    | _ => .other

/-- The function under the layers of partial applications and methods. -/
def underlying? (h : Heap) : Nat → ObjectId → Option FunctionObject
  | 0, _ => none
  | fuel + 1, id =>
    match h.object? id with
    | some (.function f) => some f
    | some (.partialApplication p) => h.underlying? fuel p.func
    | some (.method func _) => h.underlying? fuel func
    | _ => none

/-- Whether instances of the built-in class count as constants. -/
def isConstantClass (k : KnownClass) : Bool :=
  [KnownClass.str, .bytes, .bytearray, .int, .float, .complex, .bool].contains k

/-- Whether instances of the built-in class count as containers. -/
def isContainerClass (k : KnownClass) : Bool :=
  [KnownClass.dict, .list, .tuple, .set, .frozenset, .orderedDict, .defaultdict].contains k

/-- The built-in class of constants or containers that a class derives from, whose instances have a
value as such. -/
def nativeClass? (h : Heap) (id : ObjectId) : Option KnownClass :=
  (h.resolutionOrder id).findSome? fun a =>
    match h.object? a with
    | some (.annotationClass c) =>
      c.knownSupers.find? fun k => isConstantClass k || isContainerClass k
    | _ => none

/-- What the walk finds in an object of a built-in class: the items of a container, or its keys and
then its values; the function of a partial application and its arguments; the functions of methods
and properties. -/
def contents : Object → List ObjectId
  | .list items | .tuple items | .set items | .frozenSet items => items
  | .dict entries => entries.map Prod.fst ++ entries.map Prod.snd
  | .partialApplication p => p.func :: (p.args ++ p.keywords.map Prod.snd)
  | .staticMethod func | .classMethod func => [func]
  | .property accessors => accessors
  | _ => []

/-- What an instance holds in its value as such. -/
def payloadContents (h : Heap) (i : InstanceObject) : List ObjectId :=
  ((i.payload.bind h.object?).map contents).getD []

/-- The names of the slots that an instance of a class has. -/
def slotNames (h : Heap) (id : ObjectId) : List String :=
  (h.resolutionOrder id).flatMap fun a =>
    match h.object? a with
    | some (.cls c) => c.slotNames
    | _ => []

/-- What is met when the slots that a class declares, if it does, are gone through. -/
def declaredEntries? (h : Heap) (id : ObjectId) : Option (List String) :=
  match h.object? id with
  | some (.cls c) => c.slots.map SlotDeclaration.entries
  | some (.annotationClass c) => c.slots?
  | _ => none

/-- What is met when the nearest declaration of slots is gone through. -/
def slotEntries (h : Heap) (id : ObjectId) : List String :=
  ((h.resolutionOrder id).findSome? h.declaredEntries?).getD []

end Heap

end HandlerBundle
