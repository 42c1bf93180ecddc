import HandlerBundle.Snapshot.Read
import HandlerBundle.Snapshot.Save

/-!
# Loading a value

A snapshot is run on a stack that is cut into sections by its marks. Each object that an
instruction makes is put into the heap, and containers are filled in place. A name is looked up
among the modules at hand; of the objects of the runtime those are known that saving writes.

## Main definitions

* `Machine` — the state of a run.
* `Machine.step` — what one instruction does.
* `Heap.load` — the value of a snapshot.
-/

namespace HandlerBundle

/-- The state of a run: the objects, the stack with its top first and below it the sections under
the marks, and the remembered objects by their places, with the number of places in use. -/
structure Machine where
  heap : Heap
  top : List ObjectId
  below : List (List ObjectId)
  memo : List (Nat × ObjectId)
  places : Nat

/-- Steps of loading. -/
abbrev Load := StateT Machine (Except LoadError)

namespace Load

/-- Puts an object on the stack. -/
def push (id : ObjectId) : Load Unit :=
  modify fun m => { m with top := id :: m.top }

/-- Puts a new object on the stack. -/
def pushNew (o : Object) : Load Unit :=
  modify fun m =>
    let (heap, id) := m.heap.alloc o
    { m with heap, top := id :: m.top }

/-- The failure of asking for an object in an empty section. -/
def underflow : Load ObjectId := do
  throw (if (← get).below.isEmpty then .stackUnderflow else .unexpectedMark)

/-- Takes the object on top. -/
def pop : Load ObjectId := do
  let m ← get
  match m.top with
  | id :: rest =>
    set { m with top := rest }
    return id
  | [] => underflow

/-- The object on top. -/
def peek : Load ObjectId := do
  match (← get).top with
  | id :: _ => return id
  | [] => underflow

/-- Takes what is above the last mark, lowest first, and the mark. -/
def popMarked : Load (List ObjectId) := do
  let m ← get
  match m.below with
  | section_ :: below =>
    set { m with top := section_, below }
    return m.top.reverse
  | [] => throw .markMissing

/-- Takes a number of objects, lowest first. -/
def popSeveral : Nat → List ObjectId → Load (List ObjectId)
  | 0, ids => return ids
  | count + 1, ids => do
    let id ← pop
    popSeveral count (id :: ids)

/-- The object at a place of the heap. -/
def object (id : ObjectId) : Load Object := do
  match (← get).heap.object? id with
  | some o => return o
  | none => throw .stackUnderflow

/-- The kind of an object. -/
def kindOf (id : ObjectId) : Load String := do
  return (← get).heap.className id

/-- Changes an object in place. -/
def replace (id : ObjectId) (o : Object) : Load Unit :=
  modify fun m => { m with heap := m.heap.replace id o }

end Load

namespace Heap

/-- The kind of the object in a key that can change, and so cannot be part of one. The fuel bounds
the depth. -/
def changeable? (h : Heap) : Nat → ObjectId → Option String
  | 0, _ => none
  | fuel + 1, id =>
    match h.object? id with
    | some (.list _) | some (.dict _) | some (.set _) | some (.byteArray _) => some (h.className id)
    | some (.tuple items) => items.findSome? (h.changeable? fuel)
    | _ => none

/-- The class of a name in a module, among those that are known. -/
def knownClass? (module name : String) : Option KnownClass :=
  KnownClass.all.find? fun k => k.module == module && k.name == name

/-- The object of a name in a module: one that the module holds, or one of the runtime. -/
def resolveName (h : Heap) (table : ModuleTable) (module name : String) :
    Except LoadError (Heap × ObjectId) :=
  match table.member? module name with
  | some id => .ok (h, id)
  | none =>
    match knownClass? module name with
    | some k => .ok (h.alloc (.annotationClass (.known k)))
    | none =>
      if module == rootModule && name == "Ellipsis" then .ok (h.alloc (.constant .ellipsis))
      else if (table.find? module).isNone && isStandardModule (topName module) then
        .ok (h.alloc (.builtin name (some module)))
      else if isAtHand table module then .error (.nameMissing name (displayModule table module))
      else .error (.moduleMissing module)

/-- The attribute of an object. -/
def attributeOf? (h : Heap) (id : ObjectId) (name : String) : Option (Heap × ObjectId) :=
  match h.object? id with
  | some (.instance_ i) =>
    match (i.attributes ++ i.slotted).find? fun m => m.1 == name with
    | some m => some (h, m.2)
    | none =>
      (h.classMember? i.cls name).map fun member =>
        match h.object? member with
        | some (.staticMethod func) => (h, func)
        | some (.classMethod func) => h.alloc (.method func i.cls)
        | some (.function _) => h.alloc (.method member id)
        | _ => (h, member)
  | some (.cls _) =>
    (h.classMember? id name).map fun member =>
      match h.object? member with
      | some (.staticMethod func) => (h, func)
      | some (.classMethod func) => h.alloc (.method func id)
      | _ => (h, member)
  | some (.constant (.text _)) => some (h.alloc (.builtin name none))
  | _ => none

end Heap

namespace Load

/-- Puts entries into the dictionary on top. -/
def putEntries (id : ObjectId) : List ObjectId → Load Unit
  | key :: value :: rest => do
    match ← object id with
    | .dict entries =>
      let h := (← get).heap
      match h.changeable? h.size key with
      | some kind => throw (.unhashable kind)
      | none => replace id (.dict (h.putEntry entries key value))
    | _ => throw (.noItemAssignment (← kindOf id))
    putEntries id rest
  | _ => return

/-- Puts items into a set, which `make` makes of them. -/
def putItems (items : List ObjectId) (done : List ObjectId) : Load (List ObjectId) := do
  let h := (← get).heap
  match items.findSome? (h.changeable? h.size) with
  | some kind => throw (.unhashable kind)
  | none => return items.foldl h.putItem done

/-- Puts items at the end of a list. -/
def extend (id : ObjectId) (items : List ObjectId) : Load Unit := do
  match ← object id with
  | .list done => replace id (.list (done ++ items))
  | _ => if !items.isEmpty then throw (.noAttribute (← kindOf id) "append")

/-- The items of a tuple of arguments. -/
def arguments (id : ObjectId) : Load (List ObjectId) := do
  match ← object id with
  | .tuple items => return items
  | _ => throw (.notCallable (← kindOf id))

/-- Calls an object of the runtime. -/
def callRuntime (module name : String) (args : List ObjectId) : Load Unit := do
  let h := (← get).heap
  let values := args.filterMap h.object?
  match module, name, values with
  | "functools", "partial", _ :: _ =>
    match h.partialOf (args.headD 0) [] [] with
    | .ok o => pushNew o
    | .error _ => throw (.notCallable "partial")
  | "builtins", "getattr", [_, .constant (.text wanted)] =>
    match h.attributeOf? (args.headD 0) wanted with
    | some (heap, id) =>
      modify fun m => { m with heap }
      push id
    | none => throw (.noAttribute (h.className (args.headD 0)) wanted)
  | "_codecs", "encode", .constant (.text s) :: _ =>
    pushNew (.constant (.bytes (s.toList.map fun c => UInt8.ofNat c.toNat)))
  | _, _, _ => throw (.notCallable name)

/-- Calls a class of the runtime. -/
def callClass (k : KnownClass) (args : List ObjectId) : Load Unit := do
  let h := (← get).heap
  match k, args.filterMap h.object? with
  | .typeClass, [.constant .none] => pushNew (.annotationClass (.known .noneType))
  | .bytearray, [] => pushNew (.byteArray [])
  | .bytearray, [.constant (.bytes bs)] => pushNew (.byteArray bs)
  | .set, [.list items] => do pushNew (.set (← putItems items []))
  | .frozenset, [.list items] => do pushNew (.frozenSet (← putItems items []))
  | _, _ => throw (.notCallable k.name)

/-- Calls an object with a tuple of arguments. -/
def call (func args : ObjectId) : Load Unit := do
  let args ← arguments args
  match ← object func with
  | .builtin name (some module) => callRuntime module name args
  | .annotationClass (.known k) => callClass k args
  | _ => throw (.notCallable (← kindOf func))

/-- The named values of a dictionary. -/
def namedValues (h : Heap) (id : ObjectId) : List (String × ObjectId) :=
  match h.object? id with
  | some (.dict entries) => entries.filterMap fun e =>
    match h.object? e.1 with
    | some (.constant (.text name)) => some (name, e.2)
    | _ => none
  | _ => []

/-- Gives an object its state. -/
def build (id state : ObjectId) : Load Unit := do
  let h := (← get).heap
  match ← object id, h.object? state with
  | .instance_ i, some (.tuple [attributes, slots]) =>
    replace id (.instance_ { i with
      attributes := namedValues h attributes, slotted := namedValues h slots })
  | .instance_ i, some _ => replace id (.instance_ { i with attributes := namedValues h state })
  | .partialApplication _, some (.tuple [func, args, keywords, attributes]) =>
    replace id (.partialApplication
      { func, args := ← arguments args, keywords := namedValues h keywords
        attributes := namedValues h attributes })
  | _, _ => throw (.noAttribute (← kindOf id) "__dict__")

/-- Puts the object of a name in a module on the stack. -/
def pushNamed (table : ModuleTable) (module name : String) : Load Unit := do
  match (← get).heap.resolveName table module name with
  | .ok (heap, id) =>
    modify fun m => { m with heap }
    push id
  | .error e => throw e

/-- Remembers the object on top at a place. -/
def remember (place : Nat) : Load Unit := do
  let id ← peek
  modify fun m =>
    let used := m.memo.any fun entry => entry.1 == place
    { m with memo := (place, id) :: m.memo, places := if used then m.places else m.places + 1 }

end Load

namespace Machine

open Load

/-- What one instruction does. The result tells whether the program ends. -/
def step (table : ModuleTable) : Instruction → Load Bool
  | .version _ | .frame _ => return false
  | .pushNone => do pushNew (.constant .none); return false
  | .pushBool b => do pushNew (.constant (.bool b)); return false
  | .pushInt n => do pushNew (.constant (.int n)); return false
  | .pushFloat x => do pushNew (.constant (.float x)); return false
  | .pushText s => do pushNew (.constant (.text s)); return false
  | .pushBytes bs => do pushNew (.constant (.bytes bs)); return false
  | .pushByteArray bs => do pushNew (.byteArray bs); return false
  | .emptyTuple => do pushNew (.tuple []); return false
  | .emptyList => do pushNew (.list []); return false
  | .emptyDict => do pushNew (.dict []); return false
  | .emptySet => do pushNew (.set []); return false
  | .mark => do
    modify fun m => { m with top := [], below := m.top :: m.below }
    return false
  | .pop => do
    let m ← get
    match m.top, m.below with
    | [], section_ :: below => set { m with top := section_, below }
    | _, _ => let _ ← pop
    return false
  | .popMarked => do
    let _ ← popMarked
    return false
  | .duplicate => do
    push (← peek)
    return false
  | .tuple count => do
    pushNew (.tuple (← popSeveral count []))
    return false
  | .tupleOfMarked => do
    pushNew (.tuple (← popMarked))
    return false
  | .listOfMarked => do
    pushNew (.list (← popMarked))
    return false
  | .frozenSetOfMarked => do
    let items ← popMarked
    pushNew (.frozenSet (← putItems items []))
    return false
  | .dictOfMarked => do
    let items ← popMarked
    if items.length % 2 = 1 then throw (.oddEntries "DICT")
    pushNew (.dict [])
    putEntries (← peek) items
    return false
  | .append => do
    let item ← pop
    extend (← peek) [item]
    return false
  | .appends => do
    let items ← popMarked
    extend (← peek) items
    return false
  | .setItem => do
    let value ← pop
    let key ← pop
    putEntries (← peek) [key, value]
    return false
  | .setItems => do
    let items ← popMarked
    let id ← peek
    if items.length % 2 = 1 then throw (.oddEntries "SET ITEMS")
    putEntries id items
    return false
  | .addItems => do
    let items ← popMarked
    let id ← peek
    match ← object id with
    | .set done => replace id (.set (← putItems items done))
    | _ => if !items.isEmpty then throw (.noAttribute (← kindOf id) "add")
    return false
  | .named module name => do
    pushNamed table module name
    return false
  | .namedOnStack => do
    let name ← object (← pop)
    let module ← object (← pop)
    match module, name with
    | .constant (.text module), .constant (.text name) => pushNamed table module name
    | _, _ => throw .nameNotText
    return false
  | .call => do
    let args ← pop
    let func ← pop
    call func args
    return false
  | .newInstance => do
    let args ← arguments (← pop)
    let cls ← pop
    pushNew (.instance_ { cls, attributes := [], slotted := [], payload := args.head? })
    return false
  | .build => do
    let state ← pop
    build (← peek) state
    return false
  | .memoize => do
    remember (← get).places
    return false
  | .remember place => do
    remember place
    return false
  | .recall place => do
    match (← get).memo.find? fun entry => entry.1 == place with
    | some entry => push entry.2
    | none => throw (.notRemembered place)
    return false
  | .stop => return true

/-- Runs the instructions in bytes until one ends the program, and returns the object on top. The
fuel is more than the number of bytes, of which every instruction takes one or more. -/
def run (table : ModuleTable) : Nat → Bytes → Load ObjectId
  | 0, _ => throw .endOfInput
  | fuel + 1, bs => do
    let (i, rest) ← Instruction.read bs
    if ← step table i then pop else run table fuel rest

end Machine

/-- The value of a snapshot, in a heap with the objects that were made for it. -/
def Heap.load (h : Heap) (table : ModuleTable) (bs : Bytes) : Except LoadError (Heap × ObjectId) :=
  match ( Machine.run table (bs.length + 1) bs).run ⟨h, [], [], [], 0⟩ with
  | .ok (id, m) => .ok (m.heap, id)
  | .error e => .error e

end HandlerBundle
