import HandlerBundle.Object.Display
import HandlerBundle.Snapshot.Frame

/-!
# Saving a value

The instructions for a value are found in one pass over the objects that it refers to. An object
that has been written is remembered and recalled when it is met again, so that sharing and cycles
are kept. Functions and classes are written as names: the module must be at hand and must hold that
very object under its qualified name.

## Main definitions

* `SaveError` — why an object has no snapshot.
* `Heap.locate` — the module that an object can be found in by name.
* `Heap.snapshot` — the snapshot of an object.
-/

namespace HandlerBundle

/-- Why an object has no snapshot. -/
inductive SaveError where
  | localObject (qualname : String)
  | moduleMissing (shown module : String)
  | nameMissing (shown module qualname : String)
  | otherObject (shown module qualname : String)
  /-- Objects of the kind have no snapshots. -/
  | kind (name : String)
  /-- An object cannot be looked at, or there is no end to it. -/
  | stopped (cause : Failure)
  deriving DecidableEq, Repr

namespace SaveError

/-- The message of the error. -/
def message : SaveError → String
  | .localObject qualname => "Can't pickle local object " ++ quoted qualname
  | .moduleMissing shown module =>
    "Can't pickle " ++ shown ++ ": import of module " ++ quoted module ++ " failed"
  | .nameMissing shown module qualname =>
    "Can't pickle " ++ shown ++ ": attribute lookup " ++ qualname ++ " on " ++ module ++ " failed"
  | .otherObject shown module qualname =>
    "Can't pickle " ++ shown ++ ": it's not the same object as " ++ module ++ "." ++ qualname
  | .kind name => "cannot pickle " ++ quoted name ++ " object"
  | .stopped cause => cause.message

/-- The error as a failure. -/
def failure (e : SaveError) : Failure :=
  match e with
  | .stopped cause => cause
  | .localObject _ => ⟨.foreign "AttributeError", e.message⟩
  | .kind _ => ⟨.foreign "TypeError", e.message⟩
  | _ => ⟨.foreign "PicklingError", e.message⟩

end SaveError

/-- What a remembered object is known by. Short texts and byte strings, names and the empty frozen
set are the same object wherever they occur. -/
inductive MemoKey where
  | object (id : ObjectId)
  | text (s : String)
  | bytes (bs : Bytes)
  | named (module name : String)
  | emptyFrozenSet
  /-- An object that is not met again. -/
  | anonymous
  deriving DecidableEq, Repr

/-- The instructions so far, latest first, and the remembered objects, latest first. -/
structure Saving where
  parts : List Part
  memo : List MemoKey

/-- Steps of saving. -/
abbrev Save := StateT Saving (Except SaveError) Unit

namespace Save

/-- The greatest number of items that are put into a container at once. -/
def batchSize : Nat := 1000

/-- Writes an instruction. -/
def emit (i : Instruction) : Save :=
  modify fun s => { s with parts := .code i :: s.parts }

/-- Starts an object. -/
def start : Save :=
  modify fun s => { s with parts := .boundary :: s.parts }

/-- Remembers the object on top. -/
def memoize (key : MemoKey) : Save :=
  modify fun s => { parts := .code .memoize :: s.parts, memo := key :: s.memo }

/-- The place at which an object is remembered. -/
def placeOf? (key : MemoKey) (memo : List MemoKey) : Option Nat :=
  if key == .anonymous then none
  else (memo.idxOf? key).map fun i => memo.length - 1 - i

/-- Recalls an object that is remembered, and otherwise writes it. -/
def recallOr (key : MemoKey) (fresh : Save) : Save := do
  match placeOf? key (← get).memo with
  | some place => emit (.recall place)
  | none => fresh

/-- Writes an object, or recalls it. -/
def object (key : MemoKey) (fresh : Save) : Save := do
  start
  recallOr key fresh

/-- Writes an object that is not remembered. -/
def constant (i : Instruction) : Save := do
  start
  emit i

/-- Writes a text. -/
def text (key : MemoKey) (s : String) : Save :=
  object key do
    emit (.pushText s)
    memoize key

/-- Writes a text that is a name. -/
def name (s : String) : Save := text (.text s) s

/-- Writes a byte string. -/
def bytes (key : MemoKey) (bs : Bytes) : Save :=
  object key do
    emit (.pushBytes bs)
    memoize key

/-- What a byte string is known by. -/
def bytesKey (id : Option ObjectId) (bs : Bytes) : MemoKey :=
  if bs.length ≤ 1 then .bytes bs
  else match id with
    | some id => .object id
    | none => .anonymous

/-- Writes an object as a name in a module. -/
def reference (key : MemoKey) (module qualname : String) : Save :=
  object key do
    name module
    name qualname
    emit .namedOnStack
    memoize key

/-- Writes an object of the runtime. -/
def runtimeObject (module qualname : String) : Save :=
  reference (.named module qualname) module qualname

/-- Leaves the object that was just built, unless it became known while it was built: then that one
is recalled in its place. -/
def settle (key : MemoKey) (finish undo : Save) : Save := do
  match placeOf? key (← get).memo with
  | some place =>
    undo
    emit (.recall place)
  | none =>
    finish
    memoize key

/-- Writes one object after the other. -/
def inOrder (items : List Save) : Save :=
  items.forM fun item => item

/-- Writes a tuple of given items. -/
def tuple (key : MemoKey) (items : List Save) : Save :=
  if items.isEmpty then constant .emptyTuple
  else
    object key do
      if items.length ≤ 3 then
        inOrder items
        settle key (emit (.tuple items.length)) (items.forM fun _ => emit .pop)
      else
        emit .mark
        inOrder items
        settle key (emit .tupleOfMarked) (emit .popMarked)

/-- Writes an object as the outcome of a call. -/
def called (key : MemoKey) (function : Save) (args : List Save) : Save :=
  object key do
    function
    tuple .anonymous args
    emit .call
    settle key (pure ()) (emit .pop)

/-- Puts items into a container, as many at once as allowed. The fuel bounds the number of batches;
after a full batch another one follows if `always` holds, be it empty. -/
def batches (always : Bool) (put : Instruction) : Nat → List Save → Save
  | 0, _ => pure ()
  | fuel + 1, items => do
    emit .mark
    inOrder (items.take batchSize)
    emit put
    let rest := items.drop batchSize
    if !rest.isEmpty || (always && batchSize ≤ items.length) then batches always put fuel rest

/-- Puts items into the list on top. -/
def listItems (items : List Save) : Save :=
  match items with
  | [] => pure ()
  | [item] => do
    item
    emit .append
  | items => batches false .appends (items.length + 1) items

/-- Puts entries into the dictionary on top. -/
def dictEntries (entries : List Save) : Save :=
  match entries with
  | [] => pure ()
  | [entry] => do
    entry
    emit .setItem
  | entries => batches true .setItems (entries.length + 1) entries

/-- Puts items into the set on top. -/
def setItems (items : List Save) : Save :=
  match items with
  | [] => pure ()
  | items => batches true .addItems (items.length + 1) items

/-- Writes a new container that is remembered before its contents are written. -/
def container (key : MemoKey) (empty : Instruction) (contents : Save) : Save :=
  object key do
    emit empty
    memoize key
    contents

end Save

namespace Heap

/-- Whether a module can be asked for. -/
def isAtHand (table : ModuleTable) (module : String) : Bool :=
  (table.find? module).isSome || module == runningModule || isStandardModule (topName module)

/-- The module in which an object can be found by its qualified name. -/
def locate (h : Heap) (table : ModuleTable) (id : ObjectId) (module : Option String)
    (qualname : String) : Except SaveError String :=
  let m := module.getD runningModule
  if ModuleTable.isLocal qualname then .error (.localObject qualname)
  else if !isAtHand table m then .error (.moduleMissing (h.display table id) m)
  else
    match table.member? m qualname with
    | none => .error (.nameMissing (h.display table id) m qualname)
    | some found =>
      if found == id then .ok m else .error (.otherObject (h.display table id) m qualname)

/-- What an object is known by. -/
def memoKey (id : ObjectId) : Object → MemoKey
  | .constant (.text s) =>
    if s.length ≤ 1 && s.toList.all fun c => c.toNat < 0x100 then .text s else .object id
  | .constant (.bytes bs) => Save.bytesKey (some id) bs
  | .frozenSet [] => .emptyFrozenSet
  | .builtin name (some module) => .named module name
  | .annotationClass c => .named c.module c.qualname
  | _ => .object id

/-- Writes a constant. -/
def saveConstant (key : MemoKey) : Constant → Save
  | .none => Save.constant .pushNone
  | .bool b => Save.constant (.pushBool b)
  | .int n => Save.constant (.pushInt n)
  | .float x => Save.constant (.pushFloat x)
  | .text s => Save.text key s
  | .bytes bs => Save.bytes key bs
  | .ellipsis => Save.runtimeObject rootModule "Ellipsis"

/-- The value as such of an instance of a built-in class for which none is given. -/
def defaultPayload? : KnownClass → Option Save
  | .int => some (Save.constant (.pushInt 0))
  | .float => some (Save.constant (.pushFloat (.ofInt 0)))
  | .str => some (Save.name "")
  | .bytes => some (Save.bytes (.bytes []) [])
  | .tuple => some (Save.constant .emptyTuple)
  | _ => none

/-- Writes named values as the entries of a dictionary. -/
def saveNamed (save : ObjectId → Save) (members : List (String × ObjectId)) : List Save :=
  members.map fun m => do
    Save.name m.1
    save m.2

/-- Writes a dictionary of named values. -/
def saveNamedDict (save : ObjectId → Save) (members : List (String × ObjectId)) : Save :=
  Save.container .anonymous .emptyDict (Save.dictEntries (saveNamed save members))

/-- Writes the dictionary of attributes, if there are any. -/
def saveAttributes (save : ObjectId → Save) (attributes : List (String × ObjectId)) : Save :=
  if attributes.isEmpty then Save.constant .pushNone else saveNamedDict save attributes

/-- Writes the state of an instance: its attributes, and with slots a pair of them and the slots. -/
def saveState (save : ObjectId → Save) (i : InstanceObject) : Save := do
  if !i.slotted.isEmpty then
    Save.tuple .anonymous [saveAttributes save i.attributes, saveNamedDict save i.slotted]
    Save.emit .build
  else if !i.attributes.isEmpty then
    saveAttributes save i.attributes
    Save.emit .build

/-- Writes an object. The fuel bounds the depth. -/
def saveObject (h : Heap) (table : ModuleTable) : Nat → ObjectId → Save
  | 0, _ => throw (.kind "nested")
  | fuel + 1, id =>
    let save := h.saveObject table fuel
    let byName := fun module qualname => do
      let m ← h.locate table id module qualname
      Save.name m
      Save.name qualname
      Save.emit .namedOnStack
      Save.memoize (.object id)
    match h.object? id with
    | none => throw (.kind "absent")
    | some o =>
      let key := memoKey id o
      match o with
      | .constant c => saveConstant key c
      | .byteArray bs =>
        Save.called key (Save.runtimeObject rootModule "bytearray")
          (if bs.isEmpty then [] else [Save.bytes (Save.bytesKey none bs) bs])
      | .list items => Save.container key .emptyList (Save.listItems (items.map save))
      | .tuple items => Save.tuple key (items.map save)
      | .set items => Save.container key .emptySet (Save.setItems (items.map save))
      | .frozenSet items =>
        Save.object key do
          Save.emit .mark
          items.forM save
          Save.settle key (Save.emit .frozenSetOfMarked) (Save.emit .popMarked)
      | .dict entries =>
        Save.container key .emptyDict <| Save.dictEntries <| entries.map fun e => do
          save e.1
          save e.2
      | .function f => Save.object key (byName f.module f.qualname)
      | .cls c => Save.object key (byName c.module c.qualname)
      | .builtin name (some module) => Save.runtimeObject module name
      | .builtin name none =>
        Save.called key (Save.runtimeObject rootModule "getattr") [Save.name "", Save.name name]
      | .annotationClass (.known .noneType) =>
        Save.called key (Save.runtimeObject rootModule "type") [Save.constant .pushNone]
      | .annotationClass c => Save.runtimeObject c.module c.qualname
      | .partialApplication p =>
        Save.object key do
          Save.runtimeObject "functools" "partial"
          Save.tuple .anonymous [save p.func]
          Save.emit .call
          Save.settle key (pure ()) (Save.emit .pop)
          Save.tuple .anonymous [save p.func, Save.tuple .anonymous (p.args.map save),
            saveNamedDict save p.keywords, saveAttributes save p.attributes]
          Save.emit .build
      | .method func receiver =>
        let name := match h.object? func with
          | some (.function f) => f.name
          | some (.builtin name _) => name
          | _ => ""
        Save.called key (Save.runtimeObject rootModule "getattr") [save receiver, Save.name name]
      | .instance_ i =>
        Save.object key do
          if let some cause := i.fault then throw (.stopped cause)
          save i.cls
          let payload := match i.payload with
            | some value => some (save value)
            | none => (h.nativeClass? i.cls).bind defaultPayload?
          Save.tuple .anonymous payload.toList
          Save.emit .newInstance
          Save.settle key (pure ()) (Save.emit .pop)
          saveState save i
      | .module _ | .staticMethod _ | .classMethod _ | .property _ | .form _ =>
        throw (.kind (h.className id))

/-- The parts of the snapshot of an object. Between two visits of a tuple on one path there is an
object that is remembered before its contents are written, so the square of the number of objects
bounds the depth. -/
def snapshotParts (h : Heap) (table : ModuleTable) (id : ObjectId) : Except SaveError (List Part) :=
  match (h.saveObject table ((h.size + 2) * (h.size + 2)) id).run ⟨[], []⟩ with
  | .ok (_, s) => .ok (Part.code .stop :: s.parts).reverse
  | .error e => .error e

/-- The snapshot of an object. -/
def snapshot (h : Heap) (table : ModuleTable) (id : ObjectId) : Except SaveError Bytes :=
  match table.runtime.savingStop? h id with
  | some cause => .error (.stopped cause)
  | none => (h.snapshotParts table id).map Frame.write

/-- The kinds of failure by which saving says that a value has no snapshot. -/
def savingKinds : List FailureKind :=
  [.foreign "PicklingError", .foreign "TypeError", .foreign "AttributeError"]

/-- The failure that a value to be shipped has no snapshot. One of another kind passes as it is. -/
def serializeFailure (h : Heap) (table : ModuleTable) (id : ObjectId) (cause : Failure) : Failure :=
  if savingKinds.contains cause.kind then
    ⟨.capture, "cannot serialize bound value " ++ h.display table id ++ ": " ++ cause.message⟩
  else cause

/-- The snapshot of a value to be shipped, or the failure that there is none. -/
def serialize (h : Heap) (table : ModuleTable) (id : ObjectId) : Except Failure Bytes :=
  (h.snapshot table id).mapError fun e => h.serializeFailure table id e.failure

end Heap

end HandlerBundle
