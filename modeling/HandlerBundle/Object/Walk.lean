import HandlerBundle.Closure.Exclusion
import HandlerBundle.Object.Basic

/-!
# The modules that a value refers to

A walk over the graph of objects notes the home module of every module, function and class that it
meets. It goes on to what an object refers to, except from functions and classes at home in an
excluded module, or in none.

## Main definitions

* `Heap.homes` — the modules that an object is noted under.
* `Heap.successors` — the objects that a walk goes on to.
* `Heap.referencedModules` — the modules noted in a walk.
-/

namespace HandlerBundle

/-- The modules that are noted when the walk enters a class that annotations can name: those of
the machinery that its declaration generates. -/
def machineryModules : Class → List String
  | .known .httpRequest | .known .httpResponse | .known .timerInfo =>
    ["_thread", rootModule, "dataclasses"]
  | _ => [rootModule]

/-- The modules noted for the classes that a class derives from. -/
def inheritedHomes (ex : Exclusion) : Class → List String
  | .known _ => []
  | .declared d =>
    d.baseModules.filter (fun m => !m.isEmpty) ++ d.knownBases.flatMap fun k =>
      k.module :: if ex.excludes k.module then [] else machineryModules (.known k)

/-- The modules noted for a class that annotations can name. -/
def classHomes (ex : Exclusion) (c : Class) : List String :=
  if c.module.isEmpty then []
  else if ex.excludes c.module then [c.module]
  else c.module :: (machineryModules c ++ inheritedHomes ex c)

mutual

/-- The modules noted for an annotation that stands as a value. -/
def annotationHomes (ex : Exclusion) : Annotation → List String
  | .cls c => classHomes ex c
  | .generic .direct _ _ | .union .direct _ => ["types"]
  | .bare c => "typing" :: classHomes ex c
  | .generic .aliased c ts => "typing" :: (classHomes ex c ++ annotationHomesList ex ts)
  | .union .aliased ts => "typing" :: annotationHomesList ex ts
  | .annotated t _ => "typing" :: annotationHomes ex t
  | .params ts => annotationHomesList ex ts
  | .absent | .value _ => []
  | .form _ | .literal _ | .forward _ => ["typing"]

/-- The modules noted for several annotations. -/
def annotationHomesList (ex : Exclusion) : List Annotation → List String
  | [] => []
  | t :: ts => annotationHomes ex t ++ annotationHomesList ex ts

end

namespace Heap

/-- The home module of a function or class, if it names one that is not empty. -/
def home? (module : Option String) : Option String :=
  module.filter fun m => !m.isEmpty

/-- Whether the walk enters a function or class with this home. -/
def enters (ex : Exclusion) (module : Option String) : Bool :=
  match home? module with
  | some m => !ex.excludes m
  | none => false

/-- The modules that an object is noted under. -/
def homes (ex : Exclusion) : Object → List String
  | .module name => if name.isEmpty then [] else [name]
  | .function f => (home? f.module).toList
  | .builtin _ module => (home? module).toList
  | .cls c =>
    (home? c.module).toList ++ (if enters ex c.module then [rootModule] else [])
  | .annotationClass c => classHomes ex c
  | .form t => annotationHomes ex t
  | _ => []

/-- The globals that the code of a function names. -/
def namedGlobals (f : FunctionObject) : List ObjectId :=
  f.code.names.filterMap fun name =>
    (f.globals.find? fun g => g.1 == name).map Prod.snd

/-- Whether the walk takes an instance for the value that it has as such: its class derives from a
built-in class with such values. -/
def isTakenAsValue (h : Heap) (i : InstanceObject) : Bool :=
  (h.nativeClass? i.cls).isSome || i.payload.isSome

/-- The failure of looking at the attributes of an object, as the walk does unless it takes the
object for a value. -/
def fault? (h : Heap) : Object → Option Failure
  | .instance_ i => if h.isTakenAsValue i then none else i.fault
  | _ => none

/-- What the walk goes on to from an instance: its class and its attributes. Of an instance that is
taken for its value it is no more than what that value holds. -/
def instanceSuccessors (h : Heap) (i : InstanceObject) : List ObjectId :=
  if h.isTakenAsValue i then h.payloadContents i
  else
    let slots := (h.slotEntries i.cls).filterMap fun name =>
      ((i.slotted ++ i.attributes).find? fun s => s.1 == name).map Prod.snd
    i.cls :: (i.attributes.map Prod.snd ++ slots)

/-- The objects that the walk goes on to from an object, in order. -/
def successors (h : Heap) (ex : Exclusion) (id : ObjectId) : Object → List ObjectId
  | .function f =>
    if enters ex f.module then
      namedGlobals f ++ f.cells.filterMap (·) ++ f.defaults ++ f.keywordDefaults
    else []
  | .method func receiver => [func, receiver]
  | .cls c =>
    if enters ex c.module then h.ancestors h.size id ++ c.members.map Prod.snd else []
  | .instance_ i => h.instanceSuccessors i
  | o => contents o

/-- Walks on from the objects on the stack. `unseen` holds the objects not met yet, and `noted` the
modules noted so far. -/
def walk (h : Heap) (ex : Exclusion) (unseen stack : List ObjectId) (noted : List String) :
    Except Failure (List String) :=
  match stack with
  | [] => .ok noted
  | id :: rest =>
    if id ∈ unseen then
      match h.object? id with
      | none => walk h ex (unseen.erase id) rest noted
      | some o =>
        match h.fault? o with
        | some failure => .error failure
        | none =>
          walk h ex (unseen.erase id) ((h.successors ex id o).reverse ++ rest)
            (noted ++ (homes ex o).eraseDups.filter fun m => !noted.contains m)
    else walk h ex unseen rest noted
termination_by (unseen.length, stack.length)
decreasing_by
  all_goals first
    | exact Prod.Lex.left _ _ (by
        rw [List.length_erase_of_mem ‹_›]
        exact Nat.sub_lt (List.length_pos_of_mem ‹_›) Nat.one_pos)
    | exact Prod.Lex.right _ (by simp)

/-- The modules that a value refers to. -/
def referencedModules (h : Heap) (ex : Exclusion) (value : ObjectId) :
    Except Failure (List String) :=
  h.walk ex (List.range h.size) [value] []

end Heap

end HandlerBundle
