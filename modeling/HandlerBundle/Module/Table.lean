import HandlerBundle.Closure.Standard
import HandlerBundle.Object.Basic
import HandlerBundle.Source.Encoding

/-!
# Loaded modules

A table of the modules that are at hand. A module may be importable, and then says where it comes
from; and it holds objects under their qualified names, by which they can be found again. With the
modules comes the program that has loaded them, which reads sources and saves values.

## Main definitions

* `Runtime` — what depends on the program that has loaded the modules.
* `ModuleSpec`, `LoadedModule`, `ModuleTable`.
* `ModuleTable.register`, `ModuleTable.member?` — objects under their names.
-/

namespace HandlerBundle

/-- The module that runs. -/
def runningModule : String := "__main__"

/-- What depends on the program that has loaded modules. -/
structure Runtime where
  reader : SourceReader
  /-- The failure that stops the saving of an object, which may be nested deeper than the program
  can follow. -/
  savingStop? : Heap → ObjectId → Option Failure

/-- A program that stops nowhere. -/
def Runtime.plain : Runtime where
  reader := .plain
  savingStop? _ _ := none

/-- Where an importable module comes from. -/
structure ModuleSpec where
  isPackage : Bool
  origin : Option String
  /-- The bytes of the file at the origin, if there is such a file. -/
  content : Option Bytes
  deriving DecidableEq, Repr

/-- A module that is at hand. One without a `spec` cannot be imported from elsewhere. -/
structure LoadedModule where
  name : String
  spec : Option ModuleSpec
  /-- The objects in the module, by qualified name. -/
  members : List (String × ObjectId)

/-- The modules that are at hand. -/
structure ModuleTable where
  modules : List LoadedModule
  runtime : Runtime := .plain

namespace ModuleTable

/-- No modules. -/
def empty : ModuleTable := { modules := [] }

/-- The module of a name. -/
def find? (table : ModuleTable) (name : String) : Option LoadedModule :=
  table.modules.find? fun m => m.name == name

/-- Where the module of a name comes from, if it is importable. -/
def spec? (table : ModuleTable) (name : String) : Option ModuleSpec :=
  (table.find? name).bind (·.spec)

/-- Whether a qualified name leads into the body of a function. -/
def isLocal (qualname : String) : Bool :=
  (components qualname).contains "<locals>"

/-- Puts an object into a module under its qualified name, in place of one that is there. Local
objects, and objects of modules that are not importable or belong to the standard library, are not
put anywhere. -/
def register (table : ModuleTable) (module : Option String) (qualname : String) (id : ObjectId) :
    ModuleTable :=
  match module with
  | none => table
  | some name =>
    if isLocal qualname || isStandardModule (topName name) then table
    else
      let modules := table.modules.map fun m =>
        if m.name == name && m.spec.isSome then
          { m with members := (qualname, id) :: m.members }
        else m
      { table with modules }

/-- The object that a module holds under a qualified name. -/
def member? (table : ModuleTable) (module qualname : String) : Option ObjectId :=
  (table.find? module).bind fun m =>
    (m.members.find? fun entry => entry.1 == qualname).map Prod.snd

end ModuleTable

end HandlerBundle
