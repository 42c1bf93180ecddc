import HandlerBundle.Annotation.Display
import HandlerBundle.Module.Table

/-!
# How objects stand in messages

The display of a container shows its items; where a container holds itself, dots stand for the inner
one. What has no form of its own is shown by its kind between angle brackets, with the mark of an
address but no address.

## Main definitions

* `Heap.displayAt` — the display of an object inside given containers.
* `Heap.display`, `Heap.plainText` — the display of an object, and its text.
-/

namespace HandlerBundle

/-- What stands for the place of an object in memory. -/
def addressMark : String := " at 0x>"

/-- The name of a class after that of its module, which is left out for the built-in ones. -/
def classPath (module : Option String) (qualname : String) : String :=
  match module with
  | some m => if m == rootModule then qualname else m ++ "." ++ qualname
  | none => qualname

/-- Names with commas between them. -/
def commaSeparated (names : List String) : String :=
  String.intercalate ", " names

namespace Heap

/-- The built-in class that an object is an instance of, and the name of any other class. -/
def className (h : Heap) (id : ObjectId) : String :=
  match h.object? id with
  | some (.constant c) =>
    match c with
    | .none => "NoneType"
    | .bool _ => "bool"
    | .int _ => "int"
    | .float _ => "float"
    | .text _ => "str"
    | .bytes _ => "bytes"
    | .ellipsis => "ellipsis"
  | some (.byteArray _) => "bytearray"
  | some (.list _) => "list"
  | some (.tuple _) => "tuple"
  | some (.set _) => "set"
  | some (.frozenSet _) => "frozenset"
  | some (.dict _) => "dict"
  | some (.module _) => "module"
  | some (.function _) => "function"
  | some (.builtin ..) => "builtin_function_or_method"
  | some (.partialApplication ..) => "partial"
  | some (.method ..) => "method"
  | some (.staticMethod _) => "staticmethod"
  | some (.classMethod _) => "classmethod"
  | some (.property _) => "property"
  | some (.cls _) => "type"
  | some (.annotationClass c) => c.metaName
  | some (.instance_ i) =>
    match h.object? i.cls with
    | some (.cls c) => c.name
    | some (.annotationClass c) => c.name
    | _ => "object"
  | some (.form t) =>
    match t with
    | .generic .direct .. => "GenericAlias"
    | .union .direct _ => "UnionType"
    | .forward _ => "ForwardRef"
    | .params _ => "list"
    | _ => "_GenericAlias"
  | none => "object"

/-- The display of a module. -/
def displayModule (table : ModuleTable) (name : String) : String :=
  match (table.spec? name).bind (·.origin) with
  | some origin => "<module " ++ quoted name ++ " (" ++ origin ++ ")>"
  | none => "<module " ++ quoted name ++ ">"

/-- The display of an object inside the containers `within`. The fuel bounds the depth, which is
less than the number of objects. -/
def displayAt (h : Heap) (table : ModuleTable) : Nat → List ObjectId → ObjectId → String
  | 0, _, _ => "..."
  | fuel + 1, within, id =>
    let show_ := h.displayAt table fuel (id :: within)
    let closed := within.contains id
    match h.object? id with
    | some (.constant c) => c.display
    | some (.byteArray bs) => "bytearray(" ++ quotedBytes bs ++ ")"
    | some (.list items) =>
      if closed then "[...]" else "[" ++ commaSeparated (items.map show_) ++ "]"
    | some (.tuple items) =>
      if closed then "(...)"
      else
        match items with
        | [item] => "(" ++ show_ item ++ ",)"
        | items => "(" ++ commaSeparated (items.map show_) ++ ")"
    | some (.set items) =>
      if closed then "set(...)"
      else if items.isEmpty then "set()"
      else "\x7b" ++ commaSeparated (items.map show_) ++ "\x7d"
    | some (.frozenSet items) =>
      if closed then "frozenset(...)"
      else if items.isEmpty then "frozenset()"
      else "frozenset(\x7b" ++ commaSeparated (items.map show_) ++ "\x7d)"
    | some (.dict entries) =>
      if closed then "\x7b...\x7d"
      else
        "\x7b" ++ commaSeparated (entries.map fun e => show_ e.1 ++ ": " ++ show_ e.2) ++ "\x7d"
    | some (.module name) => displayModule table name
    | some (.function f) => "<function " ++ f.qualname ++ addressMark
    | some (.builtin name module) =>
      if module.isSome then "<built-in function " ++ name ++ ">"
      else "<built-in method " ++ name ++ " of str object" ++ addressMark
    | some (.partialApplication p) =>
      if closed then "..."
      else
        "functools.partial(" ++ commaSeparated (show_ p.func :: p.args.map show_ ++
          p.keywords.map fun k => k.1 ++ "=" ++ show_ k.2) ++ ")"
    | some (.method func receiver) =>
      let name := match h.object? func with
        | some (.function f) => f.qualname
        | some (.builtin name _) => name
        | _ => "?"
      "<bound method " ++ name ++ " of " ++ show_ receiver ++ ">"
    | some (.staticMethod func) => "<staticmethod(" ++ show_ func ++ ")>"
    | some (.classMethod func) => "<classmethod(" ++ show_ func ++ ")>"
    | some (.property _) => "<property object" ++ addressMark
    | some (.cls c) => "<class " ++ "'" ++ classPath c.module c.qualname ++ "'>"
    | some (.annotationClass c) => c.display
    | some (.instance_ i) =>
      let path := match h.object? i.cls with
        | some (.cls c) => classPath c.module c.qualname
        | some (.annotationClass c) => classPath (some c.module) c.qualname
        | _ => "object"
      match h.nativeClass? i.cls with
      | none => "<" ++ path ++ " object" ++ addressMark
      | some _ =>
        match i.payload with
        | some value => show_ value
        | none => "<" ++ path ++ " object" ++ addressMark
    | some (.form t) => t.display
    | none => "..."

/-- The display of an object. -/
def display (h : Heap) (table : ModuleTable) (id : ObjectId) : String :=
  h.displayAt table (2 * h.size + 1) [] id

/-- The text of an object: its display, except that a text stands for itself. -/
def plainText (h : Heap) (table : ModuleTable) (id : ObjectId) : String :=
  match h.object? id with
  | some (.constant c) => c.plainText
  | _ => h.display table id

end Heap

end HandlerBundle
