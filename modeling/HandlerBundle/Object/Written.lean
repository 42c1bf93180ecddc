import HandlerBundle.Json.Basic
import HandlerBundle.Object.Comparison
import HandlerBundle.Object.Display

/-!
# Objects as JSON values

Constants, lists and tuples, and dictionaries have a JSON form; anything else stands as its text.
Keys of a dictionary are texts or constants that have a word, and no container may hold itself.

## Main definitions

* `WritingError` — why an object has no JSON form.
* `Heap.toJson` — the JSON form of an object.
-/

namespace HandlerBundle

/-- Why an object has no JSON form. -/
inductive WritingError where
  /-- A key that has no word, by the class of the key. -/
  | wordlessKey (className : String)
  /-- A container holds itself. -/
  | circular
  deriving DecidableEq, Repr

/-- The failure that an error is reported as. -/
def WritingError.failure : WritingError → Failure
  | .wordlessKey className =>
    ⟨.foreign "TypeError", "keys must be str, int, float, bool or None, not " ++ className⟩
  | .circular => ⟨.foreign "ValueError", "Circular reference detected"⟩

/-- The layout of numbers in written objects. -/
def writtenLayout : Layout :=
  { Layout.plain with
    notANumber := "NaN", infinity := "Infinity", negativeInfinity := "-Infinity" }

namespace Heap

/-- The word that a key is written as. -/
def keyWord (h : Heap) (id : ObjectId) : Except WritingError String :=
  match h.constant? id with
  | some (.text s) => .ok s
  | some .none => .ok "null"
  | some (.bool b) => .ok (if b then "true" else "false")
  | some (.int n) => .ok (toString n)
  | some (.float x) => .ok (writtenLayout.write x)
  | _ => .error (.wordlessKey (h.className id))

/-- The JSON form of a constant, if it has one. -/
def constantJson? : Constant → Option Json
  | .none => some .null
  | .bool b => some (.bool b)
  | .int n => some (.int n)
  | .float x => some (.float x)
  | .text s => some (.text s)
  | .bytes _ | .ellipsis => none

/-- The JSON form of an object inside the containers `within`. The fuel bounds the depth. -/
def toJsonAt (h : Heap) (table : ModuleTable) : Nat → List ObjectId → ObjectId →
    Except WritingError Json
  | 0, _, _ => .error .circular
  | fuel + 1, within, id =>
    let inner := h.toJsonAt table fuel (id :: within)
    match h.object? (h.valueOf id) with
    | some (.constant c) => .ok ((constantJson? c).getD (.text (h.plainText table id)))
    | some (.list items) | some (.tuple items) =>
      if within.contains id then .error .circular
      else (items.mapM inner).map .list
    | some (.dict entries) =>
      if within.contains id then .error .circular
      else
        let member := fun (e : ObjectId × ObjectId) => do
          let word ← h.keyWord e.1
          return (word, ← inner e.2)
        (entries.mapM member).map .object
    | _ => .ok (.text (h.plainText table id))

/-- The JSON form of an object. -/
def toJson (h : Heap) (table : ModuleTable) (id : ObjectId) : Except WritingError Json :=
  h.toJsonAt table (h.size + 1) [] id

end Heap

end HandlerBundle
