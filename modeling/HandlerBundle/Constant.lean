import HandlerBundle.Number.Shortest
import HandlerBundle.Text.Quoted

/-!
# Constants

The values without parts: nothing, truth values, integers, floating-point numbers, texts, byte
strings and the ellipsis. Numbers of different kinds are compared by value, and truth values count
as the integers zero and one.

## Main definitions

* `Constant.same` — comparison by value.
* `Constant.display` — the form in which a constant stands in a message.
-/

namespace HandlerBundle

/-- A byte string. -/
abbrev Bytes := List UInt8

/-- A value without parts. -/
inductive Constant where
  | none
  | bool (b : Bool)
  | int (n : Int)
  | float (x : Binary64)
  | text (s : String)
  | bytes (bs : Bytes)
  | ellipsis
  deriving DecidableEq, Repr, Inhabited

namespace Constant

/-- The integer that a constant equals, if it is a number. -/
def integer? : Constant → Option Int
  | .bool b => some (if b then 1 else 0)
  | .int n => some n
  | .float x => x.toInt?
  | _ => Option.none

/-- Whether two constants are equal as values. -/
def same (a b : Constant) : Bool :=
  match a.integer?, b.integer? with
  | some m, some n => m == n
  | Option.none, Option.none =>
    match a, b with
    | .float x, .float y => x.same y
    | _, _ => a == b
  | _, _ => false

/-- The word for a truth value. -/
def boolWord (b : Bool) : String := if b then "True" else "False"

/-- The form in which a constant stands in a message. -/
def display : Constant → String
  | .none => "None"
  | .bool b => boolWord b
  | .int n => toString n
  | .float x => Layout.plain.write x
  | .text s => quoted s
  | .bytes bs => quotedBytes bs
  | .ellipsis => "Ellipsis"

/-- The text of a constant: its display, except that a text stands for itself. -/
def plainText : Constant → String
  | .text s => s
  | c => c.display

end Constant

end HandlerBundle
