import HandlerBundle.Constant
import HandlerBundle.Json.Basic

/-!
# JSON values in messages

The form in which a JSON value stands in a message: words for the constants, quoted texts, brackets
around items and braces around members.
-/

namespace HandlerBundle

namespace Json

mutual

/-- The form in which a value stands in a message. -/
def display : Json → String
  | .null => "None"
  | .bool b => Constant.boolWord b
  | .int n => toString n
  | .float x => Layout.plain.write x
  | .text s => quoted s
  | .list vs => "[" ++ ", ".intercalate (displayItems vs) ++ "]"
  | .object ms => "\x7b" ++ ", ".intercalate (displayMembers ms) ++ "\x7d"

/-- The items of a list. -/
def displayItems : List Json → List String
  | [] => []
  | v :: vs => display v :: displayItems vs

/-- The members of an object. -/
def displayMembers : List (String × Json) → List String
  | [] => []
  | (k, v) :: ms => (quoted k ++ ": " ++ display v) :: displayMembers ms

end

end Json

end HandlerBundle
