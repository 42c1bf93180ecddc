import HandlerBundle.Number.Rounded
import HandlerBundle.Object.Comparison
import HandlerBundle.Object.Display
import HandlerBundle.Text.Template

/-!
# Messages from templates

The message of an entry is a text or a template with values for its places. The values are the items
of a tuple, one after the other; or a single value; or a container whose values are taken by their
keys. Every value has to be used, except those in a container.

## Main definitions

* `MessageError` — why a template and values give no message.
* `TemplateValues` — the values that are left for the places of a template.
* `Heap.message` — the message of a template and values.
-/

namespace HandlerBundle

/-- Why a template and values give no message. -/
inductive MessageError where
  | tooFewValues
  | tooManyValues
  /-- A key where the values are in no container. -/
  | noContainer
  | unclosedKey
  | missingKey (key : String)
  /-- A key for a sequence, by its name. -/
  | keyForSequence (sequence : String)
  | incompletePlace
  | unknownLetter (letter : Char) (index : Nat)
  /-- A width or precision taken from a value that is no integer. -/
  | measureNoInteger
  | widthTooGreat
  | precisionTooGreat
  /-- A measure taken from a value that is out of range; the kind of number is given. -/
  | measureOutOfRange (kind : String)
  | precisionTooLarge
  | notANumber
  | infinite
  | tooGreatForFloat
  | noReal (letter : Char) (className : String)
  | noInteger (letter : Char) (className : String)
  | noFloat (className : String)
  | noCharacter
  | characterOutOfRange
  deriving DecidableEq, Repr

namespace MessageError

/-- A failure of a value of the wrong class. -/
def typeFailure (message : String) : Failure := ⟨.foreign "TypeError", message⟩

/-- A failure of a wrong value. -/
def valueFailure (message : String) : Failure := ⟨.foreign "ValueError", message⟩

/-- A failure of a number that is out of range. -/
def rangeFailure (message : String) : Failure := ⟨.foreign "OverflowError", message⟩

/-- The failure that an error is reported as. -/
def failure : MessageError → Failure
  | .tooFewValues => typeFailure "not enough arguments for format string"
  | .tooManyValues => typeFailure "not all arguments converted during string formatting"
  | .noContainer => typeFailure "format requires a mapping"
  | .unclosedKey => valueFailure "incomplete format key"
  | .missingKey key => ⟨.foreign "KeyError", key⟩
  | .keyForSequence sequence =>
    typeFailure (sequence ++ " indices must be integers or slices, not str")
  | .incompletePlace => valueFailure "incomplete format"
  | .unknownLetter letter index =>
    let shown := if 31 ≤ letter.toNat ∧ letter.toNat ≤ 126 then letter else '?'
    valueFailure ("unsupported format character '" ++ String.ofList [shown] ++ "' (0x" ++
      String.ofList (Nat.toDigits 16 letter.toNat) ++ ") at index " ++ toString index)
  | .measureNoInteger => typeFailure "* wants int"
  | .widthTooGreat => valueFailure "width too big"
  | .precisionTooGreat => valueFailure "precision too big"
  | .measureOutOfRange kind => rangeFailure ("Python int too large to convert to C " ++ kind)
  | .precisionTooLarge => rangeFailure "precision too large"
  | .notANumber => valueFailure "cannot convert float NaN to integer"
  | .infinite => rangeFailure "cannot convert float infinity to integer"
  | .tooGreatForFloat => rangeFailure "int too large to convert to float"
  | .noReal letter className =>
    typeFailure ("%" ++ String.ofList [letter] ++ " format: a real number is required, not " ++
      className)
  | .noInteger letter className =>
    typeFailure ("%" ++ String.ofList [letter] ++ " format: an integer is required, not " ++
      className)
  | .noFloat className => typeFailure ("must be real number, not " ++ className)
  | .noCharacter => typeFailure "%c requires int or char"
  | .characterOutOfRange => rangeFailure "%c arg not in range(0x110000)"

end MessageError

/-- The values that are left for the places of a template. -/
structure TemplateValues where
  /-- The container that keys are looked up in. -/
  container : Option ObjectId
  left : List ObjectId

namespace TemplateValues

/-- The values that an object gives. -/
def ofObject (h : Heap) (id : ObjectId) : TemplateValues :=
  match h.object? (h.valueOf id) with
  | some (.tuple items) => ⟨none, items⟩
  | some (.dict _) | some (.list _) | some (.byteArray _) | some (.constant (.bytes _)) =>
    ⟨some id, [id]⟩
  | _ => ⟨none, [id]⟩

/-- The next value, and those left. -/
def next (values : TemplateValues) : Except MessageError (ObjectId × TemplateValues) :=
  match values.left with
  | id :: rest => .ok (id, { values with left := rest })
  | [] => .error .tooFewValues

/-- The value of a key, as the only one left. -/
def select (h : Heap) (values : TemplateValues) (key : String) :
    Except MessageError TemplateValues :=
  match values.container with
  | none => .error .noContainer
  | some id =>
    match h.object? (h.valueOf id) with
    | some (.dict entries) =>
      match entries.find? fun e => h.constant? e.1 == some (.text key) with
      | some e => .ok { values with left := [e.2] }
      | none => .error (.missingKey key)
    | some (.list _) => .error (.keyForSequence "list")
    | some (.byteArray _) => .error (.keyForSequence "bytearray")
    | _ => .error (.keyForSequence "byte")

/-- The values for a place with the given key. -/
def selectKey (h : Heap) (values : TemplateValues) (key : PlaceKey) :
    Except MessageError TemplateValues :=
  match key with
  | .none => .ok values
  | .named key => values.select h key
  | .unclosed => .error (if values.container.isSome then .unclosedKey else .noContainer)

end TemplateValues

namespace Heap

/-! ### Widths and precisions -/

/-- The greatest width. -/
def widthLimit : Nat := twoTo 63 - 1

/-- The greatest precision. -/
def precisionLimit : Nat := twoTo 31 - 1

/-- The integer that an object is. -/
def integerAt? (h : Heap) (id : ObjectId) : Option Int :=
  match h.constant? id with
  | some (.int n) => some n
  | some (.bool b) => some (if b then 1 else 0)
  | _ => none

/-- The value of a measure, if there is one, and the values left. -/
def measure (h : Heap) (limit : Nat) (tooGreat : MessageError) (kind : String) (m : Measure)
    (values : TemplateValues) : Except MessageError (Option Int × TemplateValues) :=
  match m with
  | .none => .ok (none, values)
  | .number n => if n ≤ limit then .ok (some n, values) else .error tooGreat
  | .fromValue => do
    let (id, values) ← values.next
    match h.integerAt? id with
    | none => .error .measureNoInteger
    | some n =>
      if -(limit : Int) - 1 ≤ n ∧ n ≤ limit then .ok (some n, values)
      else .error (.measureOutOfRange kind)

/-! ### Values -/

/-- A text with escapes for the characters beyond the first 128. -/
def escapedText (s : String) : List Char :=
  s.toList.flatMap fun c =>
    if c.toNat < 0x80 then [c]
    else if c.toNat < 0x100 then '\\' :: 'x' :: hexPadded 2 c.toNat
    else if c.toNat < 0x10000 then '\\' :: 'u' :: hexPadded 4 c.toNat
    else '\\' :: 'U' :: hexPadded 8 c.toNat

/-- A number without its fraction. -/
def wholePart (x : Binary64) : Except MessageError Int :=
  match x.view with
  | .notANumber => .error .notANumber
  | .infinite _ => .error .infinite
  | .finite negative m q =>
    let n : Int := if 0 ≤ q then (m * twoTo q.toNat : Nat) else (m / twoTo (-q).toNat : Nat)
    .ok (if negative then -n else n)

/-- The base that a letter writes integers in. -/
def baseOf (letter : Char) : Nat :=
  if letter == 'o' then 8 else if letter.toLower == 'x' then 16 else 10

/-- The integer that an object is written as. Only base ten takes numbers with a fraction. -/
def writtenInteger (h : Heap) (letter : Char) (id : ObjectId) : Except MessageError Int :=
  match h.integerAt? id, h.constant? id with
  | some n, _ => .ok n
  | none, some (.float x) =>
    if baseOf letter == 10 then wholePart x else .error (.noInteger letter (h.className id))
  | none, _ =>
    .error (if baseOf letter == 10 then .noReal letter (h.className id)
      else .noInteger letter (h.className id))

/-- A written integer; a precision is the least number of digits. -/
def writeInteger (flags : List PlaceFlag) (letter : Char) (precision : Option Nat) (n : Int) :
    Except MessageError WrittenValue :=
  if precisionLimit - 3 < precision.getD 0 then .error .precisionTooLarge
  else
    let digits := Layout.padded (precision.getD 0) (Nat.toDigits (baseOf letter) n.natAbs)
    let digits := if letter == 'X' then digits.map Char.toUpper else digits
    let mark := if flags.contains .alternate && baseOf letter != 10 then ['0', letter] else []
    .ok (.ofNumber flags mark (if n < 0 then '-' :: digits else digits))

/-- The floating-point number that an object is written as. -/
def writtenFloat (h : Heap) (id : ObjectId) : Except MessageError Binary64 :=
  match h.integerAt? id, h.constant? id with
  | some n, _ =>
    let x := Binary64.ofInt n
    match x.view with
    | .infinite _ => .error .tooGreatForFloat
    | _ => .ok x
  | none, some (.float x) => .ok x
  | none, _ => .error (.noFloat (h.className id))

/-- The form that a letter writes numbers in. -/
def formOf? (letter : Char) : Option DecimalForm :=
  match letter.toLower with
  | 'e' => some .scientific
  | 'f' => some .positional
  | 'g' => some .general
  | _ => none

/-- The usual precision of numbers. -/
def usualPrecision : Nat := 6

/-- A character that a text or number stands for. -/
def writtenCharacter (h : Heap) (id : ObjectId) : Except MessageError Char :=
  match h.integerAt? id, h.constant? id with
  | some n, _ =>
    if 0 ≤ n ∧ n < 0x110000 then .ok (Char.ofNat n.toNat) else .error .characterOutOfRange
  | none, some (.text s) =>
    match s.toList with
    | [c] => .ok c
    | _ => .error .noCharacter
  | none, _ => .error .noCharacter

/-- A text, cut to a precision. -/
def cutText (precision : Option Nat) (cs : List Char) : WrittenValue :=
  .ofChars (match precision with
    | some n => cs.take n
    | none => cs)

/-- The written form of a value in a place with the given letter. -/
def writeValue (h : Heap) (table : ModuleTable) (flags : List PlaceFlag) (letter : Char)
    (index : Nat) (precision : Option Nat) (id : ObjectId) : Except MessageError WrittenValue :=
  match letter with
  | 's' => .ok (cutText precision (h.plainText table id).toList)
  | 'r' => .ok (cutText precision (h.display table id).toList)
  | 'a' => .ok (cutText precision (escapedText (h.display table id)))
  | 'c' => (h.writtenCharacter id).map fun c => .ofChars [c]
  | 'd' | 'i' | 'u' | 'o' | 'x' | 'X' => do
    writeInteger flags letter precision (← h.writtenInteger letter id)
  | _ =>
    match formOf? letter with
    | none => .error (.unknownLetter letter index)
    | some form => do
      let x ← h.writtenFloat id
      let cs := form.write x (precision.getD usualPrecision) (flags.contains .alternate)
      return .ofNumber flags [] (if letter.isUpper then cs.map Char.toUpper else cs)

/-! ### Places -/

/-- What stands in a place, and the values left. -/
def fillPlace (h : Heap) (table : ModuleTable) (c : Conversion) (values : TemplateValues) :
    Except MessageError (List Char × TemplateValues) := do
  let values ← values.selectKey h c.key
  let (width, values) ← h.measure widthLimit .widthTooGreat "ssize_t" c.width values
  let (precision, values) ←
    h.measure precisionLimit .precisionTooGreat "int" c.precision values
  let width := width.getD 0
  let flags := if width < 0 then .leftAligned :: c.flags else c.flags
  match c.letter with
  | none => .error .incompletePlace
  | some letter =>
    let (id, values) ← values.next
    let written ← h.writeValue table flags letter c.index (precision.map Int.toNat) id
    return (written.align flags width.natAbs, values)

/-- The message of the parts of a template. -/
def fillPieces (h : Heap) (table : ModuleTable) : List Piece → TemplateValues →
    Except MessageError (List Char)
  | [], values =>
    if values.container.isNone && !values.left.isEmpty then .error .tooManyValues else .ok []
  | .text cs :: rest, values => do
    return cs ++ (← h.fillPieces table rest values)
  | .place c :: rest, values => do
    let (cs, values) ← h.fillPlace table c values
    return cs ++ (← h.fillPieces table rest values)

/-- The message of a template and values; without values the template stands for itself. -/
def message (h : Heap) (table : ModuleTable) (template : String) (values : Option ObjectId) :
    Except MessageError String :=
  match values.filter h.isTrue with
  | none => .ok template
  | some id =>
    (h.fillPieces table ( Piece.ofTemplate template) (.ofObject h id)).map String.ofList

end Heap

end HandlerBundle
