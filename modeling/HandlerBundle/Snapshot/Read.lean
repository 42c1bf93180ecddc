import HandlerBundle.Binding.Attribute
import HandlerBundle.Snapshot.Instruction
import HandlerBundle.Text.Numeral

/-!
# Reading instructions

Bytes are read as instructions one at a time. Besides the forms that are written, older forms are
read: numbers and texts on lines of their own, and texts in the smallest character set.

## Main definitions

* `LoadError` — why bytes are no snapshot.
* `Instruction.read` — the instruction at the front of bytes.
-/

namespace HandlerBundle

/-- Why bytes are no snapshot. -/
inductive LoadError where
  /-- The bytes end before the program does. -/
  | endOfInput
  /-- The bytes end in the middle of an instruction, or of a frame. -/
  | truncated
  | unknownInstruction (b : UInt8)
  | unknownVersion (n : Nat)
  | badText (cause : Utf8.DecodeError)
  | notAscii (b : UInt8) (position : Nat)
  | badInteger
  | badLongInteger (line : String)
  | badNumber
  | unquoted
  | stackUnderflow
  | unexpectedMark
  | markMissing
  | notRemembered (place : Nat)
  | oddEntries (purpose : String)
  | unhashable (kind : String)
  | noAttribute (kind name : String)
  | noItemAssignment (kind : String)
  | notCallable (kind : String)
  | moduleMissing (name : String)
  | nameMissing (name shown : String)
  /-- A name for an object must be a text. -/
  | nameNotText
  deriving DecidableEq, Repr

namespace LoadError

/-- How a byte stands in a message. -/
def shownByte (b : UInt8) : String :=
  if 0x20 ≤ b && b ≤ 0x7e && b != 0x27 && b != 0x5c then String.ofList [Char.ofNat b.toNat]
  else "\\x" ++ String.ofList (hexPadded 2 b.toNat)

/-- The message of the error. -/
def message : LoadError → String
  | .endOfInput => "Ran out of input"
  | .truncated => "pickle data was truncated"
  | .unknownInstruction b => "invalid load key, '" ++ shownByte b ++ "'."
  | .unknownVersion n => "unsupported pickle protocol: " ++ toString n
  | .badText cause => cause.message
  | .notAscii b position =>
    "'ascii' codec can't decode byte 0x" ++ String.ofList (hexPadded 2 b.toNat) ++
      " in position " ++ toString position ++ ": ordinal not in range(128)"
  | .badInteger => "could not convert string to int"
  | .badLongInteger line => "invalid literal for int() with base 0: " ++ quoted line
  | .badNumber => "could not convert string to float"
  | .unquoted => "the STRING opcode argument must be quoted"
  | .stackUnderflow => "unpickling stack underflow"
  | .unexpectedMark => "unexpected MARK found"
  | .markMissing => "could not find MARK"
  | .notRemembered place => "Memo value not found at index " ++ toString place
  | .oddEntries purpose => "odd number of items for " ++ purpose
  | .unhashable kind => "unhashable type: " ++ quoted kind
  | .noAttribute kind name => quoted kind ++ " object has no attribute " ++ quoted name
  | .noItemAssignment kind => quoted kind ++ " object does not support item assignment"
  | .notCallable kind => quoted kind ++ " object is not callable"
  | .moduleMissing name => "No module named " ++ quoted name
  | .nameMissing name shown => "Can't get attribute " ++ quoted name ++ " on " ++ shown
  | .nameNotText => "STACK_GLOBAL requires str"

/-- The name of the kind of failure. -/
def kindName : LoadError → String
  | .endOfInput => "EOFError"
  | .unknownVersion _ | .badInteger | .badLongInteger _ | .badNumber => "ValueError"
  | .badText _ | .notAscii .. => "UnicodeDecodeError"
  | .unhashable _ | .noItemAssignment _ | .notCallable _ => "TypeError"
  | .noAttribute .. | .nameMissing .. => "AttributeError"
  | .moduleMissing _ => "ModuleNotFoundError"
  | _ => "UnpicklingError"

/-- The error as a failure. -/
def failure (e : LoadError) : Failure :=
  ⟨.foreign e.kindName, e.message⟩

end LoadError

namespace Instruction

/-- Takes a number of bytes. -/
def takeBytes (count : Nat) (bs : Bytes) : Except LoadError (Bytes × Bytes) :=
  if bs.length < count then .error .truncated else .ok (bs.take count, bs.drop count)

/-- Takes a number with its lowest byte first. -/
def takeNumber (width : Nat) (bs : Bytes) : Except LoadError (Nat × Bytes) :=
  (takeBytes width bs).map fun (field, rest) => (littleNumberOf field, rest)

/-- Takes bytes after their number. -/
def takeSized (width : Nat) (bs : Bytes) : Except LoadError (Bytes × Bytes) := do
  let (count, rest) ← takeNumber width bs
  takeBytes count rest

/-- Takes the bytes up to the end of a line, and drops that. -/
def takeLine (bs : Bytes) : Except LoadError (Bytes × Bytes) :=
  match bs.dropWhile (· != lineEnd) with
  | [] => .error .truncated
  | _ :: rest => .ok (bs.takeWhile (· != lineEnd), rest)

/-- The text of bytes, one character each. -/
def narrowText (bs : Bytes) : String :=
  String.ofList (bs.map fun b => Char.ofNat b.toNat)

/-- The text of bytes of the smallest character set. -/
def asciiText (bs : Bytes) : Except LoadError String :=
  match bs.findIdx? (0x80 ≤ ·) with
  | some i => .error (.notAscii (bs.getD i 0) i)
  | none => .ok (narrowText bs)

/-- The text of bytes. -/
def wideText (bs : Bytes) : Except LoadError String :=
  (Utf8.decode bs).mapError .badText

/-- The characters of a line, where escapes stand for some of them. The fuel is the number of
characters. -/
def unescapeLine : Nat → List Char → List Char
  | 0, _ => []
  | fuel + 1, cs =>
    match cs with
    | [] => []
    | '\\' :: 'u' :: rest =>
      match readHexEscape? 4 rest with
      | some (c, rest) => c :: unescapeLine fuel rest
      | none => '\\' :: 'u' :: unescapeLine fuel rest
    | '\\' :: 'U' :: rest =>
      match readHexEscape? 8 rest with
      | some (c, rest) => c :: unescapeLine fuel rest
      | none => '\\' :: 'U' :: unescapeLine fuel rest
    | c :: rest => c :: unescapeLine fuel rest

/-- The instruction of a line with an integer; two of them are truth values. -/
def ofIntegerLine (line : Bytes) : Except LoadError Instruction :=
  let s := narrowText line
  if s == "00" then .ok (.pushBool false)
  else if s == "01" then .ok (.pushBool true)
  else
    match readInteger? s with
    | some n => .ok (.pushInt n)
    | none => .error .badInteger

/-- The instruction of a line with an integer and a mark for a long one. -/
def ofLongIntegerLine (line : Bytes) : Except LoadError Instruction :=
  let s := narrowText (if line.getLast? == some 0x4c then line.dropLast else line)
  match readInteger? s with
  | some n => .ok (.pushInt n)
  | none => .error (.badLongInteger s)

/-- The instruction of a line with a number. -/
def ofNumberLine (line : Bytes) : Except LoadError Instruction :=
  match readNumber? (narrowText line) with
  | some x => .ok (.pushFloat x)
  | none => .error .badNumber

/-- The instruction of a line with a quoted text. -/
def ofQuotedLine (line : Bytes) : Except LoadError Instruction := do
  let s ← asciiText line
  match readQuoted? s.toList with
  | some (cs, []) => return .pushText (String.ofList cs)
  | _ => throw .unquoted

/-- The place in a line. -/
def placeOfLine (line : Bytes) : Except LoadError Nat :=
  match readInteger? (narrowText line) with
  | some n => .ok n.toNat
  | none => .error (.badLongInteger (narrowText line))

/-- An instruction from a field. -/
def from_ {α : Type} (field : Except LoadError (α × Bytes))
    (make : α → Except LoadError Instruction) : Except LoadError (Instruction × Bytes) := do
  let (value, rest) ← field
  return (← make value, rest)

/-- Reads what follows the first byte of an instruction. -/
def readAfter (code : UInt8) (bs : Bytes) : Except LoadError (Instruction × Bytes) :=
  match code.toNat with
  | 0x80 => from_ (takeNumber 1 bs) fun n =>
    if n ≤ currentVersion + 1 then .ok (.version n) else .error (.unknownVersion n)
  | 0x95 => do
    let (length, rest) ← takeNumber 8 bs
    if rest.length < length then throw .truncated
    return (.frame length, rest)
  | 0x4e => .ok (.pushNone, bs)
  | 0x88 => .ok (.pushBool true, bs)
  | 0x89 => .ok (.pushBool false, bs)
  | 0x4b => from_ (takeNumber 1 bs) fun n => .ok (.pushInt n)
  | 0x4d => from_ (takeNumber 2 bs) fun n => .ok (.pushInt n)
  | 0x4a => from_ (takeBytes 4 bs) fun field => .ok (.pushInt (signedNumberOf field))
  | 0x8a => from_ (takeSized 1 bs) fun field => .ok (.pushInt (signedNumberOf field))
  | 0x8b => from_ (takeSized 4 bs) fun field => .ok (.pushInt (signedNumberOf field))
  | 0x49 => from_ (takeLine bs) ofIntegerLine
  | 0x4c => from_ (takeLine bs) ofLongIntegerLine
  | 0x47 => from_ (takeBytes 8 bs) fun field => .ok (.pushFloat ⟨UInt64.ofNat (numberOf field)⟩)
  | 0x46 => from_ (takeLine bs) ofNumberLine
  | 0x8c => from_ (takeSized 1 bs) fun field => (wideText field).map .pushText
  | 0x58 => from_ (takeSized 4 bs) fun field => (wideText field).map .pushText
  | 0x8d => from_ (takeSized 8 bs) fun field => (wideText field).map .pushText
  | 0x56 => from_ (takeLine bs) fun line =>
    .ok (.pushText (String.ofList (unescapeLine line.length (narrowText line).toList)))
  | 0x53 => from_ (takeLine bs) ofQuotedLine
  | 0x55 => from_ (takeSized 1 bs) fun field => (asciiText field).map .pushText
  | 0x54 => from_ (takeSized 4 bs) fun field => (asciiText field).map .pushText
  | 0x43 => from_ (takeSized 1 bs) fun field => .ok (.pushBytes field)
  | 0x42 => from_ (takeSized 4 bs) fun field => .ok (.pushBytes field)
  | 0x8e => from_ (takeSized 8 bs) fun field => .ok (.pushBytes field)
  | 0x96 => from_ (takeSized 8 bs) fun field => .ok (.pushByteArray field)
  | 0x29 => .ok (.emptyTuple, bs)
  | 0x5d => .ok (.emptyList, bs)
  | 0x7d => .ok (.emptyDict, bs)
  | 0x8f => .ok (.emptySet, bs)
  | 0x28 => .ok (.mark, bs)
  | 0x30 => .ok (.pop, bs)
  | 0x31 => .ok (.popMarked, bs)
  | 0x32 => .ok (.duplicate, bs)
  | 0x85 => .ok (.tuple 1, bs)
  | 0x86 => .ok (.tuple 2, bs)
  | 0x87 => .ok (.tuple 3, bs)
  | 0x74 => .ok (.tupleOfMarked, bs)
  | 0x6c => .ok (.listOfMarked, bs)
  | 0x64 => .ok (.dictOfMarked, bs)
  | 0x91 => .ok (.frozenSetOfMarked, bs)
  | 0x61 => .ok (.append, bs)
  | 0x65 => .ok (.appends, bs)
  | 0x73 => .ok (.setItem, bs)
  | 0x75 => .ok (.setItems, bs)
  | 0x90 => .ok (.addItems, bs)
  | 0x63 => do
    let (module, rest) ← takeLine bs
    let (name, rest) ← takeLine rest
    return (.named (← wideText module) (← wideText name), rest)
  | 0x93 => .ok (.namedOnStack, bs)
  | 0x52 => .ok (.call, bs)
  | 0x81 => .ok (.newInstance, bs)
  | 0x62 => .ok (.build, bs)
  | 0x94 => .ok (.memoize, bs)
  | 0x71 => from_ (takeNumber 1 bs) fun n => .ok (.remember n)
  | 0x72 => from_ (takeNumber 4 bs) fun n => .ok (.remember n)
  | 0x70 => from_ (takeLine bs) fun line => (placeOfLine line).map .remember
  | 0x68 => from_ (takeNumber 1 bs) fun n => .ok (.recall n)
  | 0x6a => from_ (takeNumber 4 bs) fun n => .ok (.recall n)
  | 0x67 => from_ (takeLine bs) fun line => (placeOfLine line).map .recall
  | 0x2e => .ok (.stop, bs)
  | _ => .error (.unknownInstruction code)

/-- Reads the instruction at the front. -/
def read (bs : Bytes) : Except LoadError (Instruction × Bytes) :=
  match bs with
  | [] => .error .endOfInput
  | code :: rest => readAfter code rest

end Instruction

end HandlerBundle
