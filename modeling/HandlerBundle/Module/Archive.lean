import HandlerBundle.Number.Octets
import HandlerBundle.Text.Utf8

/-!
# Archives of modules

An archive is a byte string that holds module records: a mark, a version and the number of records,
and then for each record its name, its flags and its source. Numbers are big-endian; a name comes
after its length in two bytes, and a source after its length in four.

## Main definitions

* `ModuleRecord` — a module to be shipped.
* `Archive.encode`, `Archive.decode` — records as an archive, and back.
* `Archive.EncodeError`, `Archive.DecodeError` — why records have no archive, and bytes are none.
-/

namespace HandlerBundle

/-- A module to be shipped. -/
structure ModuleRecord where
  name : String
  isPackage : Bool
  source : Bytes
  deriving DecidableEq, Repr

namespace Archive

/-- The mark at the start of an archive. -/
def mark : Bytes := [0x46, 0x50, 0x4B, 0x4D]

/-- The version of the layout. -/
def version : Nat := 1

/-- The bits of a flag byte that say that a module is a package. -/
def packageFlag : Nat := 1

/-- Why records have no archive. -/
inductive EncodeError where
  | nameTooLong
  | sourceTooLong
  | tooManyRecords
  deriving DecidableEq, Repr

namespace EncodeError

/-- The message of the error. -/
def message : EncodeError → String
  | .nameTooLong => "'H' format requires 0 <= number <= 65535"
  | .sourceTooLong | .tooManyRecords => "'I' format requires 0 <= number <= 4294967295"

end EncodeError

/-- The bytes of one record. -/
def encodeRecord (r : ModuleRecord) : Except EncodeError Bytes :=
  let name := Utf8.encode r.name
  if twoTo 16 ≤ name.length then .error .nameTooLong
  else if twoTo 32 ≤ r.source.length then .error .sourceTooLong
  else
    .ok (bigEndian 2 name.length ++ name ++ [if r.isPackage then 1 else 0] ++
      bigEndian 4 r.source.length ++ r.source)

/-- The archive of records, in their order. -/
def encode (rs : List ModuleRecord) : Except EncodeError Bytes :=
  if twoTo 32 ≤ rs.length then .error .tooManyRecords
  else do
    let parts ← rs.mapM encodeRecord
    return mark ++ [UInt8.ofNat version] ++ bigEndian 4 rs.length ++ parts.flatten

/-- The archive of records in the order of their names. -/
def encodeSorted (rs : List ModuleRecord) : Except EncodeError Bytes :=
  encode (rs.mergeSort fun a b => a.name ≤ b.name)

/-- Why bytes are no archive. -/
inductive DecodeError where
  | badMark
  | unsupportedVersion (found : Nat)
  /-- The bytes end before `count` bytes that start at `offset`. -/
  | truncated (offset count size : Nat)
  | truncatedRecord (name : String)
  | badName (cause : Utf8.DecodeError)
  deriving DecidableEq, Repr

namespace DecodeError

/-- The message of the error. -/
def message : DecodeError → String
  | .badMark => "module blob has bad magic"
  | .unsupportedVersion found => "unsupported module blob version: " ++ toString found
  | .truncated offset count size =>
    "module blob truncated: unpack_from requires a buffer of at least " ++
      toString (offset + count) ++ " bytes for unpacking " ++ toString count ++
      " bytes at offset " ++ toString offset ++ " (actual buffer size is " ++ toString size ++ ")"
  | .truncatedRecord name => "module blob truncated in record " ++ quoted name
  | .badName cause => cause.message

end DecodeError

/-- Takes `count` bytes at an offset; `rest` is what the archive holds from there on. -/
def takeField (size count offset : Nat) (rest : Bytes) : Except DecodeError (Bytes × Bytes) :=
  if rest.length < count then .error (.truncated offset count size)
  else .ok (rest.take count, rest.drop count)

/-- Reads one record at an offset, and returns it with the offset behind it and the rest. -/
def decodeRecord (size offset : Nat) (rest : Bytes) :
    Except DecodeError (ModuleRecord × Nat × Bytes) := do
  let (field, rest) ← takeField size 2 offset rest
  let nameLength := numberOf field
  let name ← match Utf8.decode (rest.take nameLength) with
    | .ok name => .ok name
    | .error cause => .error (.badName cause)
  let rest := rest.drop nameLength
  let (field, rest) ← takeField size 5 (offset + 2 + nameLength) rest
  let flags := numberOf (field.take 1)
  let length := numberOf (field.drop 1)
  if rest.length < length then .error (.truncatedRecord name)
  else
    return (⟨name, flags % 2 == packageFlag, rest.take length⟩,
      offset + 2 + nameLength + 5 + length, rest.drop length)

/-- Reads a number of records from an offset on. What follows them does not matter. -/
def decodeRecords (size offset : Nat) (rest : Bytes) : Nat →
    Except DecodeError (List ModuleRecord)
  | 0 => .ok []
  | count + 1 => do
    let (r, offset, rest) ← decodeRecord size offset rest
    let rs ← decodeRecords size offset rest count
    return r :: rs

/-- The records of an archive. -/
def decode (bs : Bytes) : Except DecodeError (List ModuleRecord) := do
  if bs.take 4 != mark then .error .badMark
  else
    let (field, rest) ← takeField bs.length 5 4 (bs.drop 4)
    let found := numberOf (field.take 1)
    if found != version then .error (.unsupportedVersion found)
    else decodeRecords bs.length 9 rest (numberOf (field.drop 1))

end Archive

end HandlerBundle
