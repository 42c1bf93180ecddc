import HandlerBundle.Number.Octets
import HandlerBundle.Text.Utf8

/-!
# Instructions of a snapshot

A snapshot is a program that builds a value on a stack. An instruction is one byte that says what to
do, and after it what the instruction needs. Lengths and places are little-endian, and the shortest
of the forms that hold an instruction is the one that is written.

## Main definitions

* `Instruction` — the instructions.
* `Instruction.encode` — the bytes of an instruction.
-/

namespace HandlerBundle

/-- An instruction of a snapshot. -/
inductive Instruction where
  /-- Says which version of the instructions is used. -/
  | version (n : Nat)
  /-- Says how many bytes of instructions follow together. -/
  | frame (length : Nat)
  | pushNone
  | pushBool (b : Bool)
  | pushInt (n : Int)
  | pushFloat (x : Binary64)
  | pushText (s : String)
  | pushBytes (bs : Bytes)
  | pushByteArray (bs : Bytes)
  | emptyTuple
  | emptyList
  | emptyDict
  | emptySet
  /-- Marks the top of the stack. -/
  | mark
  | pop
  /-- Drops what is above the last mark, and the mark. -/
  | popMarked
  | duplicate
  /-- A tuple of the last one, two or three objects. -/
  | tuple (count : Nat)
  /-- These four make a container of what is above the last mark. -/
  | tupleOfMarked
  | listOfMarked
  | dictOfMarked
  | frozenSetOfMarked
  | append
  /-- These put what is above the last mark into the container below it. -/
  | appends
  | setItem
  | setItems
  | addItems
  /-- The object of a name in a module. -/
  | named (module name : String)
  /-- The object of a name in a module, where both are on the stack. -/
  | namedOnStack
  /-- Calls an object with a tuple of arguments. -/
  | call
  /-- Makes an instance of a class with a tuple of arguments. -/
  | newInstance
  /-- Gives an object its state. -/
  | build
  /-- Remembers the object on top at the next free place. -/
  | memoize
  | remember (place : Nat)
  | recall (place : Nat)
  /-- Ends the program with the object on top. -/
  | stop
  deriving DecidableEq, Repr

namespace Instruction

/-- The version of the instructions that is written. -/
def currentVersion : Nat := 4

/-- The bytes of an instruction with a text or byte string. There is a form each for lengths in one
byte, in four and in eight. -/
def encodeSized (short medium long : UInt8) (bs : Bytes) : Bytes :=
  if bs.length < twoTo 8 then short :: (littleEndian 1 bs.length ++ bs)
  else if bs.length < twoTo 32 then medium :: (littleEndian 4 bs.length ++ bs)
  else long :: (littleEndian 8 bs.length ++ bs)

/-- The bytes of an instruction that pushes an integer. -/
def encodeInt (n : Int) : Bytes :=
  if 0 ≤ n ∧ n < twoTo 8 then 0x4b :: littleEndian 1 n.toNat
  else if 0 ≤ n ∧ n < twoTo 16 then 0x4d :: littleEndian 2 n.toNat
  else if -twoTo 31 ≤ n ∧ n < twoTo 31 then 0x4a :: twosComplement 4 n
  else
    let bs := signedBytes n
    if bs.length < twoTo 8 then 0x8a :: (littleEndian 1 bs.length ++ bs)
    else 0x8b :: (littleEndian 4 bs.length ++ bs)

/-- The bytes of an instruction with a place. -/
def encodePlace (short long : UInt8) (place : Nat) : Bytes :=
  if place < twoTo 8 then short :: littleEndian 1 place else long :: littleEndian 4 place

/-- The byte that ends a line. -/
def lineEnd : UInt8 := 0x0a

/-- The bytes of an instruction. -/
def encode : Instruction → Bytes
  | .version n => 0x80 :: littleEndian 1 n
  | .frame length => 0x95 :: littleEndian 8 length
  | .pushNone => [0x4e]
  | .pushBool b => [if b then 0x88 else 0x89]
  | .pushInt n => encodeInt n
  | .pushFloat x => 0x47 :: bigEndian 8 x.bits.toNat
  | .pushText s => encodeSized 0x8c 0x58 0x8d (Utf8.encode s)
  | .pushBytes bs => encodeSized 0x43 0x42 0x8e bs
  | .pushByteArray bs => 0x96 :: (littleEndian 8 bs.length ++ bs)
  | .emptyTuple => [0x29]
  | .emptyList => [0x5d]
  | .emptyDict => [0x7d]
  | .emptySet => [0x8f]
  | .mark => [0x28]
  | .pop => [0x30]
  | .popMarked => [0x31]
  | .duplicate => [0x32]
  | .tuple count => [UInt8.ofNat (0x84 + count)]
  | .tupleOfMarked => [0x74]
  | .listOfMarked => [0x6c]
  | .dictOfMarked => [0x64]
  | .frozenSetOfMarked => [0x91]
  | .append => [0x61]
  | .appends => [0x65]
  | .setItem => [0x73]
  | .setItems => [0x75]
  | .addItems => [0x90]
  | .named module name =>
    0x63 :: (Utf8.encode module ++ [lineEnd] ++ Utf8.encode name ++ [lineEnd])
  | .namedOnStack => [0x93]
  | .call => [0x52]
  | .newInstance => [0x81]
  | .build => [0x62]
  | .memoize => [0x94]
  | .remember place => encodePlace 0x71 0x72 place
  | .recall place => encodePlace 0x68 0x6a place
  | .stop => [0x2e]

/-- The length of the text or byte string in an instruction. -/
def payloadLength : Instruction → Nat
  | .pushText s => s.utf8ByteSize
  | .pushBytes bs => bs.length
  | _ => 0

end Instruction

end HandlerBundle
