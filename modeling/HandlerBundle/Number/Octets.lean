import HandlerBundle.Constant
import HandlerBundle.Number.Power

/-!
# Numbers as bytes

A number is written with a given number of bytes, the highest or the lowest first. A signed integer
is written in two's complement with as few bytes as hold its sign.

## Main definitions

* `bigEndian`, `littleEndian` — a number in a given number of bytes.
* `numberOf` — the number that bytes with the highest first stand for.
* `signedBytes`, `signedNumberOf` — integers in two's complement, lowest byte first.
-/

namespace HandlerBundle

/-- The last `width` bytes of a number, the highest first. -/
def bigEndian : Nat → Nat → Bytes
  | 0, _ => []
  | width + 1, n => bigEndian width (n / 256) ++ [UInt8.ofNat (n % 256)]

/-- The last `width` bytes of a number, the lowest first. -/
def littleEndian : Nat → Nat → Bytes
  | 0, _ => []
  | width + 1, n => UInt8.ofNat (n % 256) :: littleEndian width (n / 256)

/-- The number of big-endian bytes. -/
def numberOf (bs : Bytes) : Nat :=
  bs.foldl (fun n b => 256 * n + b.toNat) 0

/-- The number of little-endian bytes. -/
def littleNumberOf (bs : Bytes) : Nat :=
  bs.foldr (fun b n => b.toNat + 256 * n) 0

/-- The number of binary digits of a number; zero has none. -/
def bitLength (n : Nat) : Nat :=
  if n = 0 then 0 else n.log2 + 1

/-- The number of bytes that hold an integer with its sign. -/
def signedWidth : Int → Nat
  | .ofNat n => bitLength n / 8 + 1
  | .negSucc n => bitLength n / 8 + 1

/-- The last `width` bytes of an integer in two's complement, the lowest first. -/
def twosComplement (width : Nat) (n : Int) : Bytes :=
  littleEndian width (n.emod (twoTo (8 * width) : Nat)).toNat

/-- An integer in two's complement, the lowest byte first. -/
def signedBytes (n : Int) : Bytes :=
  twosComplement (signedWidth n) n

/-- The integer that bytes in two's complement stand for. -/
def signedNumberOf (bs : Bytes) : Int :=
  let n := littleNumberOf bs
  if 2 * n < twoTo (8 * bs.length) then n else (n : Int) - (twoTo (8 * bs.length) : Nat)

end HandlerBundle
