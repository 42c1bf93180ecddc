import HandlerBundle.Constant

/-!
# UTF-8

The bytes of a character, and the reading of bytes back into characters. Reading accepts only the
shortest form of a character and no surrogates; a fault says how many bytes are to blame, which are
the longest beginning of a character that is there.

## Main definitions

* `Utf8.encode`, `Utf8.decode` — a text as bytes, and back.
* `Utf8.readChar` — one character off the front of bytes.
* `Utf8.Fault`, `Utf8.DecodeError` — why bytes are no text.
-/

namespace HandlerBundle

namespace Utf8

/-- A byte with the given high bits over the low six bits of `n`. -/
def tailByte (n : Nat) : UInt8 := UInt8.ofNat (0x80 + n % 64)

/-- The bytes of a character. -/
def encodeChar (c : Char) : Bytes :=
  let n := c.toNat
  if n < 0x80 then [UInt8.ofNat n]
  else if n < 0x800 then [UInt8.ofNat (0xC0 + n / 64), tailByte n]
  else if n < 0x10000 then [UInt8.ofNat (0xE0 + n / 4096), tailByte (n / 64), tailByte n]
  else
    [UInt8.ofNat (0xF0 + n / 262144), tailByte (n / 4096), tailByte (n / 64), tailByte n]

/-- The bytes of characters. -/
def encodeChars (cs : List Char) : Bytes := cs.flatMap encodeChar

/-- The bytes of a text. -/
def encode (s : String) : Bytes := encodeChars s.toList

/-- Why bytes do not begin with a character. -/
inductive Fault where
  | invalidStart
  /-- A byte other than the `count` first ones does not continue the character. -/
  | invalidContinuation (count : Nat)
  | truncated
  deriving DecidableEq, Repr

/-- What a first byte says: the number of bytes, its own bits, and the bounds for the second. -/
structure Lead where
  length : Nat
  bits : Nat
  low : Nat
  high : Nat

/-- What a first byte says, if one can begin a character of several bytes. -/
def lead? (b : Nat) : Option Lead :=
  if b < 0xC2 then none
  else if b < 0xE0 then some ⟨2, b - 0xC0, 0x80, 0xBF⟩
  else if b < 0xF0 then
    some ⟨3, b - 0xE0, if b = 0xE0 then 0xA0 else 0x80, if b = 0xED then 0x9F else 0xBF⟩
  else if b < 0xF5 then
    some ⟨4, b - 0xF0, if b = 0xF0 then 0x90 else 0x80, if b = 0xF4 then 0x8F else 0xBF⟩
  else none

/-- Reads `count` more bytes of a character; `seen` bytes are read, with value `n`, and the next one
has its own bounds. -/
def readTail (low high seen n : Nat) : Nat → Bytes → Except Fault (Nat × Bytes)
  | 0, bs => .ok (n, bs)
  | _ + 1, [] => .error .truncated
  | count + 1, b :: bs =>
    if low ≤ b.toNat ∧ b.toNat ≤ high then
      readTail 0x80 0xBF (seen + 1) (64 * n + b.toNat % 64) count bs
    else .error (.invalidContinuation seen)

/-- Reads one character off the front of bytes that are not empty. -/
def readChar (b : UInt8) (bs : Bytes) : Except Fault (Char × Bytes) :=
  if b.toNat < 0x80 then .ok (Char.ofNat b.toNat, bs)
  else
    match lead? b.toNat with
    | none => .error .invalidStart
    | some lead =>
      match readTail lead.low lead.high 1 lead.bits (lead.length - 1) bs with
      | .ok (n, rest) => .ok (Char.ofNat n, rest)
      | .error fault => .error fault

theorem length_of_readTail {low high seen n count : Nat} {bs rest : Bytes} {m : Nat}
    (h : readTail low high seen n count bs = .ok (m, rest)) : rest.length ≤ bs.length := by
  fun_induction readTail low high seen n count bs with
  | case1 => cases h; exact Nat.le_refl _
  | case2 => cases h
  | case3 _ _ _ _ _ _ _ _ ih => exact Nat.le_succ_of_le (ih h)
  | case4 => cases h

theorem length_of_readChar {b : UInt8} {bs rest : Bytes} {c : Char}
    (h : readChar b bs = .ok (c, rest)) : rest.length ≤ bs.length := by
  unfold readChar at h
  split at h
  · cases h; exact Nat.le_refl _
  · split at h
    · cases h
    · split at h
      · rename_i heq
        cases h
        exact length_of_readTail heq
      · cases h

/-- Why bytes are no text, and where. -/
structure DecodeError where
  /-- The bytes in front of the fault. -/
  position : Nat
  /-- The first byte to blame. -/
  byte : UInt8
  /-- The number of bytes to blame. -/
  length : Nat
  fault : Fault
  deriving DecidableEq, Repr

namespace DecodeError

/-- The words for a fault. -/
def reason : Fault → String
  | .invalidStart => "invalid start byte"
  | .invalidContinuation _ => "invalid continuation byte"
  | .truncated => "unexpected end of data"

/-- The message of the error. -/
def message (e : DecodeError) : String :=
  let place :=
    if e.length = 1 then
      "byte 0x" ++ String.ofList (hexPadded 2 e.byte.toNat) ++ " in position " ++
        toString e.position
    else
      "bytes in position " ++ toString e.position ++ "-" ++ toString (e.position + e.length - 1)
  "'utf-8' codec can't decode " ++ place ++ ": " ++ reason e.fault

end DecodeError

/-- The number of bytes that a fault blames, of those from the first one on. -/
def blamed (fault : Fault) (left : Nat) : Nat :=
  match fault with
  | .invalidStart => 1
  | .invalidContinuation count => count
  | .truncated => left

/-- Reads the rest of `total` bytes as characters; `done` are read, latest first. -/
def decodeChars (total : Nat) (done : List Char) (bs : Bytes) : Except DecodeError (List Char) :=
  match bs with
  | [] => .ok done.reverse
  | b :: rest =>
    match _h : readChar b rest with
    | .error fault =>
      .error ⟨total - (rest.length + 1), b, blamed fault (rest.length + 1), fault⟩
    | .ok (c, left) => decodeChars total (c :: done) left
termination_by bs.length
decreasing_by exact Nat.lt_succ_of_le (length_of_readChar _h)

/-- Reads bytes as a text. -/
def decode (bs : Bytes) : Except DecodeError String :=
  (decodeChars bs.length [] bs).map String.ofList

/-- Reads bytes as characters, with `mark` for each byte that is part of none. -/
def decodeLoosely (mark : Char) (bs : Bytes) : List Char :=
  match bs with
  | [] => []
  | b :: rest =>
    match _h : readChar b rest with
    | .error _ => mark :: decodeLoosely mark rest
    | .ok (c, left) => c :: decodeLoosely mark left
termination_by bs.length
decreasing_by
  · exact Nat.lt_succ_self _
  · exact Nat.lt_succ_of_le (length_of_readChar _h)

end Utf8

end HandlerBundle
