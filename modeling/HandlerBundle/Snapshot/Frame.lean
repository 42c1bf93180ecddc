import HandlerBundle.Snapshot.Instruction

/-!
# Frames

The instructions of a snapshot are written in frames. A frame is closed before an object if it has
become long enough, and at the end. A long text or byte string stands outside of any frame, and a
frame that is too short to be worth its header is written without one.

## Main definitions

* `Part` — an instruction, or the place where an object starts.
* `Frame.write` — the bytes of a snapshot with the given parts.
-/

namespace HandlerBundle

/-- A part of a snapshot. -/
inductive Part where
  /-- The instructions for an object start here. -/
  | boundary
  | code (i : Instruction)
  deriving DecidableEq, Repr

namespace Frame

/-- The length from which a frame is closed before the next object, and from which a text or byte
string stands alone. -/
def longLength : Nat := 64 * 1024

/-- The length from which a frame has a header. -/
def leastLength : Nat := 4

/-- The bytes of a frame with the given content. -/
def close (content : Bytes) : Bytes :=
  if content.length < leastLength then content
  else ( Instruction.frame content.length).encode ++ content

/-- What is written so far: closed frames, latest first, and the open frame, latest bytes first,
with its length. -/
structure Output where
  closed : List Bytes
  pieces : List Bytes
  length : Nat

namespace Output

/-- Nothing. -/
def empty : Output := ⟨[], [], 0⟩

/-- Closes the open frame. -/
def flush (o : Output) : Output :=
  if o.pieces.isEmpty then o else ⟨close o.pieces.reverse.flatten :: o.closed, [], 0⟩

/-- Writes one part. -/
def put (o : Output) : Part → Output
  | .boundary => if longLength ≤ o.length then o.flush else o
  | .code i =>
    let bs := i.encode
    if longLength ≤ i.payloadLength then
      let o := o.flush
      { o with closed := bs :: o.closed }
    else { o with pieces := bs :: o.pieces, length := o.length + bs.length }

/-- All bytes that are written. -/
def bytes (o : Output) : Bytes :=
  o.flush.closed.reverse.flatten

end Output

/-- The bytes of a snapshot with the given parts. -/
def write (parts : List Part) : Bytes :=
  ( Instruction.version Instruction.currentVersion).encode ++
    (parts.foldl Output.put Output.empty).bytes

end Frame

end HandlerBundle
