import HandlerBundle.Failure
import HandlerBundle.Text.Utf8

/-!
# The encoding of a source

A source file is a byte string. Its lines may end in a line feed, a carriage return or both, and it
may declare its encoding: by a mark at its start, or in a comment on its first line, or on its
second one if the first holds nothing else. Without a declaration it is UTF-8, and bytes that are no
text then only matter where they are read as a part of the program; a declared encoding has to fit
the whole file. Which other encodings there are is up to the program that reads the source.

## Main definitions

* `SourceReader` — what depends on the program that reads sources.
* `declaredEncoding?` — the name that a line declares.
* `readSource?` — the characters of a source.
-/

namespace HandlerBundle

/-- What the reading of a source leaves to the program that reads it. -/
structure SourceReader where
  /-- What decodes bytes in the encoding of a name, if the name is known. UTF-8 is read without
  it. -/
  codec? : String → Option (Bytes → Option (List Char))
  /-- Whether a text is the name of a character. -/
  namesCharacter : String → Bool
  /-- What is said about a malformed source, which is given with its name. -/
  explain : String → Bytes → String
  /-- The failure that stops the reading of a source, for one with no null byte: it may be nested
  deeper than the program can follow, or need more memory than there is. -/
  stop? : Bytes → Option Failure

/-- A reader that knows no encoding but UTF-8 and no character by name, and reads everything. -/
def SourceReader.plain : SourceReader where
  codec? _ := none
  namesCharacter _ := false
  explain _ _ := "invalid syntax"
  stop? _ := none

/-- Whether a byte is the code of an ASCII character. -/
def isByteOf (c : Char) (b : UInt8) : Bool := b.toNat == c.toNat

/-- Bytes with every line end turned into a line feed; `afterReturn` tells whether a carriage return
stands in front. -/
def unifyLineEnds (afterReturn : Bool) : Bytes → Bytes
  | [] => []
  | b :: rest =>
    if isByteOf '\r' b then 10 :: unifyLineEnds true rest
    else if afterReturn && isByteOf '\n' b then unifyLineEnds false rest
    else b :: unifyLineEnds false rest

/-- Whether bytes end with a line end of a single byte. -/
def endsLine (bs : Bytes) : Bool :=
  match bs.reverse with
  | last :: before =>
    isByteOf '\r' last || (isByteOf '\n' last && !before.head?.any (isByteOf '\r'))
  | [] => false

/-- Bytes with every line end turned into a line feed, and one more at the end unless they end with
a line end of a single byte. -/
def unifiedLines (bs : Bytes) : Bytes :=
  unifyLineEnds false bs ++ if endsLine bs then [] else [10]

/-- Whether a byte is a blank within a line. -/
def isInlineBlank (b : UInt8) : Bool := b == 32 || b == 9 || b == 12

/-- Whether a byte may stand in the name of an encoding. -/
def isEncodingNameByte (b : UInt8) : Bool :=
  let c := Char.ofNat b.toNat
  c.isAlphanum || c == '-' || c == '_' || c == '.'

/-- The name behind the word `coding` and a colon or equals sign, wherever that stands first. -/
def codingName? : Bytes → Option String
  | [] => none
  | b :: rest =>
    let cs := b :: rest
    let after := cs.drop 6
    let found :=
      if (Utf8.encode "coding").isPrefixOf cs && (after.head?.any fun c => c == 58 || c == 61) then
        (after.drop 1).dropWhile (fun c => c == 32 || c == 9) |>.takeWhile isEncodingNameByte
      else []
    if found.isEmpty then codingName? rest
    else some (String.ofList (found.map fun c => Char.ofNat c.toNat))

/-- The spelling of an encoding name by which declarations are compared. -/
def declaredName (name : String) : String :=
  let short := (name.toList.take 12).map fun c => if c == '_' then '-' else c.toLower
  let is := fun (word : String) => short == word.toList || (word ++ "-").toList.isPrefixOf short
  if is "utf-8" then "utf-8"
  else if is "latin-1" || is "iso-8859-1" || is "iso-latin-1" then "iso-8859-1"
  else name

/-- The encoding that a line declares: in a comment with nothing but blanks in front. -/
def declaredEncoding? (line : Bytes) : Option String :=
  let comment := line.dropWhile isInlineBlank
  if comment.head? == some 35 then (codingName? comment).map declaredName else none

/-- Whether a line holds nothing but blanks and a comment. -/
def isIdleLine (line : Bytes) : Bool :=
  match line.dropWhile isInlineBlank with
  | [] => true
  | b :: _ => b == 35

/-- The encoding declared on the first two lines of a source. -/
def sourceEncoding? (bs : Bytes) : Option String :=
  let first := bs.takeWhile fun b => b != 10
  let second := (bs.drop (first.length + 1)).takeWhile fun b => b != 10
  match declaredEncoding? first with
  | some name => some name
  | none => if isIdleLine first then declaredEncoding? second else none

/-- Why a byte string is not read as a source. -/
inductive SourceError where
  /-- A source cannot hold the null byte. -/
  | nullByte
  | stopped (cause : Failure)
  | malformed
  deriving DecidableEq, Repr

/-- The mark that a source in UTF-8 may start with. -/
def startMark : Bytes := [0xEF, 0xBB, 0xBF]

/-- Stands for a byte that is no part of a character. -/
def strayMark : Char := Char.ofNat 0

/-- The characters of a source, with `strayMark` for each stray byte. -/
def readSource? (reader : SourceReader) (bs : Bytes) : Except SourceError (List Char) :=
  if bs.contains 0 then .error .nullByte
  else
    match reader.stop? bs with
    | some cause => .error (.stopped cause)
    | none =>
      let bs := unifiedLines bs
      let marked := startMark.isPrefixOf bs
      let bs := if marked then bs.drop 3 else bs
      match sourceEncoding? bs with
      | none => .ok (Utf8.decodeLoosely strayMark bs)
      | some name =>
        if name == "utf-8" then .ok (Utf8.decodeLoosely strayMark bs)
        else if marked then .error .malformed
        else
          match (reader.codec? name).bind fun decode? => decode? bs with
          | some cs => .ok cs
          | none => .error .malformed

end HandlerBundle
