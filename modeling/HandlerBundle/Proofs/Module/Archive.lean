import HandlerBundle.Module.Archive
import HandlerBundle.Proofs.Number.Octets
import HandlerBundle.Proofs.Results
import HandlerBundle.Proofs.Text.Utf8

/-!
# Archives are read back

A record has a place in an archive if the two bytes in front of its name and the four in front of
its source hold their lengths. An archive exists for exactly the lists of such records that are
not too long themselves, and the records are read back from it: behind each record the reader
stands at the offset where the next one was written.

## Main definitions

* `Archive.Fits` — the records that have a place in an archive.
* `Archive.layout`, `Archive.layoutWith` — the bytes of such a record, also with other flags.

## Main results

* `Archive.encode_eq_ok_iff` — when there is an archive, and its bytes.
* `Archive.decodeRecord_layout` — a record is read back off the front of its bytes.
* `Archive.encode_decode_round_trip` — when there is an archive, and what is read back from it.
-/

namespace HandlerBundle

namespace Archive

/-! ### Writing -/

/-- The lengths of a name and of a source fit in the bytes in front of them. -/
def Fits (r : ModuleRecord) : Prop :=
  (Utf8.encode r.name).length < 2 ^ 16 ∧ r.source.length < 2 ^ 32

/-- The flag byte of a record. -/
def flagByte (r : ModuleRecord) : UInt8 := if r.isPackage then 1 else 0

/-- The bytes of a record with a given flag byte: its name after its length, the flags, and its
source after its length. -/
def layoutWith (flags : UInt8) (r : ModuleRecord) : Bytes :=
  bigEndian 2 (Utf8.encode r.name).length ++ Utf8.encode r.name ++ [flags] ++
    bigEndian 4 r.source.length ++ r.source

/-- The bytes of a record: its name after its length, its flags, and its source after its
length. -/
def layout (r : ModuleRecord) : Bytes :=
  bigEndian 2 (Utf8.encode r.name).length ++ Utf8.encode r.name ++ [flagByte r] ++
    bigEndian 4 r.source.length ++ r.source

theorem encodeRecord_of_fits {r : ModuleRecord} (h : Fits r) :
    encodeRecord r = .ok (layout r) := by
  have hname : ¬ twoTo 16 ≤ (Utf8.encode r.name).length := Nat.not_le.mpr h.1
  have hsource : ¬ twoTo 32 ≤ r.source.length := Nat.not_le.mpr h.2
  rw [encodeRecord, if_neg hname, if_neg hsource]
  rfl

theorem fits_of_encodeRecord {r : ModuleRecord} {bs : Bytes} (h : encodeRecord r = .ok bs) :
    Fits r := by
  by_cases hname : twoTo 16 ≤ (Utf8.encode r.name).length
  · rw [encodeRecord, if_pos hname] at h
    cases h
  by_cases hsource : twoTo 32 ≤ r.source.length
  · rw [encodeRecord, if_neg hname, if_pos hsource] at h
    cases h
  exact ⟨Nat.not_le.mp hname, Nat.not_le.mp hsource⟩

theorem encodeRecord_eq_ok_iff {r : ModuleRecord} {bs : Bytes} :
    encodeRecord r = .ok bs ↔ Fits r ∧ layout r = bs := by
  constructor
  · intro h
    have hfits := fits_of_encodeRecord h
    exact ⟨hfits, Except.ok.inj ((encodeRecord_of_fits hfits).symm.trans h)⟩
  · rintro ⟨hfits, rfl⟩
    exact encodeRecord_of_fits hfits

/-- Records are written one by one, if all of them fit. -/
theorem mapM_encodeRecord_eq_ok_iff {rs : List ModuleRecord} {parts : List Bytes} :
    rs.mapM encodeRecord = .ok parts ↔ (∀ r ∈ rs, Fits r) ∧ parts = rs.map layout := by
  rw [mapM_eq_ok_iff]
  simp only [encodeRecord_eq_ok_iff]
  rw [List.forall₂_and_left, ← List.forall₂_map_left_iff, List.forall₂_eq_eq_eq, @eq_comm _ parts]

/-- The bytes in front of the records: the mark, the version and the number of records. -/
def header (count : Nat) : Bytes :=
  mark ++ [UInt8.ofNat version] ++ bigEndian 4 count

/-- There is an archive of records if they are not too many and all of them fit: it holds the
records behind the header. -/
theorem encode_eq_ok_iff {rs : List ModuleRecord} {bs : Bytes} :
    encode rs = .ok bs ↔
      (rs.length < 2 ^ 32 ∧ ∀ r ∈ rs, Fits r) ∧
        bs = header rs.length ++ (rs.map layout).flatten := by
  rw [encode]
  split_ifs with hcount
  · exact ⟨nofun, fun h => absurd h.1.1 (Nat.not_lt.mpr hcount)⟩
  · constructor
    · intro h
      cases hparts : rs.mapM encodeRecord with
      | error e => rw [hparts] at h; cases h
      | ok parts =>
        rw [hparts] at h
        obtain ⟨hall, rfl⟩ := mapM_encodeRecord_eq_ok_iff.mp hparts
        exact ⟨⟨Nat.not_le.mp hcount, hall⟩, (Except.ok.inj h).symm⟩
    · rintro ⟨⟨-, hall⟩, rfl⟩
      rw [mapM_encodeRecord_eq_ok_iff.mpr ⟨hall, rfl⟩]
      rfl

/-! ### Reading -/

theorem takeField_append {size count : Nat} (offset : Nat) {field : Bytes} (rest : Bytes)
    (h : field.length = count) :
    takeField size count offset (field ++ rest) = .ok (field, rest) := by
  subst h
  rw [takeField, List.length_append, if_neg (by omega), List.take_left, List.drop_left]

theorem testBit_flagByte (r : ModuleRecord) : (flagByte r).toNat.testBit 0 = r.isPackage := by
  unfold flagByte
  cases r.isPackage <;> rfl

/-- A record is read off the front of its bytes, whatever its flag byte says beside whether it is a
package. -/
theorem decodeRecord_layoutWith (size offset : Nat) {flags : UInt8} {r : ModuleRecord}
    (rest : Bytes) (h : Fits r) (hflags : flags.toNat.testBit 0 = r.isPackage) :
    decodeRecord size offset (layoutWith flags r ++ rest) =
      .ok (r, offset + (layoutWith flags r).length, rest) := by
  have hname : numberOf (bigEndian 2 (Utf8.encode r.name).length) =
      (Utf8.encode r.name).length := numberOf_bigEndian h.1
  have hsource : numberOf (bigEndian 4 r.source.length) = r.source.length :=
    numberOf_bigEndian h.2
  have hflag : numberOf [flags] = flags.toNat := numberOf_singleton flags
  have hpackage : (flags.toNat % 2 == packageFlag) = r.isPackage := by
    rw [← hflags, Nat.testBit_zero]
    rfl
  have hbytes : layoutWith flags r ++ rest =
      bigEndian 2 (Utf8.encode r.name).length ++ (Utf8.encode r.name ++
        ((flags :: bigEndian 4 r.source.length) ++ (r.source ++ rest))) := by
    simp only [layoutWith, List.append_assoc, List.cons_append, List.nil_append]
  have hlength : (layoutWith flags r).length =
      2 + (Utf8.encode r.name).length + 5 + r.source.length := by
    simp only [layoutWith, List.length_append, length_bigEndian, List.length_singleton]
  rw [hbytes, hlength, decodeRecord, takeField_append _ _ (length_bigEndian 2 _)]
  simp only [bind, Except.bind, hname, List.take_left, List.drop_left, Utf8.decode_encode]
  rw [takeField_append _ _ (by rw [List.length_cons, length_bigEndian])]
  simp only [List.take_succ_cons, List.take_zero, List.drop_succ_cons, List.drop_zero, hflag,
    hsource, hpackage, List.take_left, List.drop_left]
  rw [if_neg (by rw [List.length_append]; omega)]
  simp only [pure, Except.pure, Nat.add_assoc]

/-- **A record is read back** off the front of its bytes, and what follows them is left. -/
theorem decodeRecord_layout (size offset : Nat) {r : ModuleRecord} (rest : Bytes)
    (h : Fits r) :
    decodeRecord size offset (layout r ++ rest) =
      .ok (r, offset + (layout r).length, rest) :=
  decodeRecord_layoutWith size offset rest h (testBit_flagByte r)

/-- Records are read back from their bytes, and what follows them does not matter. -/
theorem decodeRecords_layout (size offset : Nat) (rest : Bytes) {rs : List ModuleRecord}
    (h : ∀ r ∈ rs, Fits r) :
    decodeRecords size offset ((rs.map layout).flatten ++ rest) rs.length = .ok rs := by
  induction rs generalizing offset with
  | nil => rfl
  | cons r rs ih =>
    rw [List.forall_mem_cons] at h
    obtain ⟨hr, hrs⟩ := h
    rw [List.map_cons, List.flatten_cons, List.append_assoc, List.length_cons, decodeRecords,
      decodeRecord_layout _ _ _ hr]
    simp only [bind, Except.bind, ih _ hrs]
    rfl

/-- An archive is read by its records, whatever follows them. -/
theorem decode_header_append {count : Nat} (h : count < 2 ^ 32) (bs : Bytes) :
    decode (header count ++ bs) =
      decodeRecords (header count ++ bs).length 9 bs count := by
  have hcount : numberOf (bigEndian 4 count) = count := numberOf_bigEndian h
  have hbytes : header count ++ bs =
      mark ++ ((UInt8.ofNat version :: bigEndian 4 count) ++ bs) := by
    simp only [header, List.append_assoc, List.cons_append, List.nil_append]
  have htake : (header count ++ bs).take 4 = mark := by
    rw [hbytes]
    exact List.take_left' rfl
  have hdrop : (header count ++ bs).drop 4 =
      (UInt8.ofNat version :: bigEndian 4 count) ++ bs := by
    rw [hbytes]
    exact List.drop_left' rfl
  have hversion : numberOf [UInt8.ofNat version] = version := rfl
  rw [decode, htake, hdrop, takeField_append _ _ (by rw [List.length_cons, length_bigEndian])]
  simp only [bind, Except.bind, bne_self_eq_false, List.take_succ_cons, List.take_zero,
    List.drop_succ_cons, List.drop_zero, hversion, hcount]
  rfl

/-- The records of an archive are those it was made of. -/
theorem decode_eq_ok_of_encode_eq_ok {rs : List ModuleRecord} {bs : Bytes}
    (h : encode rs = .ok bs) : decode bs = .ok rs := by
  obtain ⟨⟨hcount, hall⟩, rfl⟩ := encode_eq_ok_iff.mp h
  rw [decode_header_append hcount]
  conv => enter [1, 3]; rw [← List.append_nil (rs.map layout).flatten]
  exact decodeRecords_layout _ _ _ hall

/-- **Archives are read back.** There is an archive of records, in whatever order and under
whatever names, exactly if there are fewer than `2 ^ 32` of them, every name has fewer than
`2 ^ 16` bytes and every source fewer than `2 ^ 32`. Reading an archive returns the records it was
made of. -/
theorem encode_decode_round_trip (rs : List ModuleRecord) :
    ((∃ bs, encode rs = .ok bs) ↔
      rs.length < 2 ^ 32 ∧
        ∀ r ∈ rs, (Utf8.encode r.name).length < 2 ^ 16 ∧ r.source.length < 2 ^ 32) ∧
      ∀ bs, encode rs = .ok bs → decode bs = .ok rs := by
  constructor
  · constructor
    · rintro ⟨bs, h⟩
      exact (encode_eq_ok_iff.mp h).1
    · intro h
      exact ⟨_, encode_eq_ok_iff.mpr ⟨h, rfl⟩⟩
  · intro bs h
    obtain ⟨⟨hcount, hall⟩, rfl⟩ := encode_eq_ok_iff.mp h
    have hread := decodeRecords_layout (header rs.length ++ (rs.map layout).flatten).length 9 []
      hall
    rw [List.append_nil] at hread
    rw [decode_header_append hcount, hread]

/-- Records out of order, with a repeated name that is not plain and an empty one, are read back
from their archive. -/
theorem encode_decode_round_trip_unordered :
    let rs : List ModuleRecord :=
      [⟨"né", true, [0x23, 0xFF]⟩, ⟨"", false, []⟩, ⟨"né", false, [0x0A]⟩]
    ∃ bs, encode rs = .ok bs ∧ decode bs = .ok rs := by
  intro rs
  obtain ⟨hfits, hback⟩ := encode_decode_round_trip rs
  obtain ⟨bs, h⟩ := hfits.mpr (by decide +kernel)
  exact ⟨bs, h, hback bs h⟩

end Archive

end HandlerBundle
