import HandlerBundle.Proofs.Module.Archive

/-!
# The layout of archives

The reader of archives accepts the documented layout and nothing else: the mark, the version, the
number of records, and then each record with its name in UTF-8 after its length, its flags and its
source after its length. It looks at one bit of the flags, and not at all at what follows the last
record. A field that is cut off is missed by the next one that is read, so an archive that is cut
off anywhere is refused.

## Main definitions

* `Archive.IsLayout`, `Archive.BeginsWith` — the bytes of a record, and of several ones.
* `Archive.NamesNoText` — byte strings that begin with a name that is no text.

## Main results

* `Archive.decodeRecord_cases` — what becomes of the bytes of a record.
* `Archive.decode_eq_ok_iff_layout` — the byte strings that are read, and those that are cut off.
-/

namespace HandlerBundle

namespace Archive

/-- The bytes of a record, with any flags that say whether it is a package. -/
def IsLayout (r : ModuleRecord) (part : Bytes) : Prop :=
  Fits r ∧ ∃ flags : UInt8, flags.toNat.testBit 0 = r.isPackage ∧ part = layoutWith flags r

/-- Bytes that begin with some records, one after the other, with what follows them. -/
inductive BeginsWith : List ModuleRecord → Bytes → Bytes → Prop
  | nil (rest) : BeginsWith [] rest rest
  | cons {r part rs rest bs} (hr : IsLayout r part) (hrs : BeginsWith rs rest bs) :
      BeginsWith (r :: rs) rest (part ++ bs)

/-- Bytes that begin with the length of a name and go on with its bytes, which are no text as far as
they are there. -/
def NamesNoText (bs : Bytes) (cause : Utf8.DecodeError) : Prop :=
  ∃ length rest, length < 2 ^ 16 ∧ bs = bigEndian 2 length ++ rest ∧
    Utf8.decode (rest.take length) = .error cause

variable {size offset next count : Nat} {bs rest field part : Bytes} {r : ModuleRecord}
  {rs : List ModuleRecord} {e : DecodeError} {cause : Utf8.DecodeError}

/-! ### Fields -/

/-- A field is what comes first, if there are as many bytes as it has. -/
theorem takeField_eq_ok_iff :
    takeField size count offset bs = .ok (field, rest) ↔
      field.length = count ∧ bs = field ++ rest := by
  constructor
  · intro h
    rw [takeField] at h
    split_ifs at h with hshort
    obtain ⟨rfl, rfl⟩ := Prod.mk.inj (Except.ok.inj h)
    exact ⟨List.length_take_of_le (Nat.not_lt.mp hshort), (List.take_append_drop _ _).symm⟩
  · rintro ⟨hlength, rfl⟩
    exact takeField_append _ _ hlength

/-- A field that is cut off is not taken for a name that is no text. -/
theorem ne_badName_of_takeField (h : takeField size count offset bs = .error e) :
    e ≠ .badName cause := by
  rw [takeField] at h
  split_ifs at h
  obtain rfl := Except.error.inj h
  intro hname
  cases hname

/-- The bytes of a field are those of a number that its width holds. -/
theorem exists_bigEndian (h : field.length = count) :
    ∃ n < 256 ^ count, field = bigEndian count n ∧ numberOf field = n := by
  subst h
  exact ⟨_, numberOf_lt field, (bigEndian_numberOf field).symm, rfl⟩

/-! ### Records -/

/-- With whatever flags, a record has as many bytes as it is written with. -/
theorem IsLayout.length_eq (h : IsLayout r part) : part.length = (layout r).length := by
  obtain ⟨-, flags, -, rfl⟩ := h
  simp only [layout, layoutWith, List.length_append, List.length_singleton]

/-- A name that is no text is not read. -/
theorem decodeRecord_of_namesNoText (size offset : Nat) (h : NamesNoText bs cause) :
    decodeRecord size offset bs = .error (.badName cause) := by
  obtain ⟨length, rest, hlength, rfl, hname⟩ := h
  have hnumber : numberOf (bigEndian 2 length) = length := numberOf_bigEndian hlength
  rw [decodeRecord, takeField_append _ _ (length_bigEndian 2 _)]
  simp only [bind, Except.bind, hnumber, hname]

/-- The fields of a record side by side are its bytes. -/
theorem fields_eq_layoutWith {name : String} {flags : UInt8} {length sourceLength : Nat}
    {bs₁ bs₂ : Bytes} (hwhole : length ≤ bs₁.length)
    (hname : bs₁.take length = Utf8.encode name)
    (hdrop : bs₁.drop length = flags :: bigEndian 4 sourceLength ++ bs₂)
    (hsource : sourceLength ≤ bs₂.length) :
    bigEndian 2 length ++ bs₁ =
      layoutWith flags ⟨name, flags.toNat.testBit 0, bs₂.take sourceLength⟩ ++
        bs₂.drop sourceLength := by
  have hlength : (Utf8.encode name).length = length := by
    rw [← hname, List.length_take_of_le hwhole]
  have hsplit : bs₁ = Utf8.encode name ++ (flags :: bigEndian 4 sourceLength ++
      (bs₂.take sourceLength ++ bs₂.drop sourceLength)) := by
    rw [List.take_append_drop, ← hname, ← hdrop, List.take_append_drop]
  conv_lhs => rw [hsplit]
  simp only [layoutWith, hlength, List.length_take_of_le hsource, List.append_assoc,
    List.cons_append, List.nil_append]

/-- **What becomes of the bytes of a record.** They are those of a record and of what follows it, or
they name no text, or they end too early. -/
theorem decodeRecord_cases (size offset : Nat) (bs : Bytes) :
    (∃ r part rest, IsLayout r part ∧ bs = part ++ rest) ∨ (∃ cause, NamesNoText bs cause) ∨
    ∃ e, decodeRecord size offset bs = .error e ∧ ∀ cause, e ≠ .badName cause := by
  cases hfirst : takeField size 2 offset bs with
  | error e =>
    refine .inr (.inr ⟨e, ?_, fun _ => ne_badName_of_takeField hfirst⟩)
    simp only [decodeRecord, hfirst, bind, Except.bind]
  | ok p =>
  obtain ⟨nameField, bs₁⟩ := p
  obtain ⟨hwidth, rfl⟩ := takeField_eq_ok_iff.mp hfirst
  obtain ⟨length, hlength, rfl, hnumber⟩ := exists_bigEndian hwidth
  cases hname : Utf8.decode (bs₁.take length) with
  | error cause => exact .inr (.inl ⟨cause, length, bs₁, hlength, rfl, hname⟩)
  | ok name =>
  cases hsecond : takeField size 5 (offset + 2 + length) (bs₁.drop length) with
  | error e =>
    refine .inr (.inr ⟨e, ?_, fun _ => ne_badName_of_takeField hsecond⟩)
    simp only [decodeRecord, hfirst, bind, Except.bind, hnumber, hname, hsecond]
  | ok p =>
  obtain ⟨numbers, bs₂⟩ := p
  obtain ⟨hnumbers, hdrop⟩ := takeField_eq_ok_iff.mp hsecond
  cases numbers with
  | nil => cases hnumbers
  | cons flags sizeField =>
  obtain ⟨sourceLength, hsourceLength, rfl, hsourceNumber⟩ :=
    exists_bigEndian (Nat.succ.inj hnumbers)
  by_cases hshort : bs₂.length < sourceLength
  · refine .inr (.inr ⟨.truncatedRecord name, ?_, fun _ hname => by cases hname⟩)
    simp only [decodeRecord, hfirst, bind, Except.bind, hnumber, hname, hsecond, List.drop_one,
      List.tail_cons, hsourceNumber, if_pos hshort]
  · -- what comes behind the name is there, so nothing of the name is missing
    have hwhole : length ≤ bs₁.length := by
      have := congrArg List.length hdrop
      rw [List.length_drop, List.length_append, hnumbers] at this
      omega
    have hsource := Nat.not_lt.mp hshort
    have hencoded : bs₁.take length = Utf8.encode name := Utf8.decode_eq_ok_iff.mp hname
    refine .inl ⟨_, _, _, ⟨⟨?_, ?_⟩, flags, rfl, rfl⟩,
      fields_eq_layoutWith hwhole hencoded hdrop hsource⟩
    · rw [← hencoded, List.length_take_of_le hwhole]
      exact hlength
    · rw [List.length_take_of_le hsource]
      exact hsourceLength

/-- A record is read off the front of its bytes. -/
theorem decodeRecord_of_isLayout (size offset : Nat) (rest : Bytes) (h : IsLayout r part) :
    decodeRecord size offset (part ++ rest) = .ok (r, offset + part.length, rest) := by
  obtain ⟨hfits, flags, hflags, rfl⟩ := h
  exact decodeRecord_layoutWith size offset rest hfits hflags

/-! ### Several records -/

/-- Bytes begin with records exactly if they begin with the bytes of each of them in turn. -/
theorem beginsWith_iff :
    BeginsWith rs rest bs ↔
      ∃ parts, List.Forall₂ IsLayout rs parts ∧ bs = parts.flatten ++ rest := by
  constructor
  · intro h
    induction h with
    | nil => exact ⟨[], .nil, rfl⟩
    | @cons _ part _ _ _ hr _ ih =>
      obtain ⟨parts, hparts, rfl⟩ := ih
      exact ⟨part :: parts, .cons hr hparts, by rw [List.flatten_cons, List.append_assoc]⟩
  · rintro ⟨parts, hparts, rfl⟩
    induction hparts with
    | nil => exact .nil rest
    | cons hr _ ih =>
      rw [List.flatten_cons, List.append_assoc]
      exact .cons hr ih

/-- What records are read from, their number of bytes depends on them alone. -/
theorem BeginsWith.length_eq (h : BeginsWith rs rest bs) :
    bs.length = ((rs.map layout).flatten).length + rest.length := by
  induction h with
  | nil rest => exact (Nat.zero_add _).symm
  | cons hr _ ih =>
    rw [List.map_cons, List.flatten_cons, List.length_append, List.length_append, ih,
      hr.length_eq, Nat.add_assoc]

theorem BeginsWith.append (h : BeginsWith rs rest bs) (more : Bytes) :
    BeginsWith rs (rest ++ more) (bs ++ more) := by
  induction h with
  | nil rest => exact .nil _
  | cons hr _ ih =>
    rw [List.append_assoc]
    exact .cons hr ih

/-- Bytes that begin with some records are those of the records and of what comes after them. -/
theorem decodeRecords_of_beginsWith (size offset : Nat) (more : Nat) (h : BeginsWith rs rest bs) :
    ∃ next, decodeRecords size offset bs (rs.length + more) =
      (decodeRecords size next rest more).map (rs ++ ·) := by
  induction h generalizing offset with
  | nil rest =>
    refine ⟨offset, ?_⟩
    rw [List.length_nil, Nat.zero_add]
    cases decodeRecords size offset rest more <;> rfl
  | @cons r part rs rest bs hr _ ih =>
    obtain ⟨next, hnext⟩ := ih (offset + part.length)
    refine ⟨next, ?_⟩
    rw [List.length_cons, Nat.succ_add, decodeRecords]
    simp only [decodeRecord_of_isLayout _ _ _ hr, bind, Except.bind, hnext]
    cases decodeRecords size next rest more <;> rfl

/-- **What becomes of the bytes of several records.** They begin with all of them, or with some of
them and a name that is no text, or they end too early. -/
theorem decodeRecords_cases (size offset : Nat) (bs : Bytes) (count : Nat) :
    (∃ rs rest, rs.length = count ∧ BeginsWith rs rest bs) ∨
    (∃ rs rest cause, rs.length < count ∧ BeginsWith rs rest bs ∧ NamesNoText rest cause) ∨
    ∃ e, decodeRecords size offset bs count = .error e ∧ ∀ cause, e ≠ .badName cause := by
  induction count generalizing offset bs with
  | zero => exact .inl ⟨[], bs, rfl, .nil bs⟩
  | succ count ih =>
    rcases decodeRecord_cases size offset bs with ⟨r, part, rest, hr, rfl⟩ | ⟨cause, hname⟩ |
      ⟨e, hrecord, he⟩
    · rcases ih (offset + part.length) rest with ⟨rs, rest', rfl, hrs⟩ |
        ⟨rs, rest', cause, hlt, hrs, hname⟩ | ⟨e, hrecords, he⟩
      · exact .inl ⟨r :: rs, rest', rfl, .cons hr hrs⟩
      · exact .inr (.inl ⟨r :: rs, rest', cause, Nat.succ_lt_succ hlt, .cons hr hrs, hname⟩)
      · refine .inr (.inr ⟨e, ?_, he⟩)
        rw [decodeRecords]
        simp only [decodeRecord_of_isLayout _ _ _ hr, bind, Except.bind, hrecords]
    · exact .inr (.inl ⟨[], bs, cause, Nat.succ_pos count, .nil bs, hname⟩)
    · refine .inr (.inr ⟨e, ?_, he⟩)
      rw [decodeRecords]
      simp only [hrecord, bind, Except.bind]

/-! ### Archives -/

/-- The bytes of an archive begin with a header, or they are refused because of it. -/
theorem decode_cases (bs : Bytes) :
    (∃ count < 2 ^ 32, ∃ rest, bs = header count ++ rest) ∨
    ∃ e, decode bs = .error e ∧ ∀ cause, e ≠ .badName cause := by
  by_cases hmark : bs.take 4 = mark
  · cases hfield : takeField bs.length 5 4 (bs.drop 4) with
    | error e =>
      refine .inr ⟨e, ?_, fun _ => ne_badName_of_takeField hfield⟩
      simp only [decode, hmark, bne_self_eq_false, Bool.false_eq_true, if_false, hfield, bind,
        Except.bind]
    | ok p =>
      obtain ⟨numbers, rest⟩ := p
      obtain ⟨hnumbers, hdrop⟩ := takeField_eq_ok_iff.mp hfield
      cases numbers with
      | nil => cases hnumbers
      | cons found countField =>
      obtain ⟨count, hcount, rfl, hnumber⟩ := exists_bigEndian (Nat.succ.inj hnumbers)
      by_cases hversion : found = UInt8.ofNat version
      · refine .inl ⟨count, hcount, rest, ?_⟩
        rw [← List.take_append_drop 4 bs, hmark, hdrop, hversion]
        simp only [header, List.append_assoc, List.cons_append, List.nil_append]
      · have hne : (found.toNat != version) = true := by
          rw [bne_iff_ne]
          exact fun h => hversion (UInt8.toNat_inj.mp h)
        refine .inr ⟨.unsupportedVersion found.toNat, ?_, fun _ hname => by cases hname⟩
        simp only [decode, hmark, bne_self_eq_false, Bool.false_eq_true, if_false, hfield, bind,
          Except.bind, List.take_succ_cons, List.take_zero, numberOf_singleton, hne, if_true]
  · refine .inr ⟨.badMark, ?_, fun _ hname => by cases hname⟩
    have hne : (bs.take 4 != mark) = true := bne_iff_ne.mpr hmark
    simp only [decode, hne, if_true]

/-- An archive that begins with all of its records is read as these. -/
theorem decode_of_beginsWith (hcount : rs.length < 2 ^ 32) (h : BeginsWith rs rest bs) :
    decode (header rs.length ++ bs) = .ok rs := by
  obtain ⟨next, hrecords⟩ := decodeRecords_of_beginsWith (header rs.length ++ bs).length 9 0 h
  rw [decode_header_append hcount]
  exact hrecords.trans (congrArg Except.ok (List.append_nil rs))

/-- An archive in which a name that is no text comes before the last record is refused. -/
theorem decode_of_namesNoText (hcount : count < 2 ^ 32) (hlt : rs.length < count)
    (h : BeginsWith rs rest bs) (hname : NamesNoText rest cause) :
    decode (header count ++ bs) = .error (.badName cause) := by
  obtain ⟨more, rfl⟩ := Nat.exists_eq_add_of_lt hlt
  obtain ⟨next, hrecords⟩ :=
    decodeRecords_of_beginsWith (header (rs.length + more + 1) ++ bs).length 9 (more + 1) h
  rw [decode_header_append hcount]
  refine hrecords.trans ?_
  rw [decodeRecords]
  simp only [decodeRecord_of_namesNoText _ _ hname, bind, Except.bind, Except.map]

/-- An archive is read if it begins with its records, and these are what is read. -/
theorem decode_eq_ok_iff :
    decode bs = .ok rs ↔ rs.length < 2 ^ 32 ∧
      ∃ rest body, bs = header rs.length ++ body ∧ BeginsWith rs rest body := by
  constructor
  · intro hread
    rcases decode_cases bs with ⟨count, hcount, body, rfl⟩ | ⟨e, he, -⟩
    · rcases decodeRecords_cases (header count ++ body).length 9 body count with
        ⟨rs', rest, rfl, hrs⟩ | ⟨rs', rest, cause, hlt, hrs, hname⟩ | ⟨e, he, -⟩
      · obtain rfl := Except.ok.inj ((decode_of_beginsWith hcount hrs).symm.trans hread)
        exact ⟨hcount, rest, body, rfl, hrs⟩
      · cases (decode_of_namesNoText hcount hlt hrs hname).symm.trans hread
      · rw [decode_header_append hcount] at hread
        cases he.symm.trans hread
    · cases he.symm.trans hread
  · rintro ⟨hcount, rest, body, rfl, hrs⟩
    exact decode_of_beginsWith hcount hrs

/-- **Archives are read by their layout.** A byte string is read as some records exactly if it
consists of the mark, the version, the number of records in four bytes and the bytes of each record
in their order, with anything behind them. So nothing is read from an archive that is cut off. -/
theorem decode_eq_ok_iff_layout :
    (∀ bs rs, decode bs = .ok rs ↔ rs.length < 2 ^ 32 ∧ ∃ parts rest,
      List.Forall₂ IsLayout rs parts ∧
        bs = mark ++ [1] ++ bigEndian 4 rs.length ++ parts.flatten ++ rest) ∧
    ∀ rs bs, encode rs = .ok bs →
      ∀ front, front <+: bs → front ≠ bs → ∀ rs', decode front ≠ .ok rs' := by
  constructor
  · intro bs rs
    rw [decode_eq_ok_iff]
    refine and_congr_right fun _ => ?_
    constructor
    · rintro ⟨rest, body, rfl, hrs⟩
      obtain ⟨parts, hparts, rfl⟩ := beginsWith_iff.mp hrs
      exact ⟨parts, rest, hparts, (List.append_assoc _ _ _).symm⟩
    · rintro ⟨parts, rest, hparts, rfl⟩
      exact ⟨rest, _, List.append_assoc _ _ _, beginsWith_iff.mpr ⟨parts, hparts, rfl⟩⟩
  · rintro rs bs hencode front ⟨more, rfl⟩ hne rs' hfront
    obtain ⟨hcount, rest, body, rfl, hrs⟩ := decode_eq_ok_iff.mp hfront
    -- what is read from the front is read from the whole, which has no bytes to spare
    have hwhole : decode (header rs'.length ++ body ++ more) = .ok rs' := by
      rw [List.append_assoc]
      exact decode_of_beginsWith hcount (hrs.append more)
    obtain rfl := Except.ok.inj (hwhole.symm.trans (decode_eq_ok_of_encode_eq_ok hencode))
    have hbytes := congrArg List.length (encode_eq_ok_iff.mp hencode).2
    have hbody := hrs.length_eq
    rw [List.length_append, List.length_append, List.length_append] at hbytes
    have hnone : more = [] := List.length_eq_zero_iff.mp (by omega)
    exact hne (by rw [hnone, List.append_nil])

/-- A record is read whose flag byte has all bits, with more bytes behind it, and nothing is read
from an archive of it that is cut off. -/
theorem decode_eq_ok_iff_layout_spareBits :
    let r : ModuleRecord := ⟨"né", true, [0x0A]⟩
    decode (mark ++ [1, 0, 0, 0, 1, 0, 3, 0x6E, 0xC3, 0xA9, 0xFF, 0, 0, 0, 1, 0x0A, 7, 7]) =
        .ok [r] ∧
      ∃ bs, encode [r] = .ok bs ∧ bs.dropLast <+: bs ∧ bs.dropLast ≠ bs ∧
        ∀ rs', decode bs.dropLast ≠ .ok rs' := by
  intro r
  obtain ⟨hlayout, hcut⟩ := decode_eq_ok_iff_layout
  have hfits : Fits r := by
    unfold Fits
    decide +kernel
  constructor
  · refine (hlayout _ _).mpr ⟨by decide, [layoutWith 0xFF r], [7, 7], ?_, by decide +kernel⟩
    exact .cons ⟨hfits, 0xFF, by decide, rfl⟩ .nil
  · obtain ⟨bs, hencode⟩ : ∃ bs, encode [r] = .ok bs :=
      ⟨_, encode_eq_ok_iff.mpr ⟨⟨by decide, List.forall_mem_singleton.mpr hfits⟩, rfl⟩⟩
    have hne : bs.dropLast ≠ bs := by
      obtain ⟨-, rfl⟩ := encode_eq_ok_iff.mp hencode
      decide +kernel
    exact ⟨bs, hencode, List.dropLast_prefix bs, hne,
      hcut _ bs hencode _ (List.dropLast_prefix bs) hne⟩

end Archive

end HandlerBundle
