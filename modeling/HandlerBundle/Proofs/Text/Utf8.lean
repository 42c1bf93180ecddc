import HandlerBundle.Text.Utf8
import Mathlib.Tactic.NormNum

/-!
# Reading back encoded texts

Every character is read back from its bytes, whatever follows them: its first byte says how many
bytes there are, and leaves for the second the bounds that rule out longer forms and surrogates.
A text is read back from its bytes, character by character. Conversely, what is read as a character
are its bytes, so no other bytes are read as the text.

## Main results

* `Utf8.readChar_encodeChar` — a character is read back from its bytes.
* `Utf8.decode_encode` — a text is read back from its bytes.
* `Utf8.encodeChar_of_readChar`, `Utf8.decode_eq_ok_iff` — nothing else is read.
-/

namespace HandlerBundle

namespace Utf8

/-! ### The bytes of a character -/

/-- A number below 256 is the number of its byte. -/
theorem toNat_byte {n : Nat} (h : n < 256) : (UInt8.ofNat n).toNat = n :=
  UInt8.toNat_ofNat_of_lt' h

@[simp] theorem toNat_tailByte (n : Nat) : (tailByte n).toNat = 0x80 + n % 64 :=
  toNat_byte (by omega)

theorem lead?_two {k : Nat} (hlow : 2 ≤ k) (hhigh : k < 32) :
    lead? (0xC0 + k) = some ⟨2, k, 0x80, 0xBF⟩ := by
  rw [lead?, if_neg (by omega), if_pos (by omega), Nat.add_sub_cancel_left]

theorem lead?_three {k : Nat} (hhigh : k < 16) :
    lead? (0xE0 + k) =
      some ⟨3, k, if k = 0 then 0xA0 else 0x80, if k = 0xD then 0x9F else 0xBF⟩ := by
  have hzero : 0xE0 + k = 0xE0 ↔ k = 0 := by omega
  have hsurrogate : 0xE0 + k = 0xED ↔ k = 0xD := by omega
  rw [lead?, if_neg (by omega), if_neg (by omega), if_pos (by omega), Nat.add_sub_cancel_left]
  simp only [hzero, hsurrogate]

theorem lead?_four {k : Nat} (hhigh : k < 5) :
    lead? (0xF0 + k) =
      some ⟨4, k, if k = 0 then 0x90 else 0x80, if k = 4 then 0x8F else 0xBF⟩ := by
  have hzero : 0xF0 + k = 0xF0 ↔ k = 0 := by omega
  have hlast : 0xF0 + k = 0xF4 ↔ k = 4 := by omega
  rw [lead?, if_neg (by omega), if_neg (by omega), if_neg (by omega), if_pos (by omega),
    Nat.add_sub_cancel_left]
  simp only [hzero, hlast]

/-- A byte that continues a character adds its six bits, if it lies within the bounds. -/
theorem readTail_tailByte {low high : Nat} (seen n count m : Nat) (bs : Bytes)
    (hlow : low ≤ 0x80 + m % 64) (hhigh : 0x80 + m % 64 ≤ high) :
    readTail low high seen n (count + 1) (tailByte m :: bs) =
      readTail 0x80 0xBF (seen + 1) (64 * n + m % 64) count bs := by
  have hbits : (0x80 + m % 64) % 64 = m % 64 := by omega
  rw [readTail, toNat_tailByte, if_pos ⟨hlow, hhigh⟩, hbits]

/-- A first byte that announces more of them leaves the character to what they say. -/
theorem readChar_of_lead {b : UInt8} {bs rest : Bytes} {count bits low high n : Nat}
    (hb : 0x80 ≤ b.toNat) (hlead : lead? b.toNat = some ⟨count + 1, bits, low, high⟩)
    (htail : readTail low high 1 bits count bs = .ok (n, rest)) :
    readChar b bs = .ok (Char.ofNat n, rest) := by
  rw [readChar, if_neg (by omega)]
  simp only [hlead, Nat.add_sub_cancel, htail]

/-- The code points of characters leave out the surrogates. -/
theorem toNat_lt_or_gt_surrogates (c : Char) :
    c.toNat < 0xD800 ∨ (0xDFFF < c.toNat ∧ c.toNat < 0x110000) :=
  c.valid

/-- **A character is read back from its bytes.** The bytes of a character are not empty, and
reading them off the front of a byte string leaves what follows. -/
theorem readChar_encodeChar (c : Char) (rest : Bytes) :
    ∃ b bs, encodeChar c ++ rest = b :: bs ∧ readChar b bs = .ok (c, rest) := by
  have hvalid := toNat_lt_or_gt_surrogates c
  have hback : Char.ofNat c.toNat = c := Char.ofNat_toNat c
  unfold encodeChar
  generalize c.toNat = n at hvalid hback ⊢
  dsimp only
  split_ifs with h₁ h₂ h₃
  · refine ⟨_, rest, rfl, ?_⟩
    rw [readChar, toNat_byte (by omega), if_pos h₁, hback]
  · refine ⟨_, tailByte n :: rest, rfl, ?_⟩
    have hb : (UInt8.ofNat (0xC0 + n / 64)).toNat = 0xC0 + n / 64 := toNat_byte (by omega)
    have hn : 64 * (n / 64) + n % 64 = n := by omega
    rw [readChar_of_lead (by omega) (hb ▸ lead?_two (by omega) (by omega)), hback]
    rw [readTail_tailByte, hn, readTail] <;> omega
  · refine ⟨_, tailByte (n / 64) :: tailByte n :: rest, rfl, ?_⟩
    have hb : (UInt8.ofNat (0xE0 + n / 4096)).toNat = 0xE0 + n / 4096 := toNat_byte (by omega)
    have hn : 64 * (64 * (n / 4096) + n / 64 % 64) + n % 64 = n := by omega
    rw [readChar_of_lead (by omega) (hb ▸ lead?_three (by omega)), hback]
    -- The bounds of the second byte rule out longer forms and the surrogates.
    have hlow : (if n / 4096 = 0 then 0xA0 else 0x80) ≤ 0x80 + n / 64 % 64 := by
      split_ifs <;> omega
    have hhigh : 0x80 + n / 64 % 64 ≤ if n / 4096 = 0xD then 0x9F else 0xBF := by
      split_ifs <;> omega
    rw [readTail_tailByte _ _ _ _ _ hlow hhigh, readTail_tailByte, hn, readTail] <;> omega
  · refine ⟨_, tailByte (n / 4096) :: tailByte (n / 64) :: tailByte n :: rest, rfl, ?_⟩
    have hb : (UInt8.ofNat (0xF0 + n / 262144)).toNat = 0xF0 + n / 262144 :=
      toNat_byte (by omega)
    have hn : 64 * (64 * (64 * (n / 262144) + n / 4096 % 64) + n / 64 % 64) + n % 64 = n := by
      omega
    rw [readChar_of_lead (by omega) (hb ▸ lead?_four (by omega)), hback]
    have hlow : (if n / 262144 = 0 then 0x90 else 0x80) ≤ 0x80 + n / 4096 % 64 := by
      split_ifs <;> omega
    have hhigh : 0x80 + n / 4096 % 64 ≤ if n / 262144 = 4 then 0x8F else 0xBF := by
      split_ifs <;> omega
    rw [readTail_tailByte _ _ _ _ _ hlow hhigh, readTail_tailByte, readTail_tailByte, hn,
      readTail] <;> omega

/-! ### The bytes of a text -/

theorem decodeChars_cons {total : Nat} {done : List Char} {b : UInt8} {bs rest : Bytes}
    {c : Char} (h : readChar b bs = .ok (c, rest)) :
    decodeChars total done (b :: bs) = decodeChars total (c :: done) rest := by
  rw [decodeChars]
  split
  · rename_i heq
    rw [h] at heq
    cases heq
  · rename_i heq
    rw [h] at heq
    cases heq
    rfl

/-- Reading the bytes of characters adds the characters to those that are read already. -/
theorem decodeChars_encodeChars (total : Nat) (cs done : List Char) :
    decodeChars total done (encodeChars cs) = .ok (done.reverse ++ cs) := by
  induction cs generalizing done with
  | nil => rw [encodeChars, List.flatMap_nil, decodeChars, List.append_nil]
  | cons c cs ih =>
    obtain ⟨b, bs, hbytes, hread⟩ := readChar_encodeChar c (encodeChars cs)
    have hcons : encodeChars (c :: cs) = b :: bs := by
      rw [encodeChars, List.flatMap_cons, ← encodeChars, hbytes]
    rw [hcons, decodeChars_cons hread, ih, List.reverse_cons, List.append_assoc,
      List.singleton_append]

/-- **A text is read back from its bytes.** -/
theorem decode_encode (s : String) : decode (encode s) = .ok s := by
  rw [decode, encode, decodeChars_encodeChars, List.reverse_nil, List.nil_append, Except.map,
    String.ofList_toList]

/-! ### Nothing else is read -/

/-- The character of a code point has it as its number. -/
theorem toNat_ofNat {n : Nat} (h : n < 0xD800 ∨ (0xDFFF < n ∧ n < 0x110000)) :
    (Char.ofNat n).toNat = n := by
  rw [Char.ofNat, dif_pos h]
  rfl

/-- A byte between the bounds of those that continue a character is known by its low bits. -/
theorem tailByte_eq {b : UInt8} {m : Nat} (hlow : 0x80 ≤ b.toNat) (hhigh : b.toNat ≤ 0xBF)
    (hbits : m % 64 = b.toNat % 64) : tailByte m = b := by
  rw [← UInt8.toNat_inj, toNat_tailByte]
  omega

/-- What a first byte that announces more of them says: their number with its own bits, and the
bounds for the second byte. -/
theorem lead?_cases {b : Nat} {lead : Lead} (h : lead? b = some lead) :
    (∃ k, 2 ≤ k ∧ k < 32 ∧ b = 0xC0 + k ∧ lead = ⟨2, k, 0x80, 0xBF⟩) ∨
    (∃ k, k < 16 ∧ b = 0xE0 + k ∧
      lead = ⟨3, k, if k = 0 then 0xA0 else 0x80, if k = 0xD then 0x9F else 0xBF⟩) ∨
    ∃ k, k < 5 ∧ b = 0xF0 + k ∧
      lead = ⟨4, k, if k = 0 then 0x90 else 0x80, if k = 4 then 0x8F else 0xBF⟩ := by
  by_cases hlow : b < 0xC2
  · rw [lead?, if_pos hlow] at h
    cases h
  by_cases htwo : b < 0xE0
  · obtain ⟨k, rfl⟩ := Nat.exists_eq_add_of_le (show 0xC0 ≤ b by omega)
    rw [lead?_two (by omega) (by omega)] at h
    exact .inl ⟨k, by omega, by omega, rfl, (Option.some.inj h).symm⟩
  by_cases hthree : b < 0xF0
  · obtain ⟨k, rfl⟩ := Nat.exists_eq_add_of_le (show 0xE0 ≤ b by omega)
    rw [lead?_three (by omega)] at h
    exact .inr (.inl ⟨k, by omega, rfl, (Option.some.inj h).symm⟩)
  by_cases hfour : b < 0xF5
  · obtain ⟨k, rfl⟩ := Nat.exists_eq_add_of_le (show 0xF0 ≤ b by omega)
    rw [lead?_four (by omega)] at h
    exact .inr (.inr ⟨k, by omega, rfl, (Option.some.inj h).symm⟩)
  · rw [lead?, if_neg hlow, if_neg htwo, if_neg hthree, if_neg hfour] at h
    cases h

/-- The bytes that a character goes on with lie within their bounds, and each adds its bits. -/
theorem exists_of_readTail_succ {low high seen n count m : Nat} {bs rest : Bytes}
    (h : readTail low high seen n (count + 1) bs = .ok (m, rest)) :
    ∃ b bs', bs = b :: bs' ∧ low ≤ b.toNat ∧ b.toNat ≤ high ∧
      readTail 0x80 0xBF (seen + 1) (64 * n + b.toNat % 64) count bs' = .ok (m, rest) := by
  cases bs with
  | nil => cases h
  | cons b bs' =>
    rw [readTail] at h
    split_ifs at h with hbounds
    exact ⟨b, bs', rfl, hbounds.1, hbounds.2, h⟩

/-- A first byte is known by the bits that it has over the mark of its kind. -/
theorem leadByte_eq {b : UInt8} {n k : Nat} (hb : b.toNat = n + k) {m : Nat} (hm : m = k) :
    UInt8.ofNat (n + m) = b := by
  rw [hm, ← hb, UInt8.ofNat_toNat]

/-- The bytes of the character of a code point. -/
theorem encodeChar_ofNat {n : Nat} (h : n < 0xD800 ∨ (0xDFFF < n ∧ n < 0x110000)) :
    encodeChar (Char.ofNat n) =
      if n < 0x80 then [UInt8.ofNat n]
      else if n < 0x800 then [UInt8.ofNat (0xC0 + n / 64), tailByte n]
      else if n < 0x10000 then [UInt8.ofNat (0xE0 + n / 4096), tailByte (n / 64), tailByte n]
      else
        [UInt8.ofNat (0xF0 + n / 262144), tailByte (n / 4096), tailByte (n / 64), tailByte n] := by
  rw [encodeChar, toNat_ofNat h]

/-- **What is read as a character are its bytes.** -/
theorem encodeChar_of_readChar {b : UInt8} {bs rest : Bytes} {c : Char}
    (h : readChar b bs = .ok (c, rest)) : encodeChar c ++ rest = b :: bs := by
  rw [readChar] at h
  split_ifs at h with hone
  · obtain ⟨rfl, rfl⟩ := Prod.mk.inj (Except.ok.inj h)
    rw [encodeChar_ofNat (by omega), if_pos hone, UInt8.ofNat_toNat, List.singleton_append]
  cases hlead : lead? b.toNat with
  | none =>
    rw [hlead] at h
    cases h
  | some lead =>
    rw [hlead] at h
    dsimp only at h
    split at h
    next n rest' htail =>
      obtain ⟨rfl, rfl⟩ := Prod.mk.inj (Except.ok.inj h)
      -- the bounds of the second byte leave out the surrogates and what has a shorter form
      rcases lead?_cases hlead with ⟨k, hlow, hhigh, hb, rfl⟩ | ⟨k, hhigh, hb, rfl⟩ |
        ⟨k, hhigh, hb, rfl⟩
      · obtain ⟨b₁, _, rfl, hlow₁, hhigh₁, htail⟩ := exists_of_readTail_succ htail
        obtain ⟨rfl, rfl⟩ := Prod.mk.inj (Except.ok.inj htail)
        dsimp only at hlow₁ hhigh₁ ⊢
        rw [encodeChar_ofNat (by omega), if_neg (by omega), if_pos (by omega),
          leadByte_eq hb (by omega), tailByte_eq hlow₁ hhigh₁ (by omega)]
        rfl
      · obtain ⟨b₁, _, rfl, hlow₁, hhigh₁, htail⟩ := exists_of_readTail_succ htail
        obtain ⟨b₂, _, rfl, hlow₂, hhigh₂, htail⟩ := exists_of_readTail_succ htail
        obtain ⟨rfl, rfl⟩ := Prod.mk.inj (Except.ok.inj htail)
        dsimp only at hlow₁ hhigh₁ ⊢
        have hvalid : 0x80 ≤ b₁.toNat ∧ b₁.toNat ≤ 0xBF ∧ (k = 0 → 0xA0 ≤ b₁.toNat) ∧
            (k = 0xD → b₁.toNat ≤ 0x9F) := by
          split_ifs at hlow₁ hhigh₁ <;> omega
        rw [encodeChar_ofNat (by omega), if_neg (by omega), if_neg (by omega), if_pos (by omega),
          leadByte_eq hb (by omega), tailByte_eq hvalid.1 hvalid.2.1 (by omega),
          tailByte_eq hlow₂ hhigh₂ (by omega)]
        rfl
      · obtain ⟨b₁, _, rfl, hlow₁, hhigh₁, htail⟩ := exists_of_readTail_succ htail
        obtain ⟨b₂, _, rfl, hlow₂, hhigh₂, htail⟩ := exists_of_readTail_succ htail
        obtain ⟨b₃, _, rfl, hlow₃, hhigh₃, htail⟩ := exists_of_readTail_succ htail
        obtain ⟨rfl, rfl⟩ := Prod.mk.inj (Except.ok.inj htail)
        dsimp only at hlow₁ hhigh₁ ⊢
        have hvalid : 0x80 ≤ b₁.toNat ∧ b₁.toNat ≤ 0xBF ∧ (k = 0 → 0x90 ≤ b₁.toNat) ∧
            (k = 4 → b₁.toNat ≤ 0x8F) := by
          split_ifs at hlow₁ hhigh₁ <;> omega
        rw [encodeChar_ofNat (by omega), if_neg (by omega), if_neg (by omega), if_neg (by omega),
          leadByte_eq hb (by omega), tailByte_eq hvalid.1 hvalid.2.1 (by omega),
          tailByte_eq hlow₂ hhigh₂ (by omega), tailByte_eq hlow₃ hhigh₃ (by omega)]
        rfl
    next => cases h

/-- What is read as characters, after some that are read already, are the bytes of the new ones. -/
theorem exists_of_decodeChars {total : Nat} {done cs : List Char} {bs : Bytes}
    (h : decodeChars total done bs = .ok cs) :
    ∃ cs', cs = done.reverse ++ cs' ∧ bs = encodeChars cs' := by
  fun_induction decodeChars total done bs with
  | case1 done =>
    obtain rfl := Except.ok.inj h
    exact ⟨[], (List.append_nil _).symm, rfl⟩
  | case2 => cases h
  | case3 done b rest c left hread ih =>
    obtain ⟨cs', rfl, rfl⟩ := ih h
    refine ⟨c :: cs', ?_, ?_⟩
    · rw [List.reverse_cons, List.append_assoc, List.singleton_append]
    · exact (encodeChar_of_readChar hread).symm

/-- **Bytes are read as a text if they are its bytes**, and not in any other case. -/
theorem decode_eq_ok_iff {bs : Bytes} {s : String} : decode bs = .ok s ↔ bs = encode s := by
  constructor
  · intro h
    rw [decode] at h
    cases hcs : decodeChars bs.length [] bs with
    | error e =>
      rw [hcs] at h
      cases h
    | ok cs =>
      rw [hcs] at h
      obtain rfl := Except.ok.inj h
      obtain ⟨cs', rfl, hbytes⟩ := exists_of_decodeChars hcs
      rw [hbytes, encode, String.toList_ofList]
  · rintro rfl
    exact decode_encode s

end Utf8

end HandlerBundle
