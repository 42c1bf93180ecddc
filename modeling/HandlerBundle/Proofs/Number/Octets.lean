import HandlerBundle.Number.Octets
import Mathlib.Algebra.Order.Ring.Nat
import Mathlib.Data.List.Induction

/-!
# Reading back numbers from bytes

A number is read back from its big-endian bytes if the width holds it, and bytes are those of the
number that they stand for.

## Main results

* `length_bigEndian` — the width is the number of bytes.
* `numberOf_bigEndian` — a number is read back from its bytes.
* `bigEndian_numberOf` — bytes are those of their number.
-/

namespace HandlerBundle

@[simp] theorem length_bigEndian (width n : Nat) : (bigEndian width n).length = width := by
  induction width generalizing n with
  | zero => rfl
  | succ width ih => rw [bigEndian, List.length_append, ih, List.length_singleton]

/-- One more byte at the end counts for itself, and the bytes before it for 256 times as much. -/
theorem numberOf_concat (bs : Bytes) (b : UInt8) :
    numberOf (bs ++ [b]) = 256 * numberOf bs + b.toNat := by
  rw [numberOf, numberOf, List.foldl_append, List.foldl_cons, List.foldl_nil]

/-- A single byte stands for its own number. -/
theorem numberOf_singleton (b : UInt8) : numberOf [b] = b.toNat := by
  rw [numberOf, List.foldl_cons, List.foldl_nil, Nat.mul_zero, Nat.zero_add]

/-- **A number is read back from its bytes** if the width holds it. -/
theorem numberOf_bigEndian {width n : Nat} (h : n < 256 ^ width) :
    numberOf (bigEndian width n) = n := by
  induction width generalizing n with
  | zero =>
    rw [pow_zero, Nat.lt_one_iff] at h
    exact h.symm
  | succ width ih =>
    have hdiv : n / 256 < 256 ^ width := by
      rw [Nat.div_lt_iff_lt_mul (by decide), ← pow_succ]
      exact h
    have hbyte : (UInt8.ofNat (n % 256)).toNat = n % 256 :=
      UInt8.toNat_ofNat_of_lt' (Nat.mod_lt n (by decide))
    rw [bigEndian, numberOf_concat, ih hdiv, hbyte, Nat.div_add_mod]

/-- Bytes stand for a number that their width holds. -/
theorem numberOf_lt (bs : Bytes) : numberOf bs < 256 ^ bs.length := by
  induction bs using List.reverseRec with
  | nil => exact Nat.one_pos
  | append_singleton bs b ih =>
    have hb : b.toNat < 256 := b.toNat_lt
    rw [numberOf_concat, List.length_append, List.length_singleton, pow_succ]
    omega

/-- **Bytes are those of their number.** -/
theorem bigEndian_numberOf (bs : Bytes) : bigEndian bs.length (numberOf bs) = bs := by
  induction bs using List.reverseRec with
  | nil => rfl
  | append_singleton bs b ih =>
    have hb : b.toNat < 256 := b.toNat_lt
    have hdiv : (256 * numberOf bs + b.toNat) / 256 = numberOf bs := by omega
    have hmod : (256 * numberOf bs + b.toNat) % 256 = b.toNat := by omega
    rw [numberOf_concat, List.length_append, List.length_singleton, bigEndian, hdiv, hmod, ih,
      UInt8.ofNat_toNat]

end HandlerBundle
