import SealedKey.Bytes.Lemmas
import Mathlib.Data.List.Induction
import Mathlib.Tactic.Ring

/-!
# Bytes and big-endian numbers

What the proofs on formats need of bytes: a property can be checked byte by byte
(`forall_byte`), and the big-endian form of a number is the shortest byte string that writes
it.  `BigEndian.ofNat_toNat` and `BigEndian.toNat_ofNat` are the two round trips, the first one
for byte strings without a leading zero.
-/

namespace SealedKey

/-- What holds of the 256 bytes holds of every byte. -/
theorem forall_byte {p : UInt8 → Prop} (h : ∀ n : Fin 256, p (UInt8.ofFin n)) (x : UInt8) :
    p x :=
  h x.toFin

namespace Bytes

theorem ofChars_append (a b : List Char) : ofChars (a ++ b) = ofChars a ++ ofChars b :=
  List.flatMap_append

end Bytes

namespace BigEndian

theorem toNat_cons (first : UInt8) (rest : Bytes) :
    toNat (first :: rest) = first.toNat * 256 ^ rest.length + toNat rest := by
  induction rest using List.reverseRecOn with
  | nil => simp [toNat]
  | append_singleton rest last ih =>
    rw [← List.cons_append, toNat_append_singleton, ih, toNat_append_singleton,
      List.length_append, List.length_singleton, Nat.pow_succ]
    ring

theorem toNat_lt (bytes : Bytes) : toNat bytes < 256 ^ bytes.length := by
  induction bytes with
  | nil => simp [toNat]
  | cons first rest ih =>
    rw [toNat_cons, List.length_cons, Nat.pow_succ]
    have hfirst : first.toNat ≤ 255 := Nat.le_of_lt_succ first.toNat_lt
    have := Nat.mul_le_mul_right (256 ^ rest.length) hfirst
    omega

/-- Writing a number in as many bytes as it was read from gives the bytes back. -/
theorem padded_toNat (bytes : Bytes) : padded bytes.length (toNat bytes) = bytes := by
  induction bytes using List.reverseRecOn with
  | nil => rfl
  | append_singleton rest last ih =>
    have hlast : last.toNat < 256 := last.toNat_lt
    have hdiv : (toNat rest * 256 + last.toNat) / 256 = toNat rest := by omega
    have hmod : UInt8.ofNat (toNat rest * 256 + last.toNat) = last := by
      apply UInt8.toNat_inj.1
      rw [UInt8.toNat_ofNat']
      omega
    rw [List.length_append, List.length_singleton, padded, toNat_append_singleton, hdiv, hmod, ih]

/-- Looking up an entry of a table is taking a digit of the number that the table writes. -/
theorem toNat_getD (table : Bytes) (i : Nat) :
    (table.getD i 0).toNat = toNat table.reverse / 256 ^ i % 256 := by
  induction table generalizing i with
  | nil => simp [toNat]
  | cons first rest ih =>
    have hfirst := first.toNat_lt
    rw [List.reverse_cons, toNat_append_singleton]
    cases i with
    | zero =>
      rw [List.getD_cons_zero]
      omega
    | succ i =>
      have hdiv : (toNat rest.reverse * 256 + first.toNat) / 256 = toNat rest.reverse := by omega
      rw [List.getD_cons_succ, ih, Nat.pow_succ', ← Nat.div_div_eq_div_mul, hdiv]

/-- The width of the shortest form. -/
theorem length_ofNat (n : Nat) : (ofNat n).length = (bitLength n + 7) / 8 := by
  rw [ofNat, length_padded]

theorem bitLength_le_iff {n k : Nat} : bitLength n ≤ k ↔ n < 2 ^ k := by
  unfold bitLength
  split
  · rename_i hn
    have := Nat.two_pow_pos k
    omega
  · rename_i hn
    rw [← Nat.log2_lt hn, Nat.succ_le_iff]

/-- The shortest form has at most `width` bytes exactly when the number fits into them. -/
theorem length_ofNat_le_iff {n width : Nat} : (ofNat n).length ≤ width ↔ n < 256 ^ width := by
  have hpow : (256 : Nat) ^ width = 2 ^ (8 * width) := by
    rw [Nat.pow_mul]
  rw [length_ofNat, hpow, ← bitLength_le_iff]
  omega

theorem toNat_ofNat (n : Nat) : toNat (ofNat n) = n := by
  have h : n < 256 ^ (ofNat n).length := length_ofNat_le_iff.1 (Nat.le_refl _)
  rw [length_ofNat] at h
  rw [ofNat, toNat_padded h]

/-- A byte string without a leading zero is the shortest form of the number that it writes. -/
theorem ofNat_toNat {bytes : Bytes} (h : bytes.head? ≠ some 0) : ofNat (toNat bytes) = bytes := by
  have hle : (ofNat (toNat bytes)).length ≤ bytes.length :=
    length_ofNat_le_iff.2 (toNat_lt bytes)
  have hlength : (ofNat (toNat bytes)).length = bytes.length := by
    cases bytes with
    | nil => simpa using hle
    | cons first rest =>
      refine Nat.le_antisymm hle (Nat.lt_of_not_le fun hshort => ?_)
      -- a shorter form would leave no room for the first byte
      have hsmall := length_ofNat_le_iff.1 hshort
      have hfirst : 0 < first.toNat := by
        apply Nat.pos_of_ne_zero
        intro hzero
        have : first = 0 := UInt8.toNat_inj.1 hzero
        exact h (by rw [this, List.head?_cons])
      have := Nat.mul_le_mul_right (256 ^ rest.length) hfirst
      rw [toNat_cons] at hsmall
      omega
  rw [length_ofNat] at hlength
  rw [ofNat, hlength, padded_toNat]

/-- The shortest form has no leading zero. -/
theorem head?_ofNat (n : Nat) : (ofNat n).head? ≠ some 0 := by
  intro hzero
  obtain ⟨rest, hrest⟩ : ∃ rest, ofNat n = 0 :: rest := by
    cases h : ofNat n with
    | nil => simp [h] at hzero
    | cons first rest =>
      rw [h, List.head?_cons] at hzero
      exact ⟨rest, by rw [Option.some.inj hzero]⟩
  have hn : n = toNat rest := by
    rw [← toNat_ofNat n, hrest, toNat_cons, UInt8.toNat_zero, Nat.zero_mul, Nat.zero_add]
  have hle : (ofNat n).length ≤ rest.length :=
    length_ofNat_le_iff.2 (hn ▸ toNat_lt rest)
  rw [hrest, List.length_cons] at hle
  omega

end BigEndian

end SealedKey
