import SealedKey.Cipher.Aes
import SealedKey.Proofs.Bytes

/-!
# Decryption of a block undoes its encryption

Each layer of AES has its inverse beside it.  This module proves that each inverse takes
its layer off, and puts the layers together: `decryptBlock_encryptBlock` holds for any list of
round keys, whatever their number.

* `unsubstitute_substitute` is a finite fact about bytes, and is checked byte by byte.  The tables
  are read as numbers in base 256 for this, since digits are quicker to look up.
* `Column.unmix_mix` is linear algebra: all products are linear (`double_xor`), and the columns
  may be rotated (`Column.mix_rotate`), so one of the four rows of the matrix product is enough.
-/

namespace SealedKey.Cipher

/-! ## Substitution -/

theorem substitute_eq (x : UInt8) : substitute x = substitutes.toList.getD x.toNat 0 := by
  simp [substitute]

theorem unsubstitute_eq (x : UInt8) : unsubstitute x = originals.toList.getD x.toNat 0 := by
  simp [unsubstitute]

theorem unsubstitute_substitute (x : UInt8) : unsubstitute (substitute x) = x := by
  apply UInt8.toNat_inj.1
  rw [unsubstitute_eq, BigEndian.toNat_getD, substitute_eq, BigEndian.toNat_getD]
  revert x
  refine forall_byte ?_
  decide +kernel

/-! ## Products are linear -/

theorem xor_and_distrib (x y z : UInt8) : (x ^^^ y) &&& z = (x &&& z) ^^^ (y &&& z) := by
  apply UInt8.toBitVec_inj.1
  ext
  simp [Bool.and_xor_distrib_right]

theorem xor_left_comm (x y z : UInt8) : x ^^^ (y ^^^ z) = y ^^^ (x ^^^ z) := by
  rw [← UInt8.xor_assoc, UInt8.xor_comm x, UInt8.xor_assoc]

theorem xor_xor_cancel_left (x y : UInt8) : x ^^^ (x ^^^ y) = y := by
  rw [← UInt8.xor_assoc, UInt8.xor_self, UInt8.zero_xor]

theorem xor_xor_cancel_right (x y : UInt8) : x ^^^ y ^^^ y = x := by
  rw [UInt8.xor_assoc, UInt8.xor_self, UInt8.xor_zero]

/-- The high bit of a byte, and the test that `double` makes of it. -/
theorem high_bit (x : UInt8) :
    x < 0x80 ∧ x &&& 0x80 = 0 ∨ ¬ x < 0x80 ∧ x &&& 0x80 = 0x80 := by
  revert x
  refine forall_byte ?_
  decide +kernel

theorem lt_iff_and_eq_zero (x : UInt8) : x < 0x80 ↔ x &&& 0x80 = 0 := by
  rcases high_bit x with ⟨hlt, hand⟩ | ⟨hlt, hand⟩
  · exact iff_of_true hlt hand
  · refine iff_of_false hlt ?_
    rw [hand]
    decide

theorem and_high_bit (x : UInt8) : x &&& 0x80 = 0 ∨ x &&& 0x80 = 0x80 :=
  (high_bit x).imp And.right And.right

theorem double_xor (x y : UInt8) : double (x ^^^ y) = double x ^^^ double y := by
  simp only [double, lt_iff_and_eq_zero, xor_and_distrib, UInt8.shiftLeft_xor]
  -- the reduction is added for each high bit, and two of them cancel
  rcases and_high_bit x with hx | hx <;> rcases and_high_bit y with hy | hy
  · simp [hx, hy]
  · simp only [hx, hy, UInt8.zero_xor, UInt8.xor_zero, if_true]
    ac_rfl
  · simp only [hx, hy, UInt8.xor_zero, if_true]
    ac_rfl
  · have hcancel (a b c : UInt8) : a ^^^ c ^^^ (b ^^^ c) = a ^^^ b := by
      rw [← UInt8.xor_assoc, UInt8.xor_assoc a, UInt8.xor_comm c, ← UInt8.xor_assoc,
        xor_xor_cancel_right]
    simp [hx, hy, hcancel]

theorem times9_xor (x y : UInt8) : times9 (x ^^^ y) = times9 x ^^^ times9 y := by
  simp only [times9, double_xor]
  ac_rfl

theorem times11_xor (x y : UInt8) : times11 (x ^^^ y) = times11 x ^^^ times11 y := by
  simp only [times11, double_xor]
  ac_rfl

theorem times13_xor (x y : UInt8) : times13 (x ^^^ y) = times13 x ^^^ times13 y := by
  simp only [times13, double_xor]
  ac_rfl

theorem times14_xor (x y : UInt8) : times14 (x ^^^ y) = times14 x ^^^ times14 y := by
  simp only [times14, double_xor]
  ac_rfl

/-! ## Mixing

The first row of the product of the two matrices is `1 0 0 0`.  Its four entries, as
statements about one byte, in which every multiple of the byte but the last one occurs twice: -/

theorem unmix_mix_entry₀ (x : UInt8) :
    times14 (double x) ^^^ times11 x ^^^ times13 x ^^^ times9 (double x ^^^ x) = x := by
  simp only [times9, times11, times13, times14, double_xor, UInt8.xor_assoc, UInt8.xor_comm,
    xor_left_comm, xor_xor_cancel_left, UInt8.xor_self, UInt8.xor_zero]

theorem unmix_mix_entry₁ (x : UInt8) :
    times14 (double x ^^^ x) ^^^ times11 (double x) ^^^ times13 x ^^^ times9 x = 0 := by
  simp only [times9, times11, times13, times14, double_xor, UInt8.xor_assoc, UInt8.xor_comm,
    xor_left_comm, xor_xor_cancel_left, UInt8.xor_self, UInt8.xor_zero]

theorem unmix_mix_entry₂ (x : UInt8) :
    times14 x ^^^ times11 (double x ^^^ x) ^^^ times13 (double x) ^^^ times9 x = 0 := by
  simp only [times9, times11, times13, times14, double_xor, UInt8.xor_assoc, UInt8.xor_comm,
    xor_left_comm, xor_xor_cancel_left, UInt8.xor_self, UInt8.xor_zero]

theorem unmix_mix_entry₃ (x : UInt8) :
    times14 x ^^^ times11 x ^^^ times13 (double x ^^^ x) ^^^ times9 (double x) = 0 := by
  simp only [times9, times11, times13, times14, double_xor, UInt8.xor_assoc, UInt8.xor_comm,
    xor_left_comm, xor_xor_cancel_left, UInt8.xor_self]

namespace Column

theorem unmix_mix_first (c : Column) : c.mix.unmix.r₀ = c.r₀ := by
  obtain ⟨w, x, y, z⟩ := c
  calc (Column.mk w x y z).mix.unmix.r₀
      = (times14 (double w) ^^^ times11 w ^^^ times13 w ^^^ times9 (double w ^^^ w)) ^^^
        (times14 (double x ^^^ x) ^^^ times11 (double x) ^^^ times13 x ^^^ times9 x) ^^^
        (times14 y ^^^ times11 (double y ^^^ y) ^^^ times13 (double y) ^^^ times9 y) ^^^
        (times14 z ^^^ times11 z ^^^ times13 (double z ^^^ z) ^^^ times9 (double z)) := by
        simp only [mix, unmix, times9_xor, times11_xor, times13_xor, times14_xor]
        ac_rfl
    _ = w := by
        rw [unmix_mix_entry₀, unmix_mix_entry₁, unmix_mix_entry₂, unmix_mix_entry₃]
        simp

theorem mix_rotate (c : Column) : c.rotate.mix = c.mix.rotate := by
  simp only [mix, rotate, Column.mk.injEq]
  refine ⟨?_, ?_, ?_, ?_⟩ <;> ac_rfl

theorem unmix_rotate (c : Column) : c.rotate.unmix = c.unmix.rotate := by
  simp only [unmix, rotate, Column.mk.injEq]
  refine ⟨?_, ?_, ?_, ?_⟩ <;> ac_rfl

/-- The inverse matrix undoes the mixing of a column. -/
theorem unmix_mix (c : Column) : c.mix.unmix = c := by
  -- the other rows are the first row of a rotated column
  have hrotate (d : Column) : d.mix.unmix.rotate = d.rotate.mix.unmix := by
    rw [mix_rotate, unmix_rotate]
  have h₀ : c.mix.unmix.r₀ = c.r₀ := unmix_mix_first c
  have h₁ : c.mix.unmix.rotate.r₀ = c.rotate.r₀ := by
    rw [hrotate, unmix_mix_first]
  have h₂ : c.mix.unmix.rotate.rotate.r₀ = c.rotate.rotate.r₀ := by
    rw [hrotate, hrotate, unmix_mix_first]
  have h₃ : c.mix.unmix.rotate.rotate.rotate.r₀ = c.rotate.rotate.rotate.r₀ := by
    rw [hrotate, hrotate, hrotate, unmix_mix_first]
  show Column.mk c.mix.unmix.r₀ c.mix.unmix.r₁ c.mix.unmix.r₂ c.mix.unmix.r₃ = c
  rw [h₀, show c.mix.unmix.r₁ = c.r₁ from h₁, show c.mix.unmix.r₂ = c.r₂ from h₂,
    show c.mix.unmix.r₃ = c.r₃ from h₃]

theorem add_add_cancel (c d : Column) : (c.add d).add d = c := by
  simp only [add, xor_xor_cancel_right]

end Column

/-! ## Blocks -/

namespace Block

theorem add_add_cancel (b k : Block) : (b.add k).add k = b := by
  simp [add, Column.add_add_cancel]

theorem map_unmix_map_mix (b : Block) : (b.map Column.mix).map Column.unmix = b := by
  simp [map, Column.unmix_mix]

theorem unsubstitute_substitute (b : Block) : b.substitute.unsubstitute = b := by
  simp [substitute, unsubstitute, map, Column.map, Cipher.unsubstitute_substitute]

theorem unshiftRows_shiftRows (b : Block) : b.shiftRows.unshiftRows = b := rfl

end Block

theorem rounds_cons {keys : List Block} (hkeys : keys ≠ []) (k b : Block) :
    rounds (k :: keys) b = rounds keys ((b.substitute.shiftRows.map Column.mix).add k) := by
  cases keys with
  | nil => exact absurd rfl hkeys
  | cons => rfl

theorem unrounds_cons {keys : List Block} (hkeys : keys ≠ []) (k b : Block) :
    unrounds (k :: keys) b =
      (((unrounds keys b).add k).map Column.unmix).unshiftRows.unsubstitute := by
  cases keys with
  | nil => exact absurd rfl hkeys
  | cons => rfl

/-- The inverse rounds take the rounds off in the opposite order. -/
theorem unrounds_rounds (keys : List Block) (b : Block) : unrounds keys (rounds keys b) = b := by
  induction keys generalizing b with
  | nil => rfl
  | cons k keys ih =>
    by_cases hkeys : keys = []
    · subst hkeys
      show ((b.substitute.shiftRows.add k).add k).unshiftRows.unsubstitute = b
      rw [Block.add_add_cancel, Block.unshiftRows_shiftRows, Block.unsubstitute_substitute]
    · rw [rounds_cons hkeys, unrounds_cons hkeys, ih, Block.add_add_cancel,
        Block.map_unmix_map_mix, Block.unshiftRows_shiftRows, Block.unsubstitute_substitute]

/-- Decryption of a block undoes its encryption with the same round keys. -/
theorem decryptBlock_encryptBlock (keys : List Block) (b : Block) :
    decryptBlock keys (encryptBlock keys b) = b := by
  cases keys with
  | nil => rfl
  | cons k keys => rw [encryptBlock, decryptBlock, unrounds_rounds, Block.add_add_cancel]

end SealedKey.Cipher
