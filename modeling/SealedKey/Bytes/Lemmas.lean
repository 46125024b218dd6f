import SealedKey.Bytes
import Mathlib.Algebra.Ring.Nat

/-!
# Facts about bytes

`BigEndian.toNat_padded` says that reading a number undoes writing it in a width that it fits.
-/

namespace SealedKey.BigEndian

/-- Reading what was written in `width` bytes gives the number back, if it fits. -/
theorem toNat_padded {width n : Nat} (h : n < 256 ^ width) : toNat (padded width n) = n := by
  induction width generalizing n with
  | zero =>
    have : n = 0 := by simpa using h
    simp [padded, toNat, this]
  | succ width ih =>
    have hdiv : n / 256 < 256 ^ width := by
      rw [Nat.pow_succ] at h
      omega
    rw [padded, toNat_append_singleton, ih hdiv]
    simp only [UInt8.toNat_ofNat']
    omega

end SealedKey.BigEndian
