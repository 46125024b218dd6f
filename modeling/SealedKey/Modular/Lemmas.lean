import SealedKey.Modular
import Mathlib.Algebra.Ring.Nat

/-!
# Facts about modular arithmetic

`Modular.pow_eq` says that repeated squaring computes the remainder of the power, and
`Modular.exists_inverse?_iff` that a number has an inverse exactly if it is coprime to the modulus.
-/

namespace SealedKey.Modular

theorem powMul_eq (modulus base exponent factor : Nat) :
    powMul modulus base exponent factor = base ^ exponent * factor % modulus := by
  fun_induction powMul modulus base exponent factor with
  | case1 => simp
  | case2 base exponent factor hexponent factor' ih =>
    rw [ih, Nat.mul_mod, Nat.pow_mod, Nat.mod_mod, ← Nat.pow_mod, ← Nat.mul_mod]
    have hsquare : (base * base) ^ (exponent / 2) = base ^ (2 * (exponent / 2)) := by
      rw [Nat.pow_mul, Nat.pow_two]
    rw [hsquare]
    rcases Nat.mod_two_eq_zero_or_one exponent with hparity | hparity
    · have hhalf : 2 * (exponent / 2) = exponent := by omega
      simp [factor', hparity, hhalf]
    · have hhalf : base ^ exponent = base ^ (2 * (exponent / 2)) * base := by
        rw [← Nat.pow_succ]
        congr 1
        omega
      have hfactor : factor' = factor * base % modulus := by simp [factor', hparity]
      rw [hfactor, hhalf, Nat.mul_mod, Nat.mod_mod, ← Nat.mul_mod]
      congr 1
      rw [Nat.mul_assoc, Nat.mul_comm base factor]

/-- Repeated squaring computes the power. -/
theorem pow_eq (modulus base exponent : Nat) :
    pow modulus base exponent = base ^ exponent % modulus := by
  rw [pow, powMul_eq, Nat.mul_one, ← Nat.pow_mod]

/-- The Euclidean algorithm finds the greatest common divisor, whatever it carries along. -/
theorem fst_euclid (a b : Nat) (s t : Int) : (euclid a b s t).1 = Nat.gcd a b := by
  fun_induction euclid a b s t with
  | case1 a s t => rw [Nat.gcd_zero_right]
  | case2 a b s t hb ih => rw [ih, Nat.gcd_comm a b, Nat.gcd_rec b a, Nat.gcd_comm]

theorem exists_inverse?_iff {modulus a : Nat} :
    (∃ inverse, inverse? modulus a = some inverse) ↔ a.Coprime modulus := by
  have hdivisor := fst_euclid a modulus 1 0
  rcases heuclid : euclid a modulus 1 0 with ⟨divisor, multiple⟩
  rw [heuclid] at hdivisor
  rw [inverse?, heuclid, Nat.coprime_iff_gcd_eq_one, ← hdivisor]
  by_cases hone : divisor = 1
  · simp [hone]
  · simp [hone]

end SealedKey.Modular
