/-!
# Modular arithmetic

Powers and inverses of natural numbers modulo a number, by repeated squaring and by
the extended Euclidean algorithm.
-/

namespace SealedKey.Modular

/-- The remainder of `base ^ exponent * factor` modulo `modulus`. -/
def powMul (modulus base exponent factor : Nat) : Nat :=
  if exponent = 0 then factor % modulus
  else
    let factor := if exponent % 2 = 1 then factor * base % modulus else factor
    powMul modulus (base * base % modulus) (exponent / 2) factor

/-- The remainder of `base ^ exponent` modulo `modulus`. -/
def pow (modulus base exponent : Nat) : Nat :=
  powMul modulus (base % modulus) exponent 1

/--
The Euclidean algorithm on `a` and `b`, which carries along for each of them the multiple of
some number that it is, modulo some other number.
-/
def euclid (a b : Nat) (s t : Int) : Nat × Int :=
  if _h : b = 0 then (a, s)
  else euclid b (a % b) t (s - (a / b : Nat) * t)
termination_by b
decreasing_by exact Nat.mod_lt _ (Nat.pos_of_ne_zero _h)

/-- The number below `modulus` whose product with `a` leaves 1, if there is one. -/
def inverse? (modulus a : Nat) : Option Nat :=
  let (divisor, multiple) := euclid a modulus 1 0
  if divisor = 1 then some (multiple % modulus).toNat else none

end SealedKey.Modular
