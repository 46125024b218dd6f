import SealedKey.Modular
import SealedKey.Rsa.Document

/-!
# RSA private keys

A key is a modulus with its two factors, and two exponents that undo each other.
Only these relations are checked: the factors need not be prime.

The three numbers that speed up decryption are not part of a key.  They are computed
again for its document, which fails when the second factor has no inverse modulo the
first.
-/

namespace SealedKey.Rsa

/-- The greatest public exponent. -/
def maxPublicExponent : Nat := 0x1FFFFFFFF

/-- The relations between the numbers of a private key. -/
structure Valid (modulus publicExponent privateExponent prime₁ prime₂ : Nat) : Prop where
  publicExponent_lt_modulus : publicExponent < modulus
  odd_modulus : modulus % 2 = 1
  odd_publicExponent : publicExponent % 2 = 1
  two_le_publicExponent : 2 ≤ publicExponent
  publicExponent_le : publicExponent ≤ maxPublicExponent
  one_lt_prime₁ : 1 < prime₁
  one_lt_prime₂ : 1 < prime₂
  mul_eq_modulus : prime₁ * prime₂ = modulus
  undoes₁ : publicExponent * privateExponent % (prime₁ - 1) = 1
  undoes₂ : publicExponent * privateExponent % (prime₂ - 1) = 1

instance (n e d p q : Nat) : Decidable (Valid n e d p q) :=
  decidable_of_iff
    (e < n ∧ n % 2 = 1 ∧ e % 2 = 1 ∧ 2 ≤ e ∧ e ≤ maxPublicExponent ∧ 1 < p ∧ 1 < q ∧ p * q = n ∧
      e * d % (p - 1) = 1 ∧ e * d % (q - 1) = 1)
    ⟨fun ⟨h₁, h₂, h₃, h₄, h₅, h₆, h₇, h₈, h₉, h₁₀⟩ => ⟨h₁, h₂, h₃, h₄, h₅, h₆, h₇, h₈, h₉, h₁₀⟩,
      fun ⟨h₁, h₂, h₃, h₄, h₅, h₆, h₇, h₈, h₉, h₁₀⟩ => ⟨h₁, h₂, h₃, h₄, h₅, h₆, h₇, h₈, h₉, h₁₀⟩⟩

/-- An RSA private key. -/
structure Key where
  modulus : Nat
  publicExponent : Nat
  privateExponent : Nat
  prime₁ : Nat
  prime₂ : Nat
  valid : Valid modulus publicExponent privateExponent prime₁ prime₂

namespace Key

/-- The key with these numbers, if they belong together. -/
def ofNumbers? (modulus publicExponent privateExponent prime₁ prime₂ : Nat) : Option Key :=
  if h : Valid modulus publicExponent privateExponent prime₁ prime₂ then
    some ⟨modulus, publicExponent, privateExponent, prime₁, prime₂, h⟩
  else none

/-- The number of bits of the modulus. -/
def bits (key : Key) : Nat :=
  BigEndian.bitLength key.modulus

/-- The public key. -/
def publicKey (key : Key) : PublicKey :=
  ⟨key.modulus, key.publicExponent⟩

/-- The document of a key. -/
def document? (key : Key) : Option Document := do
  let coefficient ← Modular.inverse? key.prime₁ key.prime₂
  return {
    modulus := key.modulus
    publicExponent := key.publicExponent
    privateExponent := key.privateExponent
    prime₁ := key.prime₁
    prime₂ := key.prime₂
    exponent₁ := key.privateExponent % (key.prime₁ - 1)
    exponent₂ := key.privateExponent % (key.prime₂ - 1)
    coefficient
    multiPrime := false }

/-- The key of a document with two factors. -/
def ofDocument? (document : Document) : Option Key :=
  if document.multiPrime then none
  else
    ofNumbers? document.modulus document.publicExponent document.privateExponent document.prime₁
      document.prime₂

end Key

end SealedKey.Rsa
