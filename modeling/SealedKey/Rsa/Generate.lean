import SealedKey.Rsa.Key
import SealedKey.Rsa.Prime

/-!
# Generating RSA keys

Two primes of half the wanted length are drawn until they give a modulus of the wanted
length to which the public exponent has an inverse.
-/

namespace SealedKey.Rsa

/-- Why there is no key of some length. -/
inductive GenerationError where
  /-- There are hardly any primes of half the length. -/
  | tooFewPrimes
  /-- The modulus is not greater than the public exponent. -/
  | invalidModulus
deriving DecidableEq, Repr

/-- The text of a generation error. -/
def GenerationError.message : GenerationError → String
  | tooFewPrimes => "too few primes of given length to generate an RSA key"
  | invalidModulus => "invalid modulus"

namespace Key

/-- The public exponent of generated keys. -/
def generatedExponent : Nat := 65537

/-- The least number of bits for which there are enough primes. -/
def minGeneratedBits : Nat := 12

/-- Draws two primes, and gives them with the private exponent if they fit together. -/
def drawPrimes? (bits : Nat) : Draw (Option (Nat × Nat × Nat)) := do
  let p ← Prime.draw (bits / 2)
  let q ← Prime.draw (bits - bits / 2)
  if p = q ∨ BigEndian.bitLength (p * q) ≠ bits then return none
  return (Modular.inverse? ((p - 1) * (q - 1)) generatedExponent).map fun d => (p, q, d)

/-- Draws a key whose modulus has `bits` bits. -/
def generate (bits : Nat) : Draw (Except GenerationError Key) := do
  if bits < minGeneratedBits then return .error .tooFewPrimes
  let (p, q, d) ← Draw.untilSome (drawPrimes? bits)
  match ofNumbers? (p * q) generatedExponent d p q with
  | some key => return .ok key
  | none => return .error .invalidModulus

end Key

end SealedKey.Rsa
