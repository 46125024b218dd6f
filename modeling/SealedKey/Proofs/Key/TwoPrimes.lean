import SealedKey.Proofs.Key.Container
import SealedKey.Proofs.Key.PublicKey
import Mathlib.Algebra.Ring.Parity
import Mathlib.Data.Nat.ModEq
import Mathlib.Data.Nat.Prime.Basic
import Mathlib.Data.Nat.Size

/-!
# RSA keys of two primes

The reader of RSA documents checks relations between the numbers (`Rsa.Valid`), and neither that the
factors are prime nor the size of the modulus.  Here is the other direction: a key that was made
from two odd primes (`Rsa.Document.OfTwoPrimes`) passes all checks.  Its document is read, in
either container, and the algorithm and the public key of the result are those of the key
(`PrivateKey.IsRsa`).  `PrivateKey.ofPkcs8_two_primes` puts this together.

The only bound is that of documents in general: a document has at most `Der.maxLength` bytes.  The
documents of moduli of up to 300 million bits stay below it.
-/

namespace SealedKey

open Der (maxLength)

theorem BigEndian.bitLength_eq_size (n : Nat) : bitLength n = n.size :=
  eq_of_forall_ge_iff fun _ => bitLength_le_iff.trans Nat.size_le.symm

namespace Rsa

/-! ## Keys of two primes -/

/-- The document of a key of two odd primes.  The numbers that speed up decryption may be any. -/
structure Document.OfTwoPrimes (document : Document) : Prop where
  prime₁ : document.prime₁.Prime
  prime₂ : document.prime₂.Prime
  odd₁ : Odd document.prime₁
  odd₂ : Odd document.prime₂
  ne : document.prime₁ ≠ document.prime₂
  modulus_eq : document.modulus = document.prime₁ * document.prime₂
  odd_publicExponent : Odd document.publicExponent
  three_le : 3 ≤ document.publicExponent
  lt_modulus : document.publicExponent < document.modulus
  lt_two_pow : document.publicExponent < 2 ^ 33
  inverse₁ : document.privateExponent * document.publicExponent ≡ 1 [MOD document.prime₁ - 1]
  inverse₂ : document.privateExponent * document.publicExponent ≡ 1 [MOD document.prime₂ - 1]
  multiPrime : document.multiPrime = false

theorem mul_mod_eq_one {p d e : Nat} (hp : p.Prime) (hodd : Odd p) (h : d * e ≡ 1 [MOD p - 1]) :
    e * d % (p - 1) = 1 := by
  have htwo := hp.two_le
  have hne : p ≠ 2 := by
    rintro rfl
    exact absurd hodd (by decide)
  have hone : 1 % (p - 1) = 1 := Nat.mod_eq_of_lt (by omega)
  rw [Nat.mul_comm]
  exact Eq.trans h hone

namespace Document

variable {document : Document}

theorem OfTwoPrimes.valid (h : document.OfTwoPrimes) : Valid document.modulus
    document.publicExponent document.privateExponent document.prime₁ document.prime₂ where
  publicExponent_lt_modulus := h.lt_modulus
  odd_modulus := Nat.odd_iff.1 (h.modulus_eq ▸ h.odd₁.mul h.odd₂)
  odd_publicExponent := Nat.odd_iff.1 h.odd_publicExponent
  two_le_publicExponent := Nat.le_of_succ_le h.three_le
  publicExponent_le := Nat.le_of_lt_succ h.lt_two_pow
  one_lt_prime₁ := h.prime₁.one_lt
  one_lt_prime₂ := h.prime₂.one_lt
  mul_eq_modulus := h.modulus_eq.symm
  undoes₁ := mul_mod_eq_one h.prime₁ h.odd₁ h.inverse₁
  undoes₂ := mul_mod_eq_one h.prime₂ h.odd₂ h.inverse₂

/-- All numbers of a document have at most so many bytes. -/
structure Within (document : Document) (width : Nat) : Prop where
  modulus : document.modulus < 256 ^ width
  privateExponent : document.privateExponent < 256 ^ width
  exponent₁ : document.exponent₁ < 256 ^ width
  exponent₂ : document.exponent₂ < 256 ^ width
  coefficient : document.coefficient < 256 ^ width

theorem OfTwoPrimes.length_encode_le (h : document.OfTwoPrimes) {width : Nat}
    (hwithin : document.Within width) (hmax : 7 * width + 100 ≤ maxLength) :
    document.encode.length ≤ 7 * width + 70 := by
  have hnumber {n : Nat} (hn : n < 256 ^ width) : (Der.integer n).length ≤ width + 7 :=
    Der.length_integer_le hn (by omega)
  have hfactor {p : Nat} (hp : p ∣ document.modulus) : p < 256 ^ width :=
    Nat.lt_of_le_of_lt (Nat.le_of_dvd (Nat.zero_lt_of_lt h.lt_modulus) hp) hwithin.modulus
  have hexponent : (Der.integer document.publicExponent).length ≤ 5 + 7 :=
    Der.length_integer_le (Nat.lt_trans h.lt_two_pow (by decide)) (by decide)
  have hversion : (Der.integer 0).length = 3 := by decide
  have := hnumber hwithin.modulus
  have := hnumber hwithin.privateExponent
  have := hnumber (hfactor (h.modulus_eq ▸ Nat.dvd_mul_right _ _))
  have := hnumber (hfactor (h.modulus_eq ▸ Nat.dvd_mul_left _ _))
  have := hnumber hwithin.exponent₁
  have := hnumber hwithin.exponent₂
  have := hnumber hwithin.coefficient
  refine Der.length_element_le .sequence (n := 7 * width + 64) ?_ (by omega)
  simp only [List.flatten_cons, List.flatten_nil, List.append_nil, List.length_append]
  omega

end Document

end Rsa

namespace PrivateKey

/-! ## Keys that are read -/

/-- A key is the RSA key of these two numbers: its algorithm says the number of bits of the
modulus, and its public key document says both. -/
structure IsRsa (key : PrivateKey) (modulus exponent : Nat) : Prop where
  algorithm_eq : key.algorithm = .rsa modulus.size
  publicKey : ∃ bytes info, key.publicKeyDocument = .ok bytes ∧
    Pkcs8.PublicKeyInfo.ofDer bytes = .ok info ∧ info.algorithm = Pkcs8.rsaAlgorithm ∧
      Rsa.PublicKey.ofDer info.publicKey = .ok ⟨modulus, exponent⟩

theorem isRsa_of_shortModulus {key : Rsa.Key} (h : key.ShortModulus) :
    (rsa key).IsRsa key.modulus key.publicExponent := by
  have hinfo : (rsa key).publicKeyInfo = .ok ⟨Pkcs8.rsaAlgorithm, key.publicKey.encode⟩ := rfl
  have hlength := length_encode_rsa_le h
  have hoid : Oid.minLength ≤ Pkcs8.rsaEncryption.encoding.length := by decide
  have hpublic : key.publicKey.encode.length ≤ maxLength :=
    Nat.le_of_add_right_le (key.length_encode_publicKey_le h)
  exact ⟨congrArg _ (BigEndian.bitLength_eq_size key.modulus), _,
    ⟨Pkcs8.rsaAlgorithm, key.publicKey.encode⟩, publicKeyDocument_eq_ok hinfo hlength,
    Pkcs8.PublicKeyInfo.ofDer_eq_ok_iff.2 ⟨hlength, hoid, rfl⟩, rfl,
    Rsa.PublicKey.ofDer_eq_ok_iff.2 ⟨hpublic, rfl⟩⟩

variable {document : Rsa.Document}

theorem exists_ofPkcs1_of_two_primes (h : document.OfTwoPrimes)
    (hlength : document.encode.length ≤ maxLength) : ∃ key,
      ofPkcs1 document.encode = .ok key ∧ key.IsRsa document.modulus document.publicExponent := by
  have hkey := Rsa.Key.ofDocument?_of_valid h.multiPrime h.valid
  have hread := Rsa.Key.ofPkcs1_of_ofDocument? h.multiPrime hkey hlength
  exact ⟨_, ofPkcs1_of_rsa hread, isRsa_of_shortModulus (Rsa.Key.shortModulus_of_ofPkcs1 hread)⟩

/-- The key of two odd primes is read from its PKCS#8 document, and from a text with its document
by itself, whatever its size.  The algorithm of the result has the number of bits of the modulus,
and its public key has the modulus and the exponent.  There are such documents for all keys whose
numbers are not longer than a seventh of the longest document. -/
theorem ofPkcs8_two_primes (document : Rsa.Document) (h : document.OfTwoPrimes) :
    (∀ bytes, Der.document (Pkcs8.wrapping Pkcs8.rsaAlgorithm document.encode) = .ok bytes →
      ∃ key, ofPkcs8 bytes = .ok key ∧ key.IsRsa document.modulus document.publicExponent) ∧
    (∀ bytes text, Der.document document.encode = .ok bytes →
      Pem.privateKeyBlock text = .ok ⟨Label.rsaPrivateKey, bytes⟩ →
        ∃ key, ofPem text = .ok key ∧ key.IsRsa document.modulus document.publicExponent) ∧
    ∀ width, document.Within width → 7 * width + 100 ≤ maxLength →
      (∃ bytes, Der.document (Pkcs8.wrapping Pkcs8.rsaAlgorithm document.encode) = .ok bytes) ∧
        ∃ bytes, Der.document document.encode = .ok bytes := by
  simp only [Der.document_eq_ok_iff]
  refine ⟨?_, ?_, ?_⟩
  · rintro _ ⟨hlength, rfl⟩
    rw [ofPkcs8_wrapping_rsa hlength]
    have hlt := Pkcs8.length_lt_length_wrapping Pkcs8.rsaAlgorithm document.encode
    exact exists_ofPkcs1_of_two_primes h (Nat.le_trans (Nat.le_of_lt hlt) hlength)
  · rintro _ text ⟨hlength, rfl⟩ hblock
    rw [ofPem_of_rsaPrivateKey hblock]
    exact exists_ofPkcs1_of_two_primes h hlength
  · intro width hwithin hmax
    have hlength := h.length_encode_le hwithin hmax
    have hwrapping := Pkcs8.length_wrapping_rsa_le
      (Nat.le_trans (Nat.add_le_add_right hlength 30) hmax)
    exact ⟨⟨_, by omega, rfl⟩, _, by omega, rfl⟩

/-- The key of the primes 3 and 5. -/
theorem ofPkcs8_three_five : rsaDocument15.OfTwoPrimes ∧
    ∃ key, ofPkcs8 (Pkcs8.wrapping Pkcs8.rsaAlgorithm rsaDocument15.encode) = .ok key ∧
      key.IsRsa 15 3 := by
  have htwo : rsaDocument15.OfTwoPrimes :=
    { prime₁ := by decide
      prime₂ := by decide
      odd₁ := by decide
      odd₂ := by decide
      ne := by decide
      modulus_eq := rfl
      odd_publicExponent := by decide
      three_le := by decide
      lt_modulus := by decide
      lt_two_pow := by decide
      inverse₁ := by decide
      inverse₂ := by decide
      multiPrime := rfl }
  exact ⟨htwo, (ofPkcs8_two_primes rsaDocument15 htwo).1 _
    (Der.document_eq_ok_iff.2 ⟨by decide, rfl⟩)⟩

end PrivateKey

end SealedKey
