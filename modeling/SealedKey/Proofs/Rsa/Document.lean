import SealedKey.Proofs.Der.Fields
import SealedKey.Rsa.Document

/-!
# The layout of RSA key documents

A document with two primes is the DER form of its numbers and nothing else
(`Document.ofDer_eq_ok_iff`).  A document with further primes has them behind its numbers; they
are described as far as they are checked (`FurtherForm`).  The document of a public key is the DER
form of its two numbers (`PublicKey.ofDer_eq_ok_iff`).
-/

namespace SealedKey.Rsa.Document

open Der Der.Reader

/-- The fields of a document up to its further primes. -/
def contents (document : Document) : Bytes :=
  integer (if document.multiPrime then 1 else 0) ++ (integer document.modulus ++
    (integer document.publicExponent ++ (integer document.privateExponent ++
      (integer document.prime₁ ++ (integer document.prime₂ ++ (integer document.exponent₁ ++
        (integer document.exponent₂ ++ integer document.coefficient)))))))

theorem encode_eq {document : Document} (h : document.multiPrime = false) :
    document.encode = element .sequence document.contents := by
  simp [encode, Der.sequence, contents, h]

/-- The numbers of a document are not too long. -/
structure Bounded (document : Document) : Prop where
  modulus : (integerBytes document.modulus).length ≤ maxLength
  publicExponent : (integerBytes document.publicExponent).length ≤ maxLength
  privateExponent : (integerBytes document.privateExponent).length ≤ maxLength
  prime₁ : (integerBytes document.prime₁).length ≤ maxLength
  prime₂ : (integerBytes document.prime₂).length ≤ maxLength
  exponent₁ : (integerBytes document.exponent₁).length ≤ maxLength
  exponent₂ : (integerBytes document.exponent₂).length ≤ maxLength
  coefficient : (integerBytes document.coefficient).length ≤ maxLength

/-! ## Further primes -/

/-- A further prime: a sequence of three numbers. -/
def FurtherPrimeForm (front : Bytes) : Prop :=
  ∃ body, body.length ≤ maxLength ∧ front = element .sequence body ∧
    ∃ prime exponent coefficient,
      body = integer prime ++ (integer exponent ++ integer coefficient) ∧
        (integerBytes prime).length ≤ maxLength ∧ (integerBytes exponent).length ≤ maxLength ∧
          (integerBytes coefficient).length ≤ maxLength

theorem reads_readFurtherPrime :
    Reads readFurtherPrime fun _ front _ => FurtherPrimeForm front := by
  refine (Reads.sequence (Reads.natural_bind fun _ => Reads.natural_bind fun _ =>
    Reads.natural_bind fun _ => reads_pure ())).congr fun _ front rest => ?_
  constructor
  · intro h
    obtain ⟨_, hmax, rfl, prime, _, hprime, rfl, exponent, _, hexponent, rfl,
      coefficient, _, hcoefficient, rfl, -, rfl⟩ := h
    rw [List.append_nil] at hmax ⊢
    exact ⟨_, hmax, rfl, prime, exponent, coefficient, rfl, hprime, hexponent, hcoefficient⟩
  · intro h
    obtain ⟨_, hmax, rfl, prime, exponent, coefficient, rfl, hprime, hexponent, hcoefficient⟩ := h
    refine ⟨_, hmax, rfl, prime, _, hprime, rfl, exponent, _, hexponent, rfl,
      coefficient, [], hcoefficient, ?_, rfl, rfl⟩
    rw [List.append_nil]

/-- The further primes of a document, if it has any. -/
def FurtherForm (primes? : Option (List Unit)) (front rest : Bytes) : Prop :=
  match primes? with
  | none => front = [] ∧ BeginsElse (· ≠ .sequence) rest
  | some primes => ∃ body, body.length ≤ maxLength ∧ front = element .sequence body ∧
      Forms (fun _ front _ => FurtherPrimeForm front) primes body []

theorem reads_readFurtherPrimes : Reads readFurtherPrimes FurtherForm := by
  have hpos (u : Unit) (front rest : Bytes) (h : FurtherPrimeForm front) : 0 < front.length := by
    obtain ⟨body, -, rfl, -⟩ := h
    exact length_element_pos .sequence body
  refine ((Reads.sequence (reads_readFurtherPrime.many hpos)).optional .sequence).congr
    fun primes? front rest => ?_
  cases primes? with
  | none =>
    constructor
    · intro hform
      obtain ⟨-, hfront, hrest⟩ | ⟨_, ⟨⟩, -⟩ := hform
      exact ⟨hfront, hrest⟩
    · intro hform
      obtain ⟨hfront, hrest⟩ := hform
      exact .inl ⟨rfl, hfront, hrest⟩
  | some primes =>
    constructor
    · intro hform
      obtain ⟨⟨⟩, -⟩ | ⟨_, ⟨⟩, -, body, hmax, rfl, hprimes, -⟩ := hform
      exact ⟨body, hmax, rfl, hprimes⟩
    · intro hform
      obtain ⟨body, hmax, rfl, hprimes⟩ := hform
      exact .inr ⟨primes, rfl, begins_element .sequence body rest, body, hmax, rfl, hprimes, rfl⟩

/-! ## Documents -/

theorem reads_readFields : Reads readFields fun document front rest => document.Bounded ∧
    ∃ primes? further, primes?.isSome = document.multiPrime ∧ FurtherForm primes? further rest ∧
      front = document.contents ++ further := by
  unfold readFields
  refine ((reads_unsigned 1 (by decide) (by decide)).bind fun version =>
    Reads.guard (p := 1 < version) <| Reads.natural_bind fun modulus =>
    Reads.natural_bind fun publicExponent => Reads.natural_bind fun privateExponent =>
    Reads.natural_bind fun prime₁ => Reads.natural_bind fun prime₂ =>
    Reads.natural_bind fun exponent₁ => Reads.natural_bind fun exponent₂ =>
    Reads.natural_bind fun coefficient => reads_readFurtherPrimes.bind fun primes? =>
    Reads.guard (p := (primes?.isSome = true) ≠ (version = 1)) <| reads_pure (Document.mk modulus
      publicExponent privateExponent prime₁ prime₂ exponent₁ exponent₂ coefficient
      primes?.isSome)).congr fun document front rest => ?_
  constructor
  · intro h
    obtain ⟨version, _, _, rfl, ⟨-, rfl⟩, hle, n, _, hn, rfl, e, _, he, rfl, d, _, hd, rfl,
      p, _, hp, rfl, q, _, hq, rfl, dp, _, hdp, rfl, dq, _, hdq, rfl, qInv, _, hqInv, rfl,
      primes?, further, _, rfl, hfurther, hversion, rfl, rfl⟩ := h
    have hversion : version = if primes?.isSome then 1 else 0 := by
      have hiff : primes?.isSome = true ↔ version = 1 := (not_not.1 hversion).to_iff
      split
      · rename_i hsome
        exact hiff.1 hsome
      · rename_i hnone
        have := mt hiff.2 hnone
        omega
    refine ⟨⟨hn, he, hd, hp, hq, hdp, hdq, hqInv⟩, primes?, further, rfl, hfurther, ?_⟩
    simp only [contents, hversion, List.append_assoc, List.append_nil]
  · intro h
    obtain ⟨hbounded, primes?, further, hsome, hfurther, rfl⟩ := h
    refine ⟨if document.multiPrime then 1 else 0, _, _, ?_, ⟨?_, rfl⟩, ?_,
      document.modulus, _, hbounded.modulus, rfl,
      document.publicExponent, _, hbounded.publicExponent, rfl,
      document.privateExponent, _, hbounded.privateExponent, rfl,
      document.prime₁, _, hbounded.prime₁, rfl, document.prime₂, _, hbounded.prime₂, rfl,
      document.exponent₁, _, hbounded.exponent₁, rfl,
      document.exponent₂, _, hbounded.exponent₂, rfl,
      document.coefficient, _, hbounded.coefficient, rfl,
      primes?, further, [], (List.append_nil _).symm, hfurther, ?_, ?_, rfl⟩
    · simp only [contents, List.append_assoc]
    · split <;> decide
    · split <;> decide
    · rw [hsome, not_not]
      cases document.multiPrime <;> simp
    · rw [hsome]

/-- The contents of a document that is not too long are not too long either. -/
theorem bounded_of_length_le {document : Document} (h : document.contents.length ≤ maxLength) :
    document.Bounded := by
  have hinteger (n : Nat) : (integerBytes n).length < (integer n).length :=
    length_lt_length_element .integer (integerBytes n)
  have := hinteger document.modulus
  have := hinteger document.publicExponent
  have := hinteger document.privateExponent
  have := hinteger document.prime₁
  have := hinteger document.prime₂
  have := hinteger document.exponent₁
  have := hinteger document.exponent₂
  have := hinteger document.coefficient
  simp only [contents, List.length_append] at h
  constructor <;> omega

/-- The documents with two primes are the DER forms of their numbers. -/
theorem ofDer_eq_ok_iff {bytes : Bytes} {document : Document} (h : document.multiPrime = false) :
    ofDer bytes = .ok document ↔ bytes.length ≤ maxLength ∧ bytes = document.encode := by
  rw [ofDer, (Reads.sequence reads_readFields).run_eq_ok_iff, encode_eq h]
  refine and_congr_right fun hlength => ?_
  constructor
  · intro hform
    obtain ⟨_, -, rfl, -, primes?, further, hsome, hfurther, rfl⟩ := hform
    rw [h, Option.isSome_eq_false_iff, Option.isNone_iff_eq_none] at hsome
    subst hsome
    rw [hfurther.1, List.append_nil]
  · rintro rfl
    have hmax := Nat.le_trans
      (Nat.le_of_lt (length_lt_length_element .sequence document.contents)) hlength
    exact ⟨_, hmax, rfl, bounded_of_length_le hmax, none, [], h.symm, ⟨rfl, .inl rfl⟩,
      (List.append_nil _).symm⟩

end SealedKey.Rsa.Document

namespace SealedKey.Rsa.PublicKey

open Der Der.Reader

/-- The contents of the DER form. -/
def contents (key : PublicKey) : Bytes :=
  integer key.modulus ++ integer key.exponent

theorem encode_eq (key : PublicKey) : key.encode = element .sequence key.contents := by
  simp [encode, Der.sequence, contents]

/-- The documents of public keys are the DER forms of their numbers. -/
theorem ofDer_eq_ok_iff {bytes : Bytes} {key : PublicKey} :
    ofDer bytes = .ok key ↔ bytes.length ≤ maxLength ∧ bytes = key.encode := by
  have hread := (Reads.natural_bind fun modulus => Reads.natural_bind fun exponent =>
    reads_pure (PublicKey.mk modulus exponent)).sequence
  rw [ofDer, hread.run_eq_ok_iff, encode_eq]
  refine and_congr_right fun hlength => ?_
  constructor
  · intro h
    obtain ⟨_, -, rfl, modulus, _, -, rfl, exponent, _, -, rfl, rfl, rfl⟩ := h
    rw [List.append_nil]
    rfl
  · rintro rfl
    have hmax := Nat.le_trans
      (Nat.le_of_lt (length_lt_length_element .sequence key.contents)) hlength
    have := length_lt_length_element .integer (integerBytes key.modulus)
    have := length_lt_length_element .integer (integerBytes key.exponent)
    have hnumbers : (integer key.modulus).length + (integer key.exponent).length ≤ maxLength := by
      rwa [contents, List.length_append] at hmax
    simp only [integer] at hnumbers
    refine ⟨_, hmax, rfl, key.modulus, _, by omega, rfl, key.exponent, [], by omega, ?_, rfl, rfl⟩
    rw [List.append_nil]

end SealedKey.Rsa.PublicKey
