import SealedKey.Pkcs8.EncryptedKeyInfo
import SealedKey.Proofs.Pkcs8.Layout

/-!
# The layout of encryption schemes

A scheme is written as an algorithm identifier with parameters, which hold two more identifiers
with parameters of their own.  Each is read back from the identifier it is written as
(`Derivation.ofIdentifier_identifier`, `AesCbc.ofIdentifier_identifier`,
`Scheme.ofIdentifier_identifier`), and `EncryptedKeyInfo.ofDer_encode` is the same for a whole
encrypted document.  The only condition apart from lengths is that the numbers of the scheme fit
into the widths with which they are read (`Pbes2.Readable`).

In the other direction, a scheme of the second kind is read from its DER form only
(`EncryptedKeyInfo.eq_encode_of_ofDer`), with one exception: PBKDF2 has a standard function, which
may be named or not (`Prf.NamedBy`).
-/

namespace SealedKey.Pkcs5

open Der Der.Reader
open Pkcs8 (AlgorithmIdentifier)

theorem reads_optional_unsigned (width : Nat) (hpos : 0 < width) (hwidth : width < maxLength) :
    Reads (optional .integer (unsigned width)) fun n? front rest =>
      (∀ n ∈ n?, n < 256 ^ width) ∧ front = n?.elim [] integer ∧
        (n? = none → BeginsElse (· ≠ .integer) rest) :=
  (reads_unsigned width hpos hwidth).optional_elim fun _ _ => begins_element _ _ _

theorem reads_optional_identifier :
    Reads (optional .sequence AlgorithmIdentifier.read) fun identifier? front rest =>
      (∀ identifier ∈ identifier?, identifier.Readable) ∧
        front = identifier?.elim [] AlgorithmIdentifier.encode ∧
        (identifier? = none → BeginsElse (· ≠ .sequence) rest) :=
  AlgorithmIdentifier.reads_read.optional_elim fun _ _ => begins_element _ _ _

theorem length_le_of_append {salt later : Bytes}
    (h : (octetString salt ++ later).length ≤ maxLength) : salt.length ≤ maxLength := by
  have := length_lt_length_element .octetString salt
  rw [List.length_append, octetString] at h
  omega

/-! ## Pseudo-random functions -/

namespace Prf

theorem ofIdentifier_identifier (prf : Prf) : ofIdentifier prf.identifier = .ok prf := by
  cases prf <;> rfl

theorem readable_identifier (prf : Prf) : prf.identifier.Readable := by
  constructor <;> cases prf <;> decide

theorem ofIdentifier_eq_ok_iff {algorithm : AlgorithmIdentifier} {prf : Prf} :
    ofIdentifier algorithm = .ok prf ↔ algorithm = prf.identifier := by
  refine ⟨fun h => ?_, fun h => by rw [h, ofIdentifier_identifier]⟩
  obtain ⟨oid, parameters⟩ := algorithm
  unfold ofIdentifier at h
  split at h
  · cases h
  · rename_i parameter hparameter
    split at h
    · cases h
    · rename_i hnull
      split at h
      · rename_i prf' hfind
        have hoid : prf'.oid = oid := by simpa using List.find?_some hfind
        cases h
        simp only at hparameter
        rw [identifier, hoid, hparameter, not_not.1 hnull]
      · cases h

/-- How a document names the function: by its identifier, and the standard one also by none. -/
def NamedBy (prf : Prf) (identifier? : Option AlgorithmIdentifier) : Prop :=
  identifier?.elim (prf = .standard) (· = prf.identifier)

theorem NamedBy.readable {prf : Prf} {identifier? : Option AlgorithmIdentifier}
    (h : prf.NamedBy identifier?) : ∀ identifier ∈ identifier?, identifier.Readable := by
  rintro identifier ⟨⟩
  rw [show identifier = prf.identifier from h]
  exact prf.readable_identifier

theorem reads_prf (identifier? : Option AlgorithmIdentifier) :
    Reads (identifier?.elim (return standard) fun algorithm => liftM (ofIdentifier algorithm))
      fun prf front _ => prf.NamedBy identifier? ∧ front = [] := by
  cases identifier? with
  | none => exact reads_pure _
  | some algorithm =>
    exact (reads_lift _).congr fun _ _ _ => and_congr_left fun _ => ofIdentifier_eq_ok_iff

end Prf

/-! ## PBKDF2 -/

namespace Pbkdf2

/-- The numbers that can be read. -/
structure Readable (parameters : Pbkdf2) : Prop where
  iterations_lt : parameters.iterations < 256 ^ 4
  keyLength_lt : ∀ n ∈ parameters.keyLength, n < 256 ^ 2

/-- The identifier of the function, if it is written down. -/
def prfIdentifier? (parameters : Pbkdf2) : Option AlgorithmIdentifier :=
  if parameters.prf = .standard then none else some parameters.prf.identifier

/-- The contents of the DER form. -/
def contents (parameters : Pbkdf2) : Bytes :=
  octetString parameters.salt ++ (integer parameters.iterations ++
    (parameters.keyLength.elim [] integer ++
      parameters.prfIdentifier?.elim [] AlgorithmIdentifier.encode))

theorem encode_eq (parameters : Pbkdf2) :
    parameters.encode = element .sequence parameters.contents := by
  simp only [encode, Der.sequence, contents, prfIdentifier?]
  split <;> simp

theorem namedBy_prfIdentifier? (parameters : Pbkdf2) :
    parameters.prf.NamedBy parameters.prfIdentifier? := by
  unfold prfIdentifier?
  split
  · assumption
  · rfl

/-- There is only one way to name a function that is not the standard one. -/
theorem eq_prfIdentifier?_of_namedBy {parameters : Pbkdf2} (hprf : parameters.prf ≠ .standard)
    {identifier? : Option AlgorithmIdentifier} (h : parameters.prf.NamedBy identifier?) :
    identifier? = parameters.prfIdentifier? := by
  rw [prfIdentifier?, if_neg hprf]
  cases identifier? with
  | none => exact absurd h hprf
  | some identifier => exact congrArg some h

/-- The contents with the function named in one of its ways. -/
def contentsWith (parameters : Pbkdf2) (identifier? : Option AlgorithmIdentifier) : Bytes :=
  octetString parameters.salt ++ (integer parameters.iterations ++
    (parameters.keyLength.elim [] integer ++ identifier?.elim [] AlgorithmIdentifier.encode))

theorem ofSequence_eq_ok_iff {e : Element} {parameters : Pbkdf2} :
    ofSequence readFields e = .ok parameters ↔ parameters.Readable ∧
      e.contents.length ≤ maxLength ∧ ∃ identifier?, parameters.prf.NamedBy identifier? ∧
        e = ⟨.sequence, parameters.contentsWith identifier?⟩ := by
  have hread := reads_octets.bind fun salt =>
    (reads_unsigned 4 (by decide) (by decide)).bind fun iterations =>
    (reads_optional_unsigned 2 (by decide) (by decide)).bind fun keyLength =>
    reads_optional_identifier.bind fun identifier => (Prf.reads_prf identifier).bind fun prf =>
    reads_pure (Pbkdf2.mk salt iterations keyLength prf)
  obtain ⟨tag, contents⟩ := e
  refine hread.ofSequence_eq_ok_iff.trans ?_
  constructor
  · intro h
    obtain ⟨rfl, hmax, salt, _, _, hcontents, ⟨-, rfl⟩, iterations, _, _, rfl, ⟨hiterations, rfl⟩,
      keyLength, _, _, rfl, ⟨hkeyLength, rfl, -⟩, identifier?, _, _, rfl, ⟨-, rfl, -⟩, prf, _, _,
      rfl, ⟨hprf, rfl⟩, rfl, rfl⟩ := h
    rw [List.append_nil, List.append_nil] at hcontents
    exact ⟨⟨hiterations, hkeyLength⟩, hmax, identifier?, hprf, congrArg _ hcontents⟩
  · intro h
    obtain ⟨hreadable, hmax, identifier?, hprf, ⟨⟩⟩ := h
    refine ⟨rfl, hmax, parameters.salt, _, _, rfl, ⟨length_le_of_append hmax, rfl⟩,
      parameters.iterations, _, _, rfl, ⟨hreadable.iterations_lt, rfl⟩, parameters.keyLength, _, _,
      rfl, ⟨hreadable.keyLength_lt, rfl, fun _ => ?_⟩, identifier?, _, [],
      (List.append_nil _).symm, ⟨hprf.readable, rfl, fun _ => .inl rfl⟩, parameters.prf, [], [],
      rfl, ⟨hprf, rfl⟩, rfl, rfl⟩
    rw [List.append_nil]
    cases identifier? with
    | none => exact .inl rfl
    | some identifier => exact .inr ⟨.sequence, nofun, _, rfl⟩

theorem ofSequence_contents {parameters : Pbkdf2} (h : parameters.Readable)
    (hmax : parameters.contents.length ≤ maxLength) :
    ofSequence readFields ⟨.sequence, parameters.contents⟩ = .ok parameters :=
  ofSequence_eq_ok_iff.2 ⟨h, hmax, _, parameters.namedBy_prfIdentifier?, rfl⟩

end Pbkdf2

/-! ## scrypt -/

namespace Scrypt

/-- The numbers that can be read. -/
structure Readable (parameters : Scrypt) : Prop where
  n_lt : parameters.cost.n < 256 ^ 8
  r_lt : parameters.cost.r < 256 ^ 2
  p_lt : parameters.cost.p < 256 ^ 2
  keyLength_lt : ∀ n ∈ parameters.keyLength, n < 256 ^ 2

/-- The contents of the DER form. -/
def contents (parameters : Scrypt) : Bytes :=
  octetString parameters.salt ++ (integer parameters.cost.n ++ (integer parameters.cost.r ++
    (integer parameters.cost.p ++ parameters.keyLength.elim [] integer)))

theorem encode_eq (parameters : Scrypt) :
    parameters.encode = element .sequence parameters.contents := by
  simp [encode, Der.sequence, contents]

theorem ofSequence_eq_ok_iff {e : Element} {parameters : Scrypt} :
    ofSequence readFields e = .ok parameters ↔ parameters.Readable ∧
      e.contents.length ≤ maxLength ∧ e = ⟨.sequence, parameters.contents⟩ := by
  have hread := reads_octets.bind fun salt =>
    (reads_unsigned 8 (by decide) (by decide)).bind fun n =>
    (reads_unsigned 2 (by decide) (by decide)).bind fun r =>
    (reads_unsigned 2 (by decide) (by decide)).bind fun p =>
    (reads_optional_unsigned 2 (by decide) (by decide)).bind fun keyLength =>
    reads_pure (Scrypt.mk salt ⟨n, r, p⟩ keyLength)
  obtain ⟨tag, contents⟩ := e
  refine hread.ofSequence_eq_ok_iff.trans ?_
  constructor
  · intro h
    obtain ⟨rfl, hmax, salt, _, _, hcontents, ⟨-, rfl⟩, n, _, _, rfl, ⟨hn, rfl⟩, r, _, _, rfl,
      ⟨hr, rfl⟩, p, _, _, rfl, ⟨hp, rfl⟩, keyLength, _, _, rfl, ⟨hkeyLength, rfl, -⟩, rfl, rfl⟩ := h
    rw [List.append_nil] at hcontents
    exact ⟨⟨hn, hr, hp, hkeyLength⟩, hmax, congrArg _ hcontents⟩
  · intro h
    obtain ⟨hreadable, hmax, ⟨⟩⟩ := h
    exact ⟨rfl, hmax, parameters.salt, _, _, rfl, ⟨length_le_of_append hmax, rfl⟩,
      parameters.cost.n, _, _, rfl, ⟨hreadable.n_lt, rfl⟩, parameters.cost.r, _, _, rfl,
      ⟨hreadable.r_lt, rfl⟩, parameters.cost.p, _, _, rfl, ⟨hreadable.p_lt, rfl⟩,
      parameters.keyLength, _, [], (List.append_nil _).symm,
      ⟨hreadable.keyLength_lt, rfl, fun _ => .inl rfl⟩, rfl, rfl⟩

theorem ofSequence_contents {parameters : Scrypt} (h : parameters.Readable)
    (hmax : parameters.contents.length ≤ maxLength) :
    ofSequence readFields ⟨.sequence, parameters.contents⟩ = .ok parameters :=
  ofSequence_eq_ok_iff.2 ⟨h, hmax, rfl⟩

end Scrypt

/-! ## Key derivations -/

namespace Derivation

/-- The numbers that can be read. -/
def Readable : Derivation → Prop
  | pbkdf2 parameters => parameters.Readable
  | scrypt parameters => parameters.Readable

/-- The parameters without their tag. -/
def contents : Derivation → Bytes
  | pbkdf2 parameters => parameters.contents
  | scrypt parameters => parameters.contents

/-- The derivation as an algorithm identifier. -/
def identifier (derivation : Derivation) : AlgorithmIdentifier :=
  ⟨derivation.oid, some ⟨.sequence, derivation.contents⟩⟩

theorem encode_eq (derivation : Derivation) : derivation.encode = derivation.identifier.encode := by
  cases derivation with
  | pbkdf2 parameters =>
    simp [encode, AlgorithmIdentifier.encode, identifier, parameterBytes, contents,
      Pbkdf2.encode_eq, Element.encode]
  | scrypt parameters =>
    simp [encode, AlgorithmIdentifier.encode, identifier, parameterBytes, contents,
      Scrypt.encode_eq, Element.encode]

theorem ofIdentifier_identifier {derivation : Derivation} (h : derivation.Readable)
    (hmax : derivation.contents.length ≤ maxLength) :
    ofIdentifier derivation.identifier = .ok derivation := by
  have hne : Scrypt.oid ≠ Pbkdf2.oid := by decide
  cases derivation with
  | pbkdf2 parameters =>
    have hread := Pbkdf2.ofSequence_contents h hmax
    simp only [ofIdentifier, identifier, contents, oid, hread, if_true]
    rfl
  | scrypt parameters =>
    have hread := Scrypt.ofSequence_contents h hmax
    simp only [ofIdentifier, identifier, contents, oid, hread, if_true, hne, if_false]
    rfl

/-- A derivation whose function is not the one that need not be named. -/
def NamesPrf : Derivation → Prop
  | pbkdf2 parameters => parameters.prf ≠ .standard
  | scrypt _ => True

theorem eq_identifier_of_ofIdentifier {algorithm : AlgorithmIdentifier} {derivation : Derivation}
    (hprf : derivation.NamesPrf) (h : ofIdentifier algorithm = .ok derivation) :
    algorithm = derivation.identifier ∧ derivation.Readable := by
  obtain ⟨oid, parameters⟩ := algorithm
  unfold ofIdentifier at h
  split at h
  · cases h
  · rename_i e he
    simp only at he h
    split at h
    · rename_i hoid
      obtain ⟨parameters, hread, h⟩ := Except.bind_eq_ok_iff.1 h
      cases h
      obtain ⟨hreadable, -, identifier?, hnamed, rfl⟩ := Pbkdf2.ofSequence_eq_ok_iff.1 hread
      obtain rfl := Pbkdf2.eq_prfIdentifier?_of_namedBy hprf hnamed
      rw [he, hoid]
      exact ⟨rfl, hreadable⟩
    · split at h
      · rename_i hoid
        obtain ⟨parameters, hread, h⟩ := Except.bind_eq_ok_iff.1 h
        cases h
        obtain ⟨hreadable, -, rfl⟩ := Scrypt.ofSequence_eq_ok_iff.1 hread
        rw [he, hoid]
        exact ⟨rfl, hreadable⟩
      · cases h

end Derivation

/-! ## Ciphers -/

namespace AesCbc

/-- The cipher with its initialization vector as an algorithm identifier. -/
def identifier (cipher : AesCbc) (iv : Bytes) : AlgorithmIdentifier :=
  ⟨cipher.oid, some ⟨.octetString, iv⟩⟩

theorem ofIdentifier_identifier (cipher : AesCbc) {iv : Bytes} (h : iv.length = ivSize) :
    ofIdentifier (cipher.identifier iv) = .ok (cipher, iv) := by
  have hread : ofIdentifier (cipher.identifier iv) =
      if iv.length = ivSize then .ok (cipher, iv) else .error (.malformed .octetString) := by
    cases cipher <;> rfl
  rw [hread, if_pos h]

theorem eq_identifier_of_ofIdentifier {algorithm : AlgorithmIdentifier} {cipher : AesCbc}
    {iv : Bytes} (h : ofIdentifier algorithm = .ok (cipher, iv)) :
    algorithm = cipher.identifier iv ∧ iv.length = ivSize := by
  obtain ⟨oid, parameters⟩ := algorithm
  unfold ofIdentifier at h
  split at h
  · cases h
  · rename_i parameter hparameter
    obtain ⟨tag, contents⟩ := parameter
    simp only at hparameter h
    split at h
    · cases h
    · rename_i htag
      obtain rfl := not_not.1 htag
      split at h
      · cases h
      · rename_i cipher' hfind
        have hoid : cipher'.oid = oid := by simpa using List.find?_some hfind
        split at h
        · rename_i hlength
          cases h
          rw [hparameter, ← hoid]
          exact ⟨rfl, hlength⟩
        · cases h

end AesCbc

/-! ## Schemes -/

namespace Pbes2

/-- What it takes for a scheme to be read back, apart from its length. -/
structure Readable (scheme : Pbes2) : Prop where
  derivation : scheme.derivation.Readable
  length_iv : scheme.iv.length = AesCbc.ivSize

/-- The contents of the parameters. -/
def contents (scheme : Pbes2) : Bytes :=
  scheme.derivation.identifier.encode ++ (scheme.cipher.identifier scheme.iv).encode

/-- The scheme as an algorithm identifier. -/
def identifier (scheme : Pbes2) : AlgorithmIdentifier :=
  ⟨oid, some ⟨.sequence, scheme.contents⟩⟩

theorem encode_eq (scheme : Pbes2) : scheme.encode = scheme.identifier.encode := by
  simp [encode, AlgorithmIdentifier.encode, identifier, contents, Derivation.encode_eq,
    Element.encode, AesCbc.identifier, Der.sequence, Der.octetString]

/-- The identifiers inside of a scheme that is not too long. -/
theorem readable_identifiers {scheme : Pbes2} (h : scheme.contents.length ≤ maxLength) :
    scheme.derivation.identifier.Readable ∧ (scheme.cipher.identifier scheme.iv).Readable := by
  have hderivation : Oid.minLength ≤ scheme.derivation.oid.encoding.length := by
    cases scheme.derivation with
    | pbkdf2 _ => exact (by decide : Oid.minLength ≤ Pbkdf2.oid.encoding.length)
    | scrypt _ => exact (by decide : Oid.minLength ≤ Scrypt.oid.encoding.length)
  have hcipher : Oid.minLength ≤ scheme.cipher.oid.encoding.length := by
    cases scheme.cipher <;> decide
  have := length_lt_length_element .sequence scheme.derivation.identifier.contents
  have := length_lt_length_element .sequence (scheme.cipher.identifier scheme.iv).contents
  rw [← AlgorithmIdentifier.encode_eq] at *
  rw [contents, List.length_append] at h
  exact ⟨⟨hderivation, by omega⟩, ⟨hcipher, by omega⟩⟩

theorem reads_readFields : Reads readFields fun scheme front _ => ∃ derivation cipher,
    derivation.Readable ∧ cipher.Readable ∧ front = derivation.encode ++ cipher.encode ∧
      Derivation.ofIdentifier derivation = .ok scheme.derivation ∧
      AesCbc.ofIdentifier cipher = .ok (scheme.cipher, scheme.iv) := by
  refine (AlgorithmIdentifier.reads_read.bind fun derivation =>
    AlgorithmIdentifier.reads_read.bind fun cipher =>
    (reads_lift (Derivation.ofIdentifier derivation)).bind fun derivation =>
    (reads_lift (AesCbc.ofIdentifier cipher)).bind fun cipher =>
    reads_pure (Pbes2.mk derivation cipher.1 cipher.2)).congr fun scheme front rest => ?_
  constructor
  · intro h
    obtain ⟨derivation, _, _, rfl, ⟨hderivation, rfl⟩, cipher, _, _, rfl, ⟨hcipher, rfl⟩, _, _, _,
      rfl, ⟨hderivation', rfl⟩, _, _, _, rfl, ⟨hcipher', rfl⟩, rfl, rfl⟩ := h
    exact ⟨derivation, cipher, hderivation, hcipher, by simp only [List.append_nil], hderivation',
      hcipher'⟩
  · intro h
    obtain ⟨derivation, cipher, hderivation, hcipher, rfl, hderivation', hcipher'⟩ := h
    exact ⟨derivation, _, _, rfl, ⟨hderivation, rfl⟩, cipher, _, [], (List.append_nil _).symm,
      ⟨hcipher, rfl⟩, scheme.derivation, [], [], rfl, ⟨hderivation', rfl⟩,
      (scheme.cipher, scheme.iv), [], [], rfl, ⟨hcipher', rfl⟩, rfl, rfl⟩

theorem ofSequence_contents {scheme : Pbes2} (h : scheme.Readable)
    (hmax : scheme.contents.length ≤ maxLength) :
    ofSequence readFields ⟨.sequence, scheme.contents⟩ = .ok scheme := by
  obtain ⟨hderivation, hcipher⟩ := readable_identifiers hmax
  have hparameters : scheme.derivation.contents.length ≤ maxLength := by
    have hlt : scheme.derivation.contents.length < scheme.derivation.identifier.contents.length :=
      AlgorithmIdentifier.length_parameters_lt (e := ⟨.sequence, scheme.derivation.contents⟩) rfl
    exact Nat.le_of_lt (Nat.lt_of_lt_of_le hlt hderivation.length_le)
  exact reads_readFields.ofSequence_eq_ok_iff.2 ⟨rfl, hmax, scheme.derivation.identifier,
    scheme.cipher.identifier scheme.iv, hderivation, hcipher, rfl,
    Derivation.ofIdentifier_identifier h.derivation hparameters,
    AesCbc.ofIdentifier_identifier scheme.cipher h.length_iv⟩

theorem eq_contents_of_ofSequence {e : Element} {scheme : Pbes2}
    (hprf : scheme.derivation.NamesPrf) (h : ofSequence readFields e = .ok scheme) :
    e = ⟨.sequence, scheme.contents⟩ ∧ scheme.Readable := by
  obtain ⟨tag, contents⟩ := e
  obtain ⟨rfl, -, _, _, -, -, hcontents, hderivation, hcipher⟩ :=
    reads_readFields.ofSequence_eq_ok_iff.1 h
  obtain ⟨rfl, hreadable⟩ := Derivation.eq_identifier_of_ofIdentifier hprf hderivation
  obtain ⟨rfl, hiv⟩ := AesCbc.eq_identifier_of_ofIdentifier hcipher
  exact ⟨congrArg _ hcontents, hreadable, hiv⟩

end Pbes2

theorem Scheme.reads_read : Reads Scheme.read fun scheme front _ => ∃ algorithm,
    algorithm.Readable ∧ front = algorithm.encode ∧ ofIdentifier algorithm = .ok scheme := by
  refine (AlgorithmIdentifier.reads_read.bind fun algorithm =>
    reads_lift (ofIdentifier algorithm)).congr fun scheme front rest => ?_
  constructor
  · intro h
    obtain ⟨algorithm, _, _, rfl, ⟨hreadable, rfl⟩, hscheme, rfl⟩ := h
    exact ⟨algorithm, hreadable, List.append_nil _, hscheme⟩
  · intro h
    obtain ⟨algorithm, hreadable, rfl, hscheme⟩ := h
    exact ⟨algorithm, _, [], (List.append_nil _).symm, ⟨hreadable, rfl⟩, hscheme, rfl⟩

theorem Scheme.ofIdentifier_identifier {scheme : Pbes2} (h : scheme.Readable)
    (hmax : scheme.contents.length ≤ maxLength) :
    ofIdentifier scheme.identifier = .ok (.pbes2 scheme) := by
  have hread := Pbes2.ofSequence_contents h hmax
  simp only [ofIdentifier, Pbes2.identifier, hread, if_true]
  rfl

theorem Scheme.eq_identifier_of_ofIdentifier {algorithm : AlgorithmIdentifier} {scheme : Pbes2}
    (hprf : scheme.derivation.NamesPrf) (h : ofIdentifier algorithm = .ok (.pbes2 scheme)) :
    algorithm = scheme.identifier ∧ scheme.Readable := by
  obtain ⟨oid, parameters⟩ := algorithm
  unfold ofIdentifier at h
  split at h
  · rename_i hoid
    split at h
    · cases h
    · rename_i e he
      simp only at hoid he
      obtain ⟨_, hread, h⟩ := Except.bind_eq_ok_iff.1 h
      cases h
      obtain ⟨rfl, hreadable⟩ := Pbes2.eq_contents_of_ofSequence hprf hread
      rw [he, hoid]
      exact ⟨rfl, hreadable⟩
  · split at h
    · cases h
    · split at h
      · cases h
      · obtain ⟨_, -, h⟩ := Except.bind_eq_ok_iff.1 h
        cases h

end SealedKey.Pkcs5

namespace SealedKey.Pkcs8.EncryptedKeyInfo

open Der Der.Reader

theorem encode_eq (scheme : Pkcs5.Pbes2) (encrypted : Bytes) : encode scheme encrypted =
    element .sequence (scheme.identifier.encode ++ octetString encrypted) := by
  simp [encode, Der.sequence, Pkcs5.Pbes2.encode_eq]

theorem reads_readFields : Reads readFields fun info front _ => ∃ algorithm,
    algorithm.Readable ∧ Pkcs5.Scheme.ofIdentifier algorithm = .ok info.scheme ∧
      info.encrypted.length ≤ maxLength ∧
      front = algorithm.encode ++ octetString info.encrypted := by
  refine (Pkcs5.Scheme.reads_read.bind fun scheme => reads_octets.bind fun encrypted =>
    reads_pure (EncryptedKeyInfo.mk scheme encrypted)).congr fun info front rest => ?_
  constructor
  · intro h
    obtain ⟨scheme, _, _, rfl, ⟨algorithm, hreadable, rfl, hscheme⟩, encrypted, _, _, rfl,
      ⟨hmax, rfl⟩, rfl, rfl⟩ := h
    rw [List.append_nil]
    exact ⟨algorithm, hreadable, hscheme, hmax, rfl⟩
  · intro h
    obtain ⟨algorithm, hreadable, hscheme, hmax, rfl⟩ := h
    exact ⟨info.scheme, _, _, rfl, ⟨algorithm, hreadable, rfl, hscheme⟩, info.encrypted, _, [],
      (List.append_nil _).symm, ⟨hmax, rfl⟩, rfl, rfl⟩

/-- An encrypted document of a scheme of the second kind is the DER form of what it says, if it
names the function of its derivation. -/
theorem eq_encode_of_ofDer {document encrypted : Bytes} {scheme : Pkcs5.Pbes2}
    (hprf : scheme.derivation.NamesPrf) (h : ofDer document = .ok ⟨.pbes2 scheme, encrypted⟩) :
    document = encode scheme encrypted ∧ scheme.Readable := by
  obtain ⟨-, _, -, rfl, algorithm, -, hscheme, -, rfl⟩ :=
    (Reads.sequence reads_readFields).run_eq_ok_iff.1 h
  obtain ⟨rfl, hreadable⟩ := Pkcs5.Scheme.eq_identifier_of_ofIdentifier hprf hscheme
  exact ⟨(encode_eq scheme encrypted).symm, hreadable⟩

/-- An encrypted document is read back, if it is not too long. -/
theorem ofDer_encode {scheme : Pkcs5.Pbes2} {encrypted : Bytes} (h : scheme.Readable)
    (hlength : (encode scheme encrypted).length ≤ maxLength) :
    ofDer (encode scheme encrypted) = .ok ⟨.pbes2 scheme, encrypted⟩ := by
  rw [encode_eq] at hlength ⊢
  have hmax := Nat.le_trans (Nat.le_of_lt (length_lt_length_element .sequence
    (scheme.identifier.encode ++ octetString encrypted))) hlength
  have hencrypted := length_lt_length_element .octetString encrypted
  have hidentifier := length_lt_length_element .sequence scheme.identifier.contents
  have hcontents : scheme.contents.length < scheme.identifier.contents.length :=
    AlgorithmIdentifier.length_parameters_lt (e := ⟨.sequence, scheme.contents⟩) rfl
  have hoid : Oid.minLength ≤ Pkcs5.Pbes2.oid.encoding.length := by decide
  rw [← AlgorithmIdentifier.encode_eq] at hidentifier
  have hparts := hmax
  rw [List.length_append, octetString] at hparts
  have hcipher : encrypted.length ≤ maxLength := by omega
  exact (Reads.sequence reads_readFields).run_eq_ok_iff.2 ⟨hlength, _, hmax, rfl, scheme.identifier,
    ⟨hoid, by omega⟩, Pkcs5.Scheme.ofIdentifier_identifier h (by omega), hcipher, rfl⟩

end SealedKey.Pkcs8.EncryptedKeyInfo
