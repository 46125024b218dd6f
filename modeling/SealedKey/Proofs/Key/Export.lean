import SealedKey.Modular.Lemmas
import SealedKey.Proofs.Key.Container
import SealedKey.Proofs.Key.RoundTrip
import SealedKey.Proofs.Key.Untyped

/-!
# Keys that can be written

Which keys have a PKCS#8 document, and which have encrypted texts.

* Only an RSA key can lack a document (`PrivateKey.Exportable`).  The factors of a key need not be
  prime, and what is written includes an inverse of the second one modulo the first; it is not asked
  for when a key is read.  `Modular.exists_inverse?_iff` says when there is one.  Also the numbers
  that are computed again can be longer than those that were read.
* Encryption makes a document longer, and by how much depends on its length and the protection only
  (`Protection.encryptedLength`).  So it depends on nothing else whether a key can be encrypted
  (`PrivateKey.exists_encrypt_iff`).
-/

namespace SealedKey

open Der (maxLength)

/-! ## RSA keys -/

namespace Rsa.Key

variable {key : Key}

/-- The document of a key exists exactly if its second factor has an inverse modulo the first. -/
theorem exists_document?_iff :
    (∃ document, key.document? = some document) ↔ key.prime₂.Coprime key.prime₁ := by
  rw [← Modular.exists_inverse?_iff]
  unfold document?
  simp only [Option.bind_eq_bind, Option.bind_eq_some_iff]
  constructor
  · rintro ⟨_, coefficient, hcoefficient, -⟩
    exact ⟨coefficient, hcoefficient⟩
  · rintro ⟨coefficient, hcoefficient⟩
    exact ⟨_, coefficient, hcoefficient, rfl⟩

/-- A key whose factors are coprime and whose document is not too long. -/
structure Exportable (key : Key) : Prop where
  coprime : key.prime₂.Coprime key.prime₁
  short : ∀ document, key.document? = some document →
    (Pkcs8.wrapping Pkcs8.rsaAlgorithm document.encode).length ≤ maxLength

end Rsa.Key

/-! ## Documents -/

namespace PrivateKey

/-- A key that can be written. -/
def Exportable : PrivateKey → Prop
  | rsa key => key.Exportable
  | _ => True

/-- A key without a document fails with an error of encoding. -/
theorem toPkcs8_of_info_eq_error {key : PrivateKey} (hkey : key.IsTyped) {cause : KeyError}
    (h : key.info = .error cause) : key.toPkcs8 = .error (.encoding cause.message) := by
  rw [toPkcs8_of_isTyped hkey, canonicalDocument, h]
  rfl

/-- So does a key whose document is too long. -/
theorem toPkcs8_of_lt_length {key : PrivateKey} (hkey : key.IsTyped)
    {info : Pkcs8.PrivateKeyInfo} (h : key.info = .ok info)
    (hlong : maxLength < info.encode.length) :
    key.toPkcs8 = .error (.encoding (KeyError.der .overflow).message) := by
  have hdocument : Der.document info.encode = .error .overflow := if_neg (Nat.not_le.2 hlong)
  rw [toPkcs8_of_isTyped hkey, canonicalDocument, h, Except.bind_ok, hdocument]
  rfl

theorem info_of_not_coprime {key : Rsa.Key} (h : ¬ key.prime₂.Coprime key.prime₁) :
    (rsa key).info = .error .malformed := by
  rw [PrivateKey.info]
  split
  · rename_i document hdocument
    exact absurd (Rsa.Key.exists_document?_iff.1 ⟨document, hdocument⟩) h
  · rfl

theorem info_of_document? {key : Rsa.Key} {document : Rsa.Document}
    (h : key.document? = some document) :
    (rsa key).info = .ok ⟨Pkcs8.rsaAlgorithm, document.encode, none⟩ := by
  rw [PrivateKey.info, h]
  rfl

/-- A key that can be written has a document. -/
theorem Exportable.exists_toPkcs8 {key : PrivateKey} (h : key.Exportable) :
    ∃ document, key.toPkcs8 = .ok document := by
  cases key with
  | rsa key =>
    obtain ⟨document, hdocument⟩ := Rsa.Key.exists_document?_iff.2 h.coprime
    have htyped : (rsa key).IsTyped := trivial
    exact ⟨_, (toPkcs8_eq_ok_iff htyped).2
      ⟨_, info_of_document? hdocument, h.short document hdocument, rfl⟩⟩
  | ec key =>
    obtain ⟨document, hdocument, -⟩ := exists_toPkcs8_ec key
    exact ⟨document, hdocument⟩
  | ed25519 key =>
    obtain ⟨document, hdocument, -⟩ := exists_toPkcs8_ed25519 key
    exact ⟨document, hdocument⟩
  | untyped key => exact ⟨key.document, rfl⟩

/-- A key that cannot be written is an RSA key, and fails with an error of encoding. -/
theorem exists_toPkcs8_eq_error {key : PrivateKey} (h : ¬ key.Exportable) :
    ∃ cause : KeyError, key.toPkcs8 = .error (.encoding cause.message) := by
  cases key with
  | rsa key =>
    have htyped : (rsa key).IsTyped := trivial
    by_cases hcoprime : key.prime₂.Coprime key.prime₁
    · obtain ⟨document, hdocument, hlong⟩ : ∃ document, key.document? = some document ∧
          ¬ (Pkcs8.wrapping Pkcs8.rsaAlgorithm document.encode).length ≤ maxLength := by
        by_contra hshort
        refine h ⟨hcoprime, fun document hdocument => ?_⟩
        by_contra hlong
        exact hshort ⟨document, hdocument, hlong⟩
      exact ⟨_, toPkcs8_of_lt_length htyped (info_of_document? hdocument) (Nat.lt_of_not_le hlong)⟩
    · exact ⟨_, toPkcs8_of_info_eq_error htyped (info_of_not_coprime hcoprime)⟩
  | ec key => exact absurd trivial h
  | ed25519 key => exact absurd trivial h
  | untyped key => exact absurd trivial h

theorem exists_toPkcs8_iff {key : PrivateKey} :
    (∃ document, key.toPkcs8 = .ok document) ↔ key.Exportable := by
  refine ⟨fun hsome => ?_, Exportable.exists_toPkcs8⟩
  obtain ⟨document, hdocument⟩ := hsome
  by_contra hkey
  obtain ⟨cause, hcause⟩ := exists_toPkcs8_eq_error hkey
  rw [hdocument] at hcause
  contradiction

theorem exists_toPem_iff {key : PrivateKey} :
    (∃ text, key.toPem = .ok text) ↔ key.Exportable := by
  rw [← exists_toPkcs8_iff]
  constructor
  · intro h
    obtain ⟨text, htext⟩ := h
    obtain ⟨document, hdocument, -⟩ := toPem_eq_ok_iff.1 htext
    exact ⟨document, hdocument⟩
  · intro h
    obtain ⟨document, hdocument⟩ := h
    exact ⟨_, toPem_of_toPkcs8 hdocument⟩

end PrivateKey

/-! ## Encryption -/

namespace Protection

/-- The number of bytes of the encrypted document that is made of so many bytes. -/
def encryptedLength (protection : Protection) (length : Nat) : Nat :=
  (Pkcs8.EncryptedKeyInfo.encode
    (protection.scheme (List.replicate 16 0) (List.replicate 16 0))
    (List.replicate (length + Cipher.paddingSize length) 0)).length

theorem length_sequence_congr {fields fields' : List Bytes}
    (h : fields.flatten.length = fields'.flatten.length) :
    (Der.sequence fields).length = (Der.sequence fields').length := by
  rw [Der.sequence, Der.sequence, Der.length_element, Der.length_element, h]

theorem length_octetString_congr {bytes bytes' : Bytes} (h : bytes.length = bytes'.length) :
    (Der.octetString bytes).length = (Der.octetString bytes').length := by
  rw [Der.octetString, Der.octetString, Der.length_element, Der.length_element, h]

theorem length_encode_derivation_congr (protection : Protection) {salt salt' : Bytes}
    (h : salt.length = salt'.length) :
    (protection.derivation salt).encode.length = (protection.derivation salt').encode.length := by
  have hsalt := length_octetString_congr h
  have hparameters : (protection.derivation salt).parameterBytes.length =
      (protection.derivation salt').parameterBytes.length := by
    cases protection with
    | pbkdf2 iterations => exact length_sequence_congr (by simp [hsalt])
    | scrypt => exact length_sequence_congr (by simp [hsalt])
  have hoid : (protection.derivation salt).oid = (protection.derivation salt').oid := by
    cases protection <;> rfl
  exact length_sequence_congr (by simp [hparameters, hoid])

theorem length_encode_scheme_congr (protection : Protection) {salt salt' iv iv' : Bytes}
    (hsalt : salt.length = salt'.length) (hiv : iv.length = iv'.length) :
    (protection.scheme salt iv).encode.length = (protection.scheme salt' iv').encode.length := by
  have hderivation := protection.length_encode_derivation_congr hsalt
  have hoctets := length_octetString_congr hiv
  have hcipher : (Der.sequence [Der.oid Pkcs5.AesCbc.aes256.oid, Der.octetString iv]).length =
      (Der.sequence [Der.oid Pkcs5.AesCbc.aes256.oid, Der.octetString iv']).length :=
    length_sequence_congr (by simp [hoctets])
  have hparameters : (Der.sequence [(protection.derivation salt).encode,
        Der.sequence [Der.oid Pkcs5.AesCbc.aes256.oid, Der.octetString iv]]).length =
      (Der.sequence [(protection.derivation salt').encode,
        Der.sequence [Der.oid Pkcs5.AesCbc.aes256.oid, Der.octetString iv']]).length :=
    length_sequence_congr (by simp [hderivation, hcipher])
  exact length_sequence_congr (by simp [scheme, hparameters])

/-- The length of an encrypted document does not depend on the bytes that were drawn, nor on those
that were encrypted. -/
theorem length_encode_eq (protection : Protection) {salt iv encrypted : Bytes} {length : Nat}
    (hsalt : salt.length = 16) (hiv : iv.length = 16)
    (hencrypted : encrypted.length = length + Cipher.paddingSize length) :
    (Pkcs8.EncryptedKeyInfo.encode (protection.scheme salt iv) encrypted).length =
      protection.encryptedLength length := by
  have hzeros (n : Nat) : (List.replicate n 0 : Bytes).length = n := List.length_replicate
  have hscheme := protection.length_encode_scheme_congr (hsalt.trans (hzeros 16).symm)
    (hiv.trans (hzeros 16).symm)
  have hcontents := length_octetString_congr (hencrypted.trans (hzeros _).symm)
  exact length_sequence_congr (by simp [hscheme, hcontents])

theorem lt_length_encode_encrypted (scheme : Pkcs5.Pbes2) (encrypted : Bytes) :
    encrypted.length + 12 < (Pkcs8.EncryptedKeyInfo.encode scheme encrypted).length := by
  have hoid : (Der.oid Pkcs5.Pbes2.oid).length = 11 := by decide
  have hscheme : 11 < scheme.encode.length := by
    refine Nat.lt_of_le_of_lt ?_ (Der.length_lt_length_element .sequence _)
    simp [hoid]
  have hencrypted := Der.length_lt_length_element .octetString encrypted
  refine Nat.lt_trans ?_ (Der.length_lt_length_element .sequence _)
  simp [Der.octetString]
  omega

/-- Encryption makes every document longer. -/
theorem lt_encryptedLength (protection : Protection) (length : Nat) :
    length + 13 < protection.encryptedLength length := by
  have hpadding := Cipher.paddingSize_pos length
  have hencode := lt_length_encode_encrypted
    (protection.scheme (List.replicate 16 0) (List.replicate 16 0))
    (List.replicate (length + Cipher.paddingSize length) 0)
  rw [List.length_replicate] at hencode
  rw [encryptedLength]
  omega

end Protection

namespace PrivateKey

/-- A key that can be written, and whose encrypted document is not too long. -/
structure Encryptable (key : PrivateKey) (protection : Protection) : Prop where
  exportable : key.Exportable
  short : ∀ document, key.essentialDocument = .ok document →
    protection.encryptedLength document.length ≤ maxLength

theorem exists_essentialDocument_iff {key : PrivateKey} :
    (∃ document, key.essentialDocument = .ok document) ↔ key.Exportable := by
  obtain hkey | ⟨key, rfl⟩ := key.isTyped_or_untyped
  · rw [essentialDocument_eq hkey]
    exact exists_toPkcs8_iff
  · exact iff_of_true ⟨_, essentialDocument_untyped key⟩ trivial

/-- Whether a document has an encrypted text depends on its length only. -/
theorem exists_encryptedPem_iff {protection : Protection} (hadmitted : protection.Admitted)
    {salt iv : Bytes} (hsalt : salt.length = 16) (hiv : iv.length = 16) (passphrase : Passphrase)
    (document : Bytes) :
    (∃ text, encryptedPem protection salt iv passphrase document = .ok text) ↔
      protection.encryptedLength document.length ≤ maxLength := by
  obtain ⟨encrypted, hencrypted, hlength⟩ :=
    protection.exists_encrypt_scheme salt iv passphrase.bytes document
  rw [← protection.length_encode_eq hsalt hiv hlength]
  constructor
  · rintro ⟨text, htext⟩
    obtain ⟨-, encrypted', hencrypted', hshort, -⟩ := encryptedPem_eq_ok_iff.1 htext
    obtain rfl : encrypted = encrypted' := Except.ok.inj (hencrypted.symm.trans hencrypted')
    exact hshort
  · intro hshort
    exact ⟨_, encryptedPem_eq_ok_iff.2 ⟨hadmitted, encrypted, hencrypted, hshort, rfl⟩⟩

/-- The keys that can be encrypted, whatever the passphrase and the random bytes are. -/
theorem exists_encrypt_iff {key : PrivateKey} {protection : Protection}
    (hadmitted : protection.Admitted) {supply : Bytes} (hsupply : 32 ≤ supply.length)
    (passphrase : Passphrase) :
    (∃ text rest, key.encrypt passphrase protection supply = some (.ok text, rest)) ↔
      key.Encryptable protection := by
  constructor
  · rintro ⟨text, rest, h⟩
    obtain ⟨document, salt, iv, hdocument, hsalt, hiv, -, htext⟩ := encrypt_eq_ok_iff.1 h
    refine ⟨exists_essentialDocument_iff.1 ⟨document, hdocument⟩, fun document' hdocument' => ?_⟩
    obtain rfl : document = document' := Except.ok.inj (hdocument.symm.trans hdocument')
    exact (exists_encryptedPem_iff hadmitted hsalt hiv passphrase document).1 ⟨text, htext⟩
  · rintro ⟨hexport, hshort⟩
    obtain ⟨document, hdocument⟩ := exists_essentialDocument_iff.2 hexport
    obtain ⟨salt, iv, rest, rfl, hsalt, hiv⟩ := exists_salt_iv hsupply
    obtain ⟨text, htext⟩ := (exists_encryptedPem_iff hadmitted hsalt hiv passphrase document).2
      (hshort document hdocument)
    exact ⟨text, rest, encrypt_eq_ok_iff.2 ⟨document, salt, iv, hdocument, hsalt, hiv, rfl, htext⟩⟩

/-! ## Keys that were read and cannot be written -/

/-- The document of a key whose factors are both 3. -/
def rsaDocument9 : Rsa.Document where
  modulus := 9
  publicExponent := 3
  privateExponent := 1
  prime₁ := 3
  prime₂ := 3
  exponent₁ := 1
  exponent₂ := 1
  coefficient := 0
  multiPrime := false

/-- A key with equal factors is read, but it cannot be written. -/
theorem toPkcs8_of_equal_factors : ∃ key,
    ofPkcs8 (Pkcs8.wrapping Pkcs8.rsaAlgorithm rsaDocument9.encode) = .ok key ∧
      key.toPkcs8 = .error (.encoding "PKCS#8 cryptographic key data malformed") ∧
      key.toPem = .error (.encoding "PKCS#8 cryptographic key data malformed") := by
  have hvalid : Rsa.Valid 9 3 1 3 3 := by decide
  have hkey : Rsa.Key.ofDocument? rsaDocument9 = some ⟨9, 3, 1, 3, 3, hvalid⟩ :=
    Rsa.Key.ofDocument?_of_valid rfl hvalid
  have hread := Rsa.Key.ofPkcs1_of_ofDocument? rfl hkey (by decide)
  have htyped : (rsa ⟨9, 3, 1, 3, 3, hvalid⟩).IsTyped := trivial
  have hequal : ¬ Nat.Coprime 3 3 := by decide
  have hnone := toPkcs8_of_info_eq_error htyped (info_of_not_coprime hequal)
  refine ⟨_, ?_, hnone, toPem_of_toPkcs8_eq_error hnone⟩
  rw [ofPkcs8_wrapping_rsa (by decide), ofPkcs1_of_rsa hread]

/-- A key whose first factor is 3, and whose private exponent is about as long as the other one. -/
def keyOfThree (m : Nat) (h : m % 6 = 4) : Rsa.Key where
  modulus := 3 * (m + 1)
  publicExponent := 3
  privateExponent := (2 * m + 1) / 3
  prime₁ := 3
  prime₂ := m + 1
  valid := by
    have hexponent : 3 * ((2 * m + 1) / 3) = 2 * m + 1 := by omega
    constructor
    · omega
    · omega
    · decide
    · decide
    · decide
    · decide
    · omega
    · rfl
    · rw [hexponent]
      omega
    · rw [hexponent, Nat.add_sub_cancel, Nat.mul_comm, Nat.mul_add_mod]
      exact Nat.mod_eq_of_lt (by omega)

/-- A document of this key, with zeros for the numbers that are computed again. -/
def documentOfThree (m : Nat) : Rsa.Document where
  modulus := 3 * (m + 1)
  publicExponent := 3
  privateExponent := (2 * m + 1) / 3
  prime₁ := 3
  prime₂ := m + 1
  exponent₁ := 0
  exponent₂ := 0
  coefficient := 0
  multiPrime := false

section KeyOfThree

variable {m : Nat} (h : m % 6 = 4)

theorem ofDocument?_documentOfThree :
    Rsa.Key.ofDocument? (documentOfThree m) = some (keyOfThree m h) :=
  Rsa.Key.ofDocument?_of_valid rfl (keyOfThree m h).valid

theorem coprime_keyOfThree : (keyOfThree m h).prime₂.Coprime (keyOfThree m h).prime₁ := by
  have hthree : (m + 1) % 3 = 2 := by omega
  change Nat.gcd (m + 1) 3 = 1
  rw [Nat.gcd_comm, Nat.gcd_rec, hthree]
  rfl

theorem exponent₂_keyOfThree :
    (keyOfThree m h).privateExponent % ((keyOfThree m h).prime₂ - 1) = (2 * m + 1) / 3 := by
  change (2 * m + 1) / 3 % (m + 1 - 1) = (2 * m + 1) / 3
  rw [Nat.add_sub_cancel]
  exact Nat.mod_eq_of_lt (by omega)

end KeyOfThree

theorem pow_succ_mod (k : Nat) : 256 ^ (k + 1) % 6 = 4 := by
  induction k with
  | zero => rfl
  | succ k ih =>
    rw [Nat.pow_succ]
    omega

/-- Only three numbers of the document are long. -/
theorem length_documentOfThree_le {k : Nat} (hk : 3 * k + 200 ≤ maxLength) :
    (documentOfThree (256 ^ (k + 1))).encode.length ≤ 3 * k + 100 := by
  have hpow : 256 ^ (k + 2) = 256 * 256 ^ (k + 1) := by rw [Nat.pow_succ, Nat.mul_comm]
  have hpos : 0 < 256 ^ (k + 1) := Nat.pow_pos (by decide)
  have hinteger {n : Nat} (h : n < 256 ^ (k + 2)) : (Der.integer n).length ≤ k + 2 + 7 :=
    Der.length_integer_le h (by omega)
  generalize 256 ^ (k + 1) = m at hpow hpos ⊢
  rw [hpow] at hinteger
  have hmodulus := hinteger (n := 3 * (m + 1)) (by omega)
  have hexponent := hinteger (n := (2 * m + 1) / 3) (by omega)
  have hprime := hinteger (n := m + 1) (by omega)
  have hzero : (Der.integer 0).length = 3 := by decide
  have hthree : (Der.integer 3).length = 3 := by decide
  refine Nat.le_trans (Der.length_element_le .sequence (n := 3 * k + 90) ?_ (by omega)) (by omega)
  simp [documentOfThree, hzero, hthree]
  omega

/-- Four numbers are at least as long as the exponent modulo the second factor. -/
theorem lt_length_of_document? {k : Nat} {key : Rsa.Key} {document : Rsa.Document}
    (hprime₂ : 256 ^ k ≤ key.prime₂)
    (hexponent₂ : 256 ^ k ≤ key.privateExponent % (key.prime₂ - 1))
    (h : key.document? = some document) : 4 * k < document.encode.length := by
  have hmodulus : 256 ^ k ≤ key.modulus := by
    have hpos := Nat.lt_of_succ_lt key.valid.one_lt_prime₁
    rw [← key.valid.mul_eq_modulus]
    exact Nat.le_trans hprime₂ (Nat.le_mul_of_pos_left _ hpos)
  have hprivate := Nat.le_trans hexponent₂ (Nat.mod_le _ _)
  rw [Rsa.Key.document?, Option.bind_eq_bind, Option.bind_eq_some_iff] at h
  obtain ⟨coefficient, -, h⟩ := h
  cases h
  have := Der.lt_length_integer hmodulus
  have := Der.lt_length_integer hprivate
  have := Der.lt_length_integer hprime₂
  have := Der.lt_length_integer hexponent₂
  refine Nat.lt_trans ?_ (Der.length_lt_length_element .sequence _)
  simp
  omega

theorem ofPkcs8_documentOfThree {m : Nat} (h : m % 6 = 4)
    (hlength : (documentOfThree m).encode.length + 40 ≤ maxLength) :
    ofPkcs8 (Pkcs8.wrapping Pkcs8.rsaAlgorithm (documentOfThree m).encode) =
      .ok (rsa (keyOfThree m h)) := by
  have hread := Rsa.Key.ofPkcs1_of_ofDocument? rfl (ofDocument?_documentOfThree h) (by omega)
  have hlength : (documentOfThree m).encode.length + 30 ≤ maxLength := by omega
  have hwrapping := Nat.le_trans (Pkcs8.length_wrapping_rsa_le hlength) hlength
  rw [ofPkcs8_wrapping_rsa hwrapping, ofPkcs1_of_rsa hread]

theorem toPkcs8_keyOfThree {k m : Nat} (h : m % 6 = 4) (hk : maxLength < 4 * k)
    (hm : 2 * 256 ^ k ≤ m) :
    (rsa (keyOfThree m h)).toPkcs8 = .error (.encoding (KeyError.der .overflow).message) := by
  obtain ⟨document, hdocument⟩ := Rsa.Key.exists_document?_iff.2 (coprime_keyOfThree h)
  have hprime₂ : 256 ^ k ≤ (keyOfThree m h).prime₂ := (by omega : 256 ^ k ≤ m + 1)
  have hexponent₂ := exponent₂_keyOfThree h
  have hlength := lt_length_of_document? hprime₂ (by omega) hdocument
  have hwrapped := Pkcs8.length_lt_length_wrapping Pkcs8.rsaAlgorithm document.encode
  have htyped : (rsa (keyOfThree m h)).IsTyped := trivial
  exact toPkcs8_of_lt_length htyped (info_of_document? hdocument)
    (Nat.lt_trans (Nat.lt_trans hk hlength) hwrapped)

/-- A key with coprime factors is read, but its document is too long to be written. -/
theorem toPkcs8_of_long_exponent : ∃ document key, ofPkcs8 document = .ok (rsa key) ∧
    key.prime₂.Coprime key.prime₁ ∧
    (rsa key).toPkcs8 = .error (.encoding (KeyError.der .overflow).message) := by
  -- the length stays a variable, so that nothing computes with numbers of this size
  obtain ⟨k, hshort, hlong⟩ : ∃ k, 3 * k + 200 ≤ maxLength ∧ maxLength < 4 * k :=
    ⟨80000000, by decide, by decide⟩
  have hmod := pow_succ_mod k
  have hlength := length_documentOfThree_le hshort
  have hpow : 256 ^ (k + 1) = 256 * 256 ^ k := by rw [Nat.pow_succ, Nat.mul_comm]
  have hread := ofPkcs8_documentOfThree hmod (by omega)
  have hwrite := toPkcs8_keyOfThree hmod hlong (by omega)
  exact ⟨_, keyOfThree _ hmod, hread, coprime_keyOfThree hmod, hwrite⟩

/-! ### A key that is too long to be encrypted -/

/-- An X25519 key of so many zeros. -/
def longX25519Info (length : Nat) : Pkcs8.PrivateKeyInfo :=
  ⟨⟨x25519, none⟩, List.replicate length 0, none⟩

theorem length_encode_longX25519Info {length : Nat} (h : length + 22 ≤ maxLength) :
    length + 11 < (longX25519Info length).encode.length ∧
      (longX25519Info length).encode.length ≤ length + 22 := by
  have hversion : (Der.integer 0).length = 3 := by decide
  have halgorithm : (Pkcs8.AlgorithmIdentifier.mk x25519 none).encode.length = 7 := by decide
  have hzeros : (List.replicate length 0 : Bytes).length = length := List.length_replicate
  have hlower := Der.length_lt_length_element .octetString (List.replicate length 0)
  have hupper := Der.length_element_le .octetString (Nat.le_of_eq hzeros) (by omega)
  rw [hzeros] at hlower
  have hcontents : (Der.sequence [Der.integer 0, (Pkcs8.AlgorithmIdentifier.mk x25519 none).encode,
      Der.octetString (List.replicate length 0)]) = (longX25519Info length).encode := by
    simp [longX25519Info, Pkcs8.PrivateKeyInfo.encode, Pkcs8.PrivateKeyInfo.version, Der.sequence]
  rw [← hcontents]
  constructor
  · refine Nat.lt_of_le_of_lt ?_ (Der.length_lt_length_element .sequence _)
    simp [Der.octetString, hversion, halgorithm]
    omega
  · refine Der.length_element_le .sequence (n := length + 16) ?_ (by omega)
    simp [Der.octetString, hversion, halgorithm]
    omega

/-- A key that was read and can be written, but that is too long to be encrypted. -/
theorem not_encryptable_of_long_key : ∃ document key, ofPkcs8 document = .ok key ∧
    key.Exportable ∧ ∀ protection, ¬ key.Encryptable protection := by
  -- again the length stays a variable
  obtain ⟨length, hshort, hlong⟩ : ∃ length, length + 22 ≤ maxLength ∧ maxLength < length + 25 :=
    ⟨268435433, by decide, by decide⟩
  obtain ⟨hlower, hupper⟩ := length_encode_longX25519Info hshort
  have hread := Pkcs8.PrivateKeyInfo.ofDer_encode (Nat.le_trans hupper hshort)
    (by decide : Oid.minLength ≤ x25519.encoding.length)
  have hrsa : x25519 ≠ Pkcs8.rsaEncryption := by decide
  have hed25519 : x25519 ≠ Pkcs8.ed25519 := by decide
  have hec : x25519 ≠ Pkcs8.ecPublicKey := by decide
  have huntyped : (longX25519Info length).IsUntyped := ⟨hrsa, hed25519, fun h => absurd h hec⟩
  refine ⟨_, _, ofPkcs8_of_isUntyped hread huntyped, trivial, fun protection h => ?_⟩
  have hfits : protection.encryptedLength (longX25519Info length).encode.length ≤ maxLength :=
    h.short _ (essentialDocument_untyped _)
  have hencrypted := protection.lt_encryptedLength (longX25519Info length).encode.length
  omega

end PrivateKey

end SealedKey
