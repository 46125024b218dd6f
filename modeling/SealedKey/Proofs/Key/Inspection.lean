import SealedKey.Proofs.Key.Passphrase
import SealedKey.Proofs.Key.Stages

/-!
# What is said about encrypted texts

`SchemeDetails.ofPem` describes how a text is encrypted, without a passphrase.

* A text that was just written is described by the protection that it was written with, and by
  nothing else (`SchemeDetails.ofPem_of_encrypt`).
* A text that some passphrase opens is the DER form of a scheme of the second kind and of what this
  scheme encrypts, and the details name this scheme (`PrivateKey.opens_of_ofEncryptedPem`).
-/

namespace SealedKey

open Pkcs8 (EncryptedKeyInfo)

/-! ## Texts that were just written -/

/-- What is said about a text that was written with this protection. -/
def Protection.details : Protection → SchemeDetails
  | pbkdf2 iterations => ⟨"pbkdf2", some iterations.toNat, "aes-256-cbc"⟩
  | scrypt => ⟨"scrypt", none, "aes-256-cbc"⟩

theorem Protection.ofScheme_scheme (protection : Protection) (salt iv : Bytes) :
    SchemeDetails.ofScheme (.pbes2 (protection.scheme salt iv)) = protection.details := by
  cases protection <;> rfl

namespace SchemeDetails

variable {text : String}

theorem ofPem_of_info {info : EncryptedKeyInfo} (h : EncryptedKeyInfo.ofPem text = .ok info) :
    ofPem text = .ok (.ofScheme info.scheme) := by
  rw [ofPem, h]
  rfl

/-- The details of a text that was just written are those of its protection. -/
theorem ofPem_of_encrypt {key : PrivateKey} {passphrase : Passphrase} {protection : Protection}
    {supply rest : Bytes} (h : key.encrypt passphrase protection supply = some (.ok text, rest)) :
    ofPem text = .ok protection.details := by
  obtain ⟨salt, iv, _, _, -, -, -, -, -, hinfo⟩ := PrivateKey.exists_scheme_of_encrypt h
  rw [ofPem_of_info hinfo, protection.ofScheme_scheme]

/-! ## Texts that a passphrase opens -/

/-- The details name the key derivation and the cipher of a scheme. -/
structure Names (details : SchemeDetails) (scheme : Pkcs5.Pbes2) : Prop where
  derivation :
    (∃ parameters, scheme.derivation = .pbkdf2 parameters ∧ details.kdf = "pbkdf2" ∧
      details.iterations = some parameters.iterations) ∨
    ∃ parameters, scheme.derivation = .scrypt parameters ∧ details.kdf = "scrypt" ∧
      details.iterations = none
  cipher :
    scheme.cipher = .aes128 ∧ details.cipher = "aes-128-cbc" ∨
    scheme.cipher = .aes192 ∧ details.cipher = "aes-192-cbc" ∨
    scheme.cipher = .aes256 ∧ details.cipher = "aes-256-cbc"

theorem names_ofScheme (scheme : Pkcs5.Pbes2) : (ofScheme (.pbes2 scheme)).Names scheme := by
  obtain ⟨derivation, cipher, iv⟩ := scheme
  constructor
  · cases derivation with
    | pbkdf2 parameters => exact .inl ⟨parameters, rfl, rfl, rfl⟩
    | scrypt parameters => exact .inr ⟨parameters, rfl, rfl, rfl⟩
  · have hcipher (derivation : Pkcs5.Derivation) :
        (ofScheme (.pbes2 ⟨derivation, cipher, iv⟩)).cipher = cipher.name := by
      cases derivation <;> rfl
    rw [hcipher]
    cases cipher with
    | aes128 => exact .inl ⟨rfl, rfl⟩
    | aes192 => exact .inr (.inl ⟨rfl, rfl⟩)
    | aes256 => exact .inr (.inr ⟨rfl, rfl⟩)

end SchemeDetails

/-- A derivation that gives keys names its function: the one that need not be named is not
supported. -/
theorem Pkcs5.Derivation.namesPrf_of_key {derivation : Derivation} {passphrase key : Bytes}
    {size : Nat} (h : derivation.key passphrase size = .ok key) : derivation.NamesPrf := by
  cases derivation with
  | scrypt parameters => trivial
  | pbkdf2 parameters =>
    intro hstandard
    simp only [Derivation.key] at h
    split at h
    · cases h
    · obtain ⟨keyed, hkeyed, -⟩ := Except.bind_eq_ok_iff.1 h
      rw [hstandard] at hkeyed
      cases hkeyed

theorem Pkcs8.EncryptedKeyInfo.ofPem_eq_ok_iff {text : String} {info : EncryptedKeyInfo} :
    ofPem text = .ok info ↔ ∃ contents,
      Pem.privateKeyBlock text = .ok ⟨Label.encryptedPrivateKey, contents⟩ ∧
        ofDer contents = .ok info := by
  constructor
  · intro h
    obtain ⟨⟨label, contents⟩, hblock, h⟩ := Except.bind_eq_ok_iff.1 h
    split at h
    · rename_i hlabel
      obtain rfl : label = Label.encryptedPrivateKey := hlabel
      exact ⟨contents, hblock, Except.mapError_eq_ok_iff.1 h⟩
    · cases h
  · rintro ⟨contents, hblock, hinfo⟩
    exact ofPem_of_privateKeyBlock hblock rfl hinfo

/-- A passphrase opens a text with a scheme: the text is the DER form of the scheme and of bytes
that the scheme decrypts to the document of a key. -/
def Passphrase.Opens (passphrase : Passphrase) (text : String) (scheme : Pkcs5.Pbes2)
    (key : PrivateKey) : Prop :=
  ∃ encrypted document,
    Pem.privateKeyBlock text =
      .ok ⟨Label.encryptedPrivateKey, EncryptedKeyInfo.encode scheme encrypted⟩ ∧
    scheme.decrypt passphrase.bytes encrypted = .ok document ∧
    PrivateKey.ofPkcs8 document = .ok key

/-- A text from which a key is read is opened with a scheme of the second kind, and this is the
scheme that the details name. -/
theorem PrivateKey.opens_of_ofEncryptedPem {text : String} {passphrase : Passphrase}
    {key : PrivateKey} (h : ofEncryptedPem text passphrase = .ok key) :
    ∃ scheme details, passphrase.Opens text scheme key ∧
      SchemeDetails.ofPem text = .ok details ∧ details.Names scheme := by
  obtain ⟨⟨scheme, encrypted⟩, document, hinfo, hdecrypt, hkey⟩ := ofPkcs8_of_ofEncryptedPem h
  obtain ⟨contents, hblock, hread⟩ := EncryptedKeyInfo.ofPem_eq_ok_iff.1 hinfo
  obtain ⟨hdecrypt, -⟩ := EncryptedKeyInfo.decrypt_eq_ok_iff.1 hdecrypt
  cases scheme with
  | pbes1 scheme => cases hdecrypt
  | pbes2 scheme =>
    obtain ⟨derived, hderived, -⟩ := Pkcs5.Pbes2.decrypt_eq_ok_iff.1 hdecrypt
    obtain ⟨rfl, -⟩ :=
      EncryptedKeyInfo.eq_encode_of_ofDer (Pkcs5.Derivation.namesPrf_of_key hderived) hread
    exact ⟨scheme, _, ⟨encrypted, document, hblock, hdecrypt, hkey⟩,
      SchemeDetails.ofPem_of_info hinfo, SchemeDetails.names_ofScheme scheme⟩

end SealedKey
