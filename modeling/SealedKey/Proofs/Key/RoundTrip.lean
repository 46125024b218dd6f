import SealedKey.Proofs.Key.Encryption

/-!
# Encryption and decryption of typed keys

A typed key comes back from its encrypted text, whatever the passphrase, the protection and the
supply of random bytes are.  `PrivateKey.Refusal` lists the only reasons for which there is no
encrypted text.

* `toPkcs8_eq_ok_iff` and `ofPkcs8_toPkcs8` are the two halves for the document inside.
* `encrypt_eq_ok_iff` gives the salt and the initialization vector of a text, and
  `decrypt_encryptedPem` undoes the encryption with them.
-/

namespace SealedKey

open Der (maxLength)

namespace PrivateKey

/-- Why a key has no encrypted text with a passphrase, a protection and a supply. -/
inductive Refusal (key : PrivateKey) (passphrase : Passphrase) (protection : Protection)
    (supply : Bytes) : Prop where
  /-- The key has no PKCS#8 document. -/
  | noDocument (cause : Error) (h : key.toPkcs8 = .error cause)
  /-- There are too many iterations. -/
  | notAdmitted (h : ¬ protection.Admitted)
  /-- There are not enough random bytes for the salt and the initialization vector. -/
  | exhausted (h : supply.length < 32)
  /-- The encrypted document is too long for a DER document. -/
  | tooLong (document salt iv rest encrypted : Bytes) (hdocument : key.toPkcs8 = .ok document)
    (hsalt : salt.length = 16) (hiv : iv.length = 16) (hsupply : supply = salt ++ (iv ++ rest))
    (hencrypted : (protection.scheme salt iv).encrypt passphrase.bytes document = .ok encrypted)
    (hlength : maxLength <
      (Pkcs8.EncryptedKeyInfo.encode (protection.scheme salt iv) encrypted).length)

/-- The document of a typed key is one sequence. -/
theorem readSequence_toPkcs8 {key : PrivateKey} (hkey : key.IsTyped) {document : Bytes}
    (h : key.toPkcs8 = .ok document) :
    Der.Reader.run Pkcs8.EncryptedKeyInfo.readSequence document = .ok () := by
  obtain ⟨info, hread⟩ := exists_ofDer_of_ofPkcs8 (ofPkcs8_toPkcs8 hkey h)
  exact Pkcs8.EncryptedKeyInfo.readSequence_of_ofDer hread

/-- A typed key is read back from its encrypted text. -/
theorem ofEncryptedPem_of_encrypt {key : PrivateKey} (hkey : key.IsTyped) {passphrase : Passphrase}
    {protection : Protection} {supply rest : Bytes} {text : String}
    (h : key.encrypt passphrase protection supply = some (.ok text, rest)) :
    ofEncryptedPem text passphrase = .ok key ∧ ∃ document, key.toPkcs8 = .ok document := by
  obtain ⟨document, salt, iv, hdocument, -, hiv, -, htext⟩ := encrypt_eq_ok_iff.1 h
  rw [essentialDocument_eq hkey] at hdocument
  have hdecrypt := decrypt_encryptedPem hiv htext (readSequence_toPkcs8 hkey hdocument)
  rw [ofPkcs8_toPkcs8 hkey hdocument] at hdecrypt
  exact ⟨hdecrypt, document, hdocument⟩

/-- A typed key has an encrypted text, unless there is a reason against it. -/
theorem refusal_of_encrypt_ne_ok {key : PrivateKey} (hkey : key.IsTyped) {passphrase : Passphrase}
    {protection : Protection} {supply : Bytes}
    (hnone : ∀ text rest, key.encrypt passphrase protection supply ≠ some (.ok text, rest)) :
    key.Refusal passphrase protection supply := by
  cases hdocument : key.toPkcs8 with
  | error cause => exact .noDocument cause hdocument
  | ok document =>
    by_cases hadmitted : protection.Admitted
    · by_cases hsupply : supply.length < 32
      · exact .exhausted hsupply
      · obtain ⟨salt, iv, rest, rfl, hsalt, hiv⟩ := exists_salt_iv (Nat.le_of_not_lt hsupply)
        obtain ⟨encrypted, hencrypted, -⟩ :=
          protection.exists_encrypt_scheme salt iv passphrase.bytes document
        by_cases hlength : (Pkcs8.EncryptedKeyInfo.encode (protection.scheme salt iv)
            encrypted).length ≤ maxLength
        · have htext := encryptedPem_eq_ok_iff.2 ⟨hadmitted, encrypted, hencrypted, hlength, rfl⟩
          rw [← essentialDocument_eq hkey] at hdocument
          exact absurd (encrypt_eq_ok_iff.2
            ⟨document, salt, iv, hdocument, hsalt, hiv, rfl, htext⟩) (hnone _ rest)
        · exact .tooLong document salt iv rest encrypted hdocument hsalt hiv rfl hencrypted
            (Nat.lt_of_not_le hlength)
    · exact .notAdmitted hadmitted

/-- Every reason against an encrypted text is one. -/
theorem Refusal.encrypt_ne_ok {key : PrivateKey} (hkey : key.IsTyped) {passphrase : Passphrase}
    {protection : Protection} {supply : Bytes} (h : key.Refusal passphrase protection supply)
    (text : String) (rest : Bytes) :
    key.encrypt passphrase protection supply ≠ some (.ok text, rest) := by
  intro htext
  obtain ⟨document, salt, iv, hdocument, hsalt, hiv, hsupply, htext⟩ := encrypt_eq_ok_iff.1 htext
  rw [essentialDocument_eq hkey] at hdocument
  obtain ⟨hadmitted, encrypted, hencrypted, hlength, -⟩ := encryptedPem_eq_ok_iff.1 htext
  cases h with
  | noDocument cause hcause =>
    rw [hdocument] at hcause
    nomatch hcause
  | notAdmitted hnot => exact hnot hadmitted
  | exhausted hshort =>
    rw [hsupply, List.length_append, List.length_append, hsalt, hiv] at hshort
    simp only [saltSize, Pkcs5.AesCbc.ivSize] at hshort
    omega
  | tooLong document' salt' iv' rest' encrypted' hdocument' hsalt' hiv' hsupply' hencrypted'
      hlength' =>
    -- the document, the salt and the initialization vector are the same ones
    obtain rfl : document = document' := Except.ok.inj (hdocument.symm.trans hdocument')
    obtain ⟨rfl, hrest⟩ := List.append_inj (hsupply.symm.trans hsupply')
      (hsalt.trans hsalt'.symm)
    obtain ⟨rfl, -⟩ := List.append_inj hrest (hiv.trans hiv'.symm)
    obtain rfl : encrypted = encrypted' := Except.ok.inj (hencrypted.symm.trans hencrypted')
    exact Nat.not_le.2 hlength' hlength

/-- A typed key comes back from every encrypted text that it has, and it has one unless there is a
reason against it. -/
theorem decrypt_encrypt (key : PrivateKey) (hkey : key.IsTyped) (passphrase : Passphrase)
    (protection : Protection) (supply : Bytes) :
    (∀ text rest, key.encrypt passphrase protection supply = some (.ok text, rest) →
      ofEncryptedPem text passphrase = .ok key ∧
        ∃ plain, key.toPem = .ok plain ∧ decryptPem text passphrase = .ok plain) ∧
      ((∀ text rest, key.encrypt passphrase protection supply ≠ some (.ok text, rest)) ↔
        key.Refusal passphrase protection supply) := by
  refine ⟨fun text rest h => ?_, refusal_of_encrypt_ne_ok hkey, fun h => h.encrypt_ne_ok hkey⟩
  obtain ⟨hread, document, hdocument⟩ := ofEncryptedPem_of_encrypt hkey h
  have hplain := toPem_of_toPkcs8 hdocument
  refine ⟨hread, _, hplain, ?_⟩
  rw [decryptPem, hread]
  exact hplain

/-- The Ed25519 key of a seed of zeros. -/
theorem decrypt_encrypt_zero_seed :
    let key := PrivateKey.ed25519 ⟨List.replicate 32 0, rfl⟩
    key.IsTyped ∧ ∃ text rest,
      key.encrypt .fixture .standard (List.replicate 32 0) = some (.ok text, rest) ∧
        ofEncryptedPem text .fixture = .ok key := by
  intro key
  obtain ⟨document, hdocument, hshort⟩ :=
    exists_essentialDocument_ed25519 ⟨List.replicate 32 0, rfl⟩
  have hadmitted : Protection.standard.Admitted := by decide
  have hsupply : 32 ≤ (List.replicate 32 0 : Bytes).length := by decide
  obtain ⟨text, rest, h⟩ := exists_encrypt key hdocument hshort .fixture hadmitted hsupply
  exact ⟨trivial, text, rest, h, ((decrypt_encrypt key trivial _ _ _).1 text rest h).1⟩

end PrivateKey

end SealedKey
