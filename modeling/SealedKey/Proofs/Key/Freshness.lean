import SealedKey.Proofs.Key.Export
import SealedKey.Proofs.Key.NormalForm

/-!
# Texts and the bytes that were drawn for them

An encryption draws a salt and an initialization vector of 16 bytes each.  Its text depends on these
32 bytes and on none that follow, and it holds them, so different bytes give different
texts (`PrivateKey.encrypt_fresh`).

* `take_eq_of_encrypt` finds the drawn bytes in the text, whatever was encrypted.
* Whether there is a text does not depend on the bytes: `exists_encryptedPem_iff`.
-/

namespace SealedKey

open Pkcs8 (EncryptedKeyInfo)

/-- A salt and an initialization vector are found in the scheme that they are part of. -/
theorem Protection.eq_of_scheme_eq {protection protection' : Protection} {salt iv salt' iv' : Bytes}
    (h : protection.scheme salt iv = protection'.scheme salt' iv') : salt = salt' ∧ iv = iv' := by
  injection h with hderivation _ hiv
  refine ⟨?_, hiv⟩
  cases protection with
  | pbkdf2 iterations =>
    cases protection' with
    | pbkdf2 iterations' =>
      injection hderivation with hparameters
      exact congrArg Pkcs5.Pbkdf2.salt hparameters
    | scrypt => contradiction
  | scrypt =>
    cases protection' with
    | pbkdf2 iterations' => contradiction
    | scrypt =>
      injection hderivation with hparameters
      exact congrArg Pkcs5.Scrypt.salt hparameters

namespace PrivateKey

variable {key : PrivateKey} {passphrase : Passphrase} {protection : Protection}
  {supply rest : Bytes} {text : String}

theorem take_append_salt_iv {salt iv : Bytes} (hsalt : salt.length = 16) (hiv : iv.length = 16) :
    (salt ++ (iv ++ rest)).take 32 = salt ++ iv ∧ (salt ++ (iv ++ rest)).drop 32 = rest := by
  have hlength : (salt ++ iv).length = 32 := by rw [List.length_append, hsalt, hiv]
  rw [← List.append_assoc]
  exact ⟨List.take_left' hlength, List.drop_left' hlength⟩

/-- Equal texts come from equal bytes, also if they are of different keys. -/
theorem take_eq_of_encrypt {key' : PrivateKey} {passphrase' : Passphrase}
    {protection' : Protection} {supply' rest' : Bytes}
    (h : key.encrypt passphrase protection supply = some (.ok text, rest))
    (h' : key'.encrypt passphrase' protection' supply' = some (.ok text, rest')) :
    supply.take 32 = supply'.take 32 := by
  obtain ⟨salt, iv, _, encrypted, rfl, hsalt, hiv, -, -, hinfo⟩ := exists_scheme_of_encrypt h
  obtain ⟨salt', iv', _, encrypted', rfl, hsalt', hiv', -, -, hinfo'⟩ :=
    exists_scheme_of_encrypt h'
  have hscheme := Except.ok.inj (hinfo.symm.trans hinfo')
  injection hscheme with hscheme _
  injection hscheme with hscheme
  obtain ⟨rfl, rfl⟩ := Protection.eq_of_scheme_eq hscheme
  rw [(take_append_salt_iv hsalt hiv).1, (take_append_salt_iv hsalt' hiv').1]

/-- An encryption that gives a text for some bytes gives one for all, unless there are too few. -/
theorem exists_encrypt_of_encrypt
    (h : key.encrypt passphrase protection supply = some (.ok text, rest)) {supply' : Bytes}
    (hsupply : 32 ≤ supply'.length) :
    ∃ text', key.encrypt passphrase protection supply' = some (.ok text', supply'.drop 32) := by
  obtain ⟨document, salt, iv, hdocument, hsalt, hiv, -, htext⟩ := encrypt_eq_ok_iff.1 h
  obtain ⟨hadmitted, -⟩ := encryptedPem_eq_ok_iff.1 htext
  have hshort := (exists_encryptedPem_iff hadmitted hsalt hiv passphrase document).1 ⟨text, htext⟩
  obtain ⟨salt', iv', rest', rfl, hsalt', hiv'⟩ := exists_salt_iv hsupply
  obtain ⟨text', htext'⟩ :=
    (exists_encryptedPem_iff hadmitted hsalt' hiv' passphrase document).2 hshort
  rw [(take_append_salt_iv hsalt' hiv').2]
  exact ⟨text', encrypt_eq_ok_iff.2 ⟨document, salt', iv', hdocument, hsalt', hiv', rfl, htext'⟩⟩

theorem encrypt_eq_none_of_length_lt
    (h : key.encrypt passphrase protection supply = some (.ok text, rest)) {supply' : Bytes}
    (hsupply : supply'.length < 32) : key.encrypt passphrase protection supply' = none := by
  obtain ⟨document, -, -, hdocument, -⟩ := encrypt_eq_ok_iff.1 h
  rcases hresult : key.encrypt passphrase protection supply' with _ | ⟨result, rest'⟩
  · rfl
  · obtain ⟨cause, hcause, -⟩ | ⟨_, salt, iv, -, hsalt, hiv, rfl, -⟩ :=
      encrypt_eq_some_iff.1 hresult
    · rw [hdocument] at hcause
      contradiction
    · simp only [List.length_append, hsalt, hiv, saltSize, Pkcs5.AesCbc.ivSize] at hsupply
      omega

/-- The text depends on the first bytes of the supply only. -/
theorem encrypt_of_take_eq
    (h : key.encrypt passphrase protection supply = some (.ok text, rest)) {supply' : Bytes}
    (htake : supply'.take 32 = supply.take 32) :
    key.encrypt passphrase protection supply' = some (.ok text, supply'.drop 32) := by
  obtain ⟨document, salt, iv, hdocument, hsalt, hiv, rfl, htext⟩ := encrypt_eq_ok_iff.1 h
  refine encrypt_eq_ok_iff.2 ⟨document, salt, iv, hdocument, hsalt, hiv, ?_, htext⟩
  rw [(take_append_salt_iv hsalt hiv).1] at htake
  rw [← List.append_assoc, ← htake, List.take_append_drop]

/-- Whether a key has an encrypted text does not depend on the 32 bytes that are drawn for it.  The
first half of them is the salt of the text, and the other half is its initialization vector; what is
encrypted with them is the document of the key.  With the same 32 bytes there is the same text,
whatever follows them, and with other bytes there is another text. -/
theorem encrypt_fresh (key : PrivateKey) (passphrase : Passphrase) {protection : Protection}
    (hadmitted : protection.Admitted) :
    (∀ supply : Bytes, 32 ≤ supply.length →
      ((∃ text rest, key.encrypt passphrase protection supply = some (.ok text, rest)) ↔
        key.Encryptable protection)) ∧
    ∀ supply text rest, key.encrypt passphrase protection supply = some (.ok text, rest) →
      (∃ salt iv document encrypted, supply = salt ++ (iv ++ rest) ∧ salt.length = 16 ∧
        iv.length = 16 ∧ key.essentialDocument = .ok document ∧
        (protection.scheme salt iv).encrypt passphrase.bytes document = .ok encrypted ∧
        EncryptedKeyInfo.ofPem text = .ok ⟨.pbes2 (protection.scheme salt iv), encrypted⟩) ∧
      ∀ supply' : Bytes,
        (supply'.length < 32 → key.encrypt passphrase protection supply' = none) ∧
        (supply'.take 32 = supply.take 32 →
          key.encrypt passphrase protection supply' = some (.ok text, supply'.drop 32)) ∧
        (32 ≤ supply'.length → supply'.take 32 ≠ supply.take 32 → ∃ text', text' ≠ text ∧
          key.encrypt passphrase protection supply' = some (.ok text', supply'.drop 32)) := by
  refine ⟨fun supply hsupply => exists_encrypt_iff hadmitted hsupply passphrase,
    fun supply text rest h => ⟨exists_scheme_of_encrypt h, fun supply' => ?_⟩⟩
  refine ⟨encrypt_eq_none_of_length_lt h, encrypt_of_take_eq h, fun hsupply hne => ?_⟩
  obtain ⟨text', htext'⟩ := exists_encrypt_of_encrypt h hsupply
  refine ⟨text', ?_, htext'⟩
  rintro rfl
  exact hne (take_eq_of_encrypt htext' h)

/-- The key of a seed of zeros, with two supplies that differ in the last byte only. -/
theorem encrypt_fresh_zeroSeed : Protection.standard.Admitted ∧ ∃ text text' rest rest',
    zeroSeed.encrypt .fixture .standard (List.replicate 32 0) = some (.ok text, rest) ∧
      zeroSeed.encrypt .fixture .standard (List.replicate 31 0 ++ [1]) = some (.ok text', rest') ∧
      text' ≠ text := by
  have hadmitted : Protection.standard.Admitted := by decide
  obtain ⟨text, rest, htext⟩ := exists_encrypt_zeroSeed .fixture hadmitted
  obtain ⟨-, hfresh⟩ := (encrypt_fresh zeroSeed .fixture hadmitted).2 _ _ _ htext
  obtain ⟨text', hne, htext'⟩ := (hfresh (List.replicate 31 0 ++ [1])).2.2 (by decide) (by decide)
  exact ⟨hadmitted, text, text', rest, _, htext, htext', hne⟩

end PrivateKey

end SealedKey
