import SealedKey.Proofs.Key.Dispatch
import SealedKey.Proofs.Key.Encryption

/-!
# Errors of decryption

What can be wrong with an encrypted private key shows in three places: the scheme cannot be used or
the padding is wrong, what is decrypted is no sequence, or it is no key.  All of this is an error
of decryption (`EncryptedKeyInfo.decrypt_eq_error`, `Error.whileDecrypting`), with one exception.
A decrypted document of a key on a curve that it does not name is refused with an encoding error,
and this error is passed on as it is (`EncryptedKeyInfo.HidesCurveless`).

`PrivateKey.ofEncryptedPem_eq_error` says that there are no others.
-/

namespace SealedKey

namespace Pkcs8.EncryptedKeyInfo

variable {text : String} {info : EncryptedKeyInfo} {passphrase : Passphrase}

/-- The encrypted private key of a text is that of its private key block. -/
theorem ofPem_of_privateKeyBlock {block : Pem.Block} (hblock : Pem.privateKeyBlock text = .ok block)
    (hlabel : block.label = Label.encryptedPrivateKey) (hinfo : ofDer block.contents = .ok info) :
    ofPem text = .ok info := by
  rw [ofPem, hblock, Except.bind_ok, if_pos hlabel, hinfo]
  rfl

theorem decrypt_eq_ok_iff {document : Bytes} : info.decrypt passphrase = .ok document ↔
    info.scheme.decrypt passphrase.bytes info.encrypted = .ok document ∧
      Der.Reader.run readSequence document = .ok () := by
  unfold decrypt
  simp only [Except.bind_eq_ok_iff, Except.mapError_eq_ok_iff, Except.pure_eq_ok_iff]
  constructor
  · intro h
    obtain ⟨_, hdecrypt, _, hsequence, rfl⟩ := h
    exact ⟨hdecrypt, hsequence⟩
  · intro h
    exact ⟨document, h.1, (), h.2, rfl⟩

/-- A passphrase that gives no document fails with an error of decryption. -/
theorem decrypt_eq_error {error : Error} (h : info.decrypt passphrase = .error error) :
    ∃ reason, error = .decryption reason := by
  unfold decrypt at h
  rcases Except.bind_eq_error_iff.1 h with hdecrypt | ⟨document, -, hsequence⟩
  · obtain ⟨cause, -, rfl⟩ := Except.mapError_eq_error_iff.1 hdecrypt
    exact ⟨cause.message, rfl⟩
  · rcases Except.bind_eq_error_iff.1 hsequence with hsequence | ⟨_, -, hdocument⟩
    · obtain ⟨cause, -, rfl⟩ := Except.mapError_eq_error_iff.1 hsequence
      exact ⟨_, rfl⟩
    · nomatch hdocument

/-- The passphrase gives a document of a key on a curve that does not name the curve. -/
def HidesCurveless (info : EncryptedKeyInfo) (passphrase : Passphrase) (cause : AlgorithmError) :
    Prop :=
  ∃ document keyInfo, info.decrypt passphrase = .ok document ∧
    PrivateKeyInfo.ofDer document = .ok keyInfo ∧ keyInfo.LacksCurve cause

end Pkcs8.EncryptedKeyInfo

namespace PrivateKey

open Pkcs8 (EncryptedKeyInfo)

variable {text : String} {info : EncryptedKeyInfo} {passphrase : Passphrase}

theorem ofEncryptedPem_of_hidesCurveless (hinfo : EncryptedKeyInfo.ofPem text = .ok info)
    {cause : AlgorithmError} (h : info.HidesCurveless passphrase cause) :
    ofEncryptedPem text passphrase = .error (.encoding cause.message) := by
  obtain ⟨document, keyInfo, hdecrypt, hread, hcurve⟩ := h
  rw [ofEncryptedPem_of_decrypt_eq hinfo hdecrypt, ofPkcs8_of_lacksCurve hread hcurve]
  rfl

/-- The errors of decryption, and the one other error. -/
theorem ofEncryptedPem_eq_error (hinfo : EncryptedKeyInfo.ofPem text = .ok info) {error : Error}
    (h : ofEncryptedPem text passphrase = .error error) :
    (∃ reason, error = .decryption reason) ∨
      ∃ cause, info.HidesCurveless passphrase cause ∧ error = .encoding cause.message := by
  rw [ofEncryptedPem, hinfo, Except.bind_ok] at h
  rcases Except.bind_eq_error_iff.1 h with hdecrypt | ⟨document, hdecrypt, hkey⟩
  · exact .inl (EncryptedKeyInfo.decrypt_eq_error hdecrypt)
  · obtain ⟨cause, hcause, rfl⟩ := Except.mapError_eq_error_iff.1 hkey
    rcases ofPkcs8_eq_error hcause with ⟨reason, rfl⟩ | ⟨keyInfo, cause, hread, hcurve, rfl⟩
    · exact .inl ⟨reason, rfl⟩
    · exact .inr ⟨cause, ⟨document, keyInfo, hdecrypt, hread, hcurve⟩, rfl⟩

end PrivateKey

end SealedKey
