import SealedKey.Proofs.Key.PublicKey
import SealedKey.Proofs.Key.RoundTrip
import SealedKey.Proofs.Key.Untyped

/-!
# Keys that are written and read again

A key that was read, be it typed or not, is read again from the texts that it is written to: from a
plain text as the same key, and from an encrypted one as a key with the same algorithm and the
same public key (`PrivateKey.Matches`).
-/

namespace SealedKey.PrivateKey

/-- A key with the algorithm and the public key of another one. -/
structure Matches (key key' : PrivateKey) : Prop where
  algorithm : key'.algorithm = key.algorithm
  publicKeyDocument : key'.publicKeyDocument = key.publicKeyDocument

theorem Matches.refl (key : PrivateKey) : key.Matches key := ⟨rfl, rfl⟩

theorem Matches.trans {key key' key'' : PrivateKey} (h : key.Matches key')
    (h' : key'.Matches key'') : key.Matches key'' :=
  ⟨h'.algorithm.trans h.algorithm, h'.publicKeyDocument.trans h.publicKeyDocument⟩

theorem Matches.fingerprint {key key' : PrivateKey} (h : key.Matches key') :
    key'.fingerprint = key.fingerprint := by
  rw [PrivateKey.fingerprint, PrivateKey.fingerprint, h.publicKeyDocument]

/-- A key is read back from its document.  An untyped key must be one that is kept when its document
is read. -/
theorem ofPkcs8_of_toPkcs8 {key : PrivateKey}
    (huntyped : ∀ key', key = untyped key' → key'.info.IsUntyped) {document : Bytes}
    (h : key.toPkcs8 = .ok document) : ofPkcs8 document = .ok key := by
  obtain hkey | ⟨key, rfl⟩ := key.isTyped_or_untyped
  · exact ofPkcs8_toPkcs8 hkey h
  · rw [← Except.pure_eq_ok_iff.1 h]
    exact ofPkcs8_of_isUntyped key.ofDer_document (huntyped key rfl)

/-- The plain text of a key is read as this key. -/
theorem ofPem_toPem {key : PrivateKey}
    (huntyped : ∀ key', key = untyped key' → key'.info.IsUntyped) {text : String}
    (h : key.toPem = .ok text) : ofPem text = .ok key := by
  obtain ⟨document, hdocument, rfl⟩ := toPem_eq_ok_iff.1 h
  rw [ofPem_toText]
  exact ofPkcs8_of_toPkcs8 huntyped hdocument

/-- The encrypted text of a key is read as a key that matches, and that has a document. -/
theorem ofEncryptedPem_matches {key : PrivateKey}
    (huntyped : ∀ key', key = untyped key' → key'.info.IsUntyped) {passphrase : Passphrase}
    {protection : Protection} {supply rest : Bytes} {text : String}
    (h : key.encrypt passphrase protection supply = some (.ok text, rest)) :
    ∃ key' plain, ofEncryptedPem text passphrase = .ok key' ∧ key.Matches key' ∧
      key'.toPem = .ok plain := by
  obtain hkey | ⟨key, rfl⟩ := key.isTyped_or_untyped
  · obtain ⟨hdecrypted, document, hdocument⟩ := ofEncryptedPem_of_encrypt hkey h
    exact ⟨key, _, hdecrypted, .refl key, toPem_of_toPkcs8 hdocument⟩
  · have hdecrypted := ofEncryptedPem_of_encrypt_untyped (huntyped key rfl) h
    exact ⟨_, _, hdecrypted, ⟨rfl, rfl⟩, toPem_of_toPkcs8 rfl⟩

/-- What can be decrypted can be described. -/
theorem exists_schemeDetails {text : String} {passphrase : Passphrase} {key : PrivateKey}
    (h : ofEncryptedPem text passphrase = .ok key) :
    ∃ details, SchemeDetails.ofPem text = .ok details := by
  obtain ⟨info, _, hinfo, -, -⟩ := ofPkcs8_of_ofEncryptedPem h
  refine ⟨SchemeDetails.ofScheme info.scheme, ?_⟩
  rw [SchemeDetails.ofPem, hinfo]
  rfl

end SealedKey.PrivateKey
