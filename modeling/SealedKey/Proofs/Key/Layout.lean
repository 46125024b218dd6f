import SealedKey.Proofs.Key.Export
import SealedKey.Proofs.Key.NormalForm
import SealedKey.Proofs.Pem.Layout

/-!
# The layout of written keys

The text of a key, its encrypted text and the text of its public key are each one block in the strict
layout (`PrivateKey.isBlock_of_key`).  This needs only that no document is empty, since a block
without contents has no data line.
-/

namespace SealedKey

open Pem (Block IsBlock)

theorem Der.sequence_ne_nil (fields : List Bytes) : Der.sequence fields ≠ [] :=
  List.length_pos_iff.1 (Der.length_element_pos .sequence fields.flatten)

namespace PrivateKey

variable {key : PrivateKey}

/-! ## Documents -/

theorem ne_nil_of_toPkcs8 {document : Bytes} (h : key.toPkcs8 = .ok document) : document ≠ [] := by
  obtain hkey | ⟨key', rfl⟩ := isTyped_or_untyped key
  · obtain ⟨info, -, -, rfl⟩ := (toPkcs8_eq_ok_iff hkey).1 h
    exact Der.sequence_ne_nil _
  · -- the document is the one that the key was read from
    obtain ⟨body, -, hdocument⟩ :=
      Der.Reader.exists_element_of_run_sequence key'.ofDer_document
    obtain rfl : key'.document = document := Except.pure_eq_ok_iff.1 h
    rw [hdocument]
    exact List.length_pos_iff.1 (Der.length_element_pos _ _)

theorem ne_nil_of_publicKeyDocument {document : Bytes} (h : key.publicKeyDocument = .ok document) :
    document ≠ [] := by
  obtain ⟨info, -, -, rfl⟩ := publicKeyDocument_eq_ok_iff.1 h
  exact Der.sequence_ne_nil _

/-! ## Texts -/

/-- Everything that is written for a key is one block in the strict layout: its text, its encrypted
texts and the text of its public key.  For the text it does not matter which way the lines are
made. -/
theorem isBlock_of_key (key : PrivateKey) :
    (∀ text, key.toPem = .ok text →
      ∃ document, key.toPkcs8 = .ok document ∧ IsBlock Label.privateKey document text) ∧
    (∀ passphrase protection supply text rest,
      key.encrypt passphrase protection supply = some (.ok text, rest) →
        ∃ document, IsBlock Label.encryptedPrivateKey document text) ∧
    (∀ text, key.publicKeyPem = .ok text →
      ∃ document, key.publicKeyDocument = .ok document ∧ IsBlock Label.publicKey document text) ∧
    key.toPem = (fun document => (Block.mk Label.privateKey document).toText) <$> key.toPkcs8 ∧
    key.toPem =
      (fun document => (Block.mk Label.privateKey document).toTextByLines) <$> key.toPkcs8 := by
  refine ⟨fun text h => ?_, fun passphrase protection supply text rest h => ?_, fun text h => ?_,
    toPem_eq_map key, ?_⟩
  · obtain ⟨document, hdocument, rfl⟩ := toPem_eq_ok_iff.1 h
    exact ⟨document, hdocument,
      Pem.isBlock_toText (by decide) (by decide) (ne_nil_of_toPkcs8 hdocument)⟩
  · obtain ⟨document, salt, iv, -, -, -, -, htext⟩ := encrypt_eq_ok_iff.1 h
    obtain ⟨-, encrypted, -, -, rfl⟩ := encryptedPem_eq_ok_iff.1 htext
    exact ⟨_, Pem.isBlock_toText (by decide) (by decide) (Der.sequence_ne_nil _)⟩
  · obtain ⟨document, hdocument, htext⟩ := Except.bind_eq_ok_iff.1 h
    rw [← Except.pure_eq_ok_iff.1 htext]
    exact ⟨document, hdocument,
      Pem.isBlock_toText (by decide) (by decide) (ne_nil_of_publicKeyDocument hdocument)⟩
  · simp only [Block.toTextByLines_eq]
    exact toPem_eq_map key

/-- The texts of the key of a seed of zeros. -/
theorem isBlock_of_zeroSeed :
    (∃ text document, zeroSeed.toPem = .ok text ∧ IsBlock Label.privateKey document text) ∧
    (∃ text rest document,
      zeroSeed.encrypt .fixture .standard (List.replicate 32 0) = some (.ok text, rest) ∧
        IsBlock Label.encryptedPrivateKey document text) ∧
    ∃ text document, zeroSeed.publicKeyPem = .ok text ∧ IsBlock Label.publicKey document text := by
  obtain ⟨hplain, hencrypted, hpublic, -⟩ := isBlock_of_key zeroSeed
  refine ⟨?_, ?_, ?_⟩
  · obtain ⟨document, hdocument, -⟩ := exists_toPkcs8_ed25519 ⟨List.replicate 32 0, rfl⟩
    have htext := toPem_of_toPkcs8 hdocument
    obtain ⟨document', -, hblock⟩ := hplain _ htext
    exact ⟨_, document', htext, hblock⟩
  · have hadmitted : Protection.standard.Admitted := by decide
    obtain ⟨text, rest, htext⟩ := exists_encrypt_zeroSeed .fixture hadmitted
    obtain ⟨document, hblock⟩ := hencrypted _ _ _ _ _ htext
    exact ⟨text, rest, document, htext, hblock⟩
  · obtain ⟨_, hkey⟩ := exists_ofPem_zeroSeed
    have hhas : zeroSeed.HasPublicKey := trivial
    obtain ⟨document, hdocument⟩ := exists_publicKeyDocument (wasRead_of_ofPem hkey) hhas
    have htext : zeroSeed.publicKeyPem = .ok (Block.mk Label.publicKey document).toText :=
      Except.bind_eq_ok_iff.2 ⟨document, hdocument, rfl⟩
    obtain ⟨document', -, hblock⟩ := hpublic _ htext
    exact ⟨_, document', htext, hblock⟩

end PrivateKey

end SealedKey
