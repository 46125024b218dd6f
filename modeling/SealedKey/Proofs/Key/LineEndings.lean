import SealedKey.Proofs.Key.Container
import SealedKey.Proofs.Key.Inspection
import SealedKey.Proofs.Key.NormalForm
import SealedKey.Proofs.Key.RoundTrip
import SealedKey.Proofs.Key.Truncation
import SealedKey.Proofs.Pem.LineEndings

/-!
# Keys and line endings

A text that went through another system can come back with a carriage return before each line feed.
`PrivateKey.ofPem_withReturns` says that this changes nothing that can be read from it.

Success depends on a private key block with one of four labels, and none of these has a line break,
so the two texts have the same block (`Pem.privateKeyBlock_withReturns`).  Errors can differ, since
some of them show a label.
-/

namespace SealedKey

open Pem (Block privateKeyBlock textWithReturns)
open Pkcs8 (EncryptedKeyInfo)

variable {text : String}

/-- A label of a container is looked for in the same way with both line endings. -/
theorem Label.privateKeyBlock_withReturns {label : String} (hlabel : label ∈ Label.containers)
    (h : '\r' ∉ text.toList) {contents : Bytes} :
    privateKeyBlock (textWithReturns text) = .ok ⟨label, contents⟩ ↔
      privateKeyBlock text = .ok ⟨label, contents⟩ := by
  have hplain : ∀ label ∈ Label.containers, '\n' ∉ label.toList ∧ '\r' ∉ label.toList := by decide
  obtain ⟨hnewline, hreturn⟩ := hplain label hlabel
  exact Pem.privateKeyBlock_withReturns h hnewline hreturn

theorem Pkcs8.EncryptedKeyInfo.ofPem_textWithReturns (h : '\r' ∉ text.toList)
    {info : EncryptedKeyInfo} : ofPem (textWithReturns text) = .ok info ↔ ofPem text = .ok info := by
  have hlabel : Label.encryptedPrivateKey ∈ Label.containers := by decide
  simp only [ofPem_eq_ok_iff, Label.privateKeyBlock_withReturns hlabel h]

namespace PrivateKey

/-- A carriage return before each line feed does not matter to the readers of a text that has no
others: they succeed together, with the same key and with the same details. -/
theorem ofPem_withReturns (h : '\r' ∉ text.toList) :
    (∀ key, ofPem (textWithReturns text) = .ok key ↔ ofPem text = .ok key) ∧
    (∀ passphrase key, ofEncryptedPem (textWithReturns text) passphrase = .ok key ↔
      ofEncryptedPem text passphrase = .ok key) ∧
    ∀ details, SchemeDetails.ofPem (textWithReturns text) = .ok details ↔
      SchemeDetails.ofPem text = .ok details := by
  refine ⟨fun key => ?_, fun passphrase key => ?_, fun details => ?_⟩
  · have hplain : Label.privateKey ∈ Label.containers := by decide
    have hrsa : Label.rsaPrivateKey ∈ Label.containers := by decide
    have hec : Label.ecPrivateKey ∈ Label.containers := by decide
    simp only [ofPem_eq_ok_iff, Label.privateKeyBlock_withReturns hplain h,
      Label.privateKeyBlock_withReturns hrsa h, Label.privateKeyBlock_withReturns hec h]
  · simp only [ofEncryptedPem, Except.bind_eq_ok_iff, EncryptedKeyInfo.ofPem_textWithReturns h]
  · simp only [SchemeDetails.ofPem, Except.bind_eq_ok_iff, EncryptedKeyInfo.ofPem_textWithReturns h]

/-- The text of the key of a seed of zeros, and its encrypted text. -/
theorem ofPem_withReturns_zeroSeed :
    (∃ text, '\r' ∉ text.toList ∧ textWithReturns text ≠ text ∧ ofPem text = .ok zeroSeed ∧
      ofPem (textWithReturns text) = .ok zeroSeed) ∧
    ∃ text, '\r' ∉ text.toList ∧ textWithReturns text ≠ text ∧
      ofEncryptedPem text .fixture = .ok zeroSeed ∧
      ofEncryptedPem (textWithReturns text) .fixture = .ok zeroSeed := by
  constructor
  · obtain ⟨document, hkey⟩ := exists_ofPem_zeroSeed
    have hlabel : '\r' ∉ Label.privateKey.toList := by decide
    have hreturn := Pem.return_notMem_toText ⟨Label.privateKey, document⟩ hlabel
    exact ⟨_, hreturn, Pem.textWithReturns_toText_ne _ hlabel, hkey,
      ((ofPem_withReturns hreturn).1 _).2 hkey⟩
  · have hadmitted : Protection.standard.Admitted := by decide
    have hlabel : '\r' ∉ Label.encryptedPrivateKey.toList := by decide
    have htyped : zeroSeed.IsTyped := trivial
    obtain ⟨text, rest, htext⟩ := exists_encrypt_zeroSeed .fixture hadmitted
    obtain ⟨hkey, -⟩ := ofEncryptedPem_of_encrypt htyped htext
    obtain ⟨contents, rfl⟩ := exists_block_of_encrypt htext
    have hreturn :=
      Pem.return_notMem_toText ⟨Label.encryptedPrivateKey, contents⟩ hlabel
    exact ⟨_, hreturn, Pem.textWithReturns_toText_ne _ hlabel, hkey,
      ((ofPem_withReturns hreturn).2.1 _ _).2 hkey⟩

end PrivateKey

end SealedKey
