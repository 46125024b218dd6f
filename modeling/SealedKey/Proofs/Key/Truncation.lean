import SealedKey.Proofs.Key.NormalForm
import SealedKey.Proofs.Pem.Truncation

/-!
# Truncated texts of keys

Writing a file can be interrupted.  What is there then is no text of a key, neither of the one that
was written nor of another one, whatever passphrase is tried (`PrivateKey.ofPem_of_truncates`).
Only the last line feed does not matter.

All readers start with the private key block of the text, so it is enough that a truncated text has
none, and that it is the same one without the line feed.
-/

namespace SealedKey

open Pem (Truncates)
open Pkcs8 (EncryptedKeyInfo)

variable {text front : String}

/-- What the readers of PEM texts say when there is no block. -/
def Error.noBlock : Error := .pem Pem.Error.noBlock.message

/-! ## Readers of the private key block -/

/-- A text without a private key block has no key of any kind. -/
structure Unreadable (text : String) : Prop where
  plain : PrivateKey.ofPem text = .error .noBlock
  encrypted : ∀ passphrase, PrivateKey.ofEncryptedPem text passphrase = .error .noBlock
  details : SchemeDetails.ofPem text = .error .noBlock

theorem unreadable_of_privateKeyBlock (h : Pem.privateKeyBlock text = .error .noBlock) :
    Unreadable text := by
  have hinfo : EncryptedKeyInfo.ofPem text = .error .noBlock := by
    rw [EncryptedKeyInfo.ofPem, h]
    rfl
  refine ⟨?_, fun passphrase => ?_, ?_⟩
  · rw [PrivateKey.ofPem, h]
    rfl
  · rw [PrivateKey.ofEncryptedPem, hinfo]
    rfl
  · rw [SchemeDetails.ofPem, hinfo]
    rfl

/-- Two texts are read in the same way. -/
structure ReadsLike (text text' : String) : Prop where
  plain : PrivateKey.ofPem text = PrivateKey.ofPem text'
  encrypted : ∀ passphrase,
    PrivateKey.ofEncryptedPem text passphrase = PrivateKey.ofEncryptedPem text' passphrase
  details : SchemeDetails.ofPem text = SchemeDetails.ofPem text'

theorem readsLike_of_privateKeyBlock {text' : String}
    (h : Pem.privateKeyBlock text = Pem.privateKeyBlock text') : ReadsLike text text' := by
  have hinfo : EncryptedKeyInfo.ofPem text = EncryptedKeyInfo.ofPem text' := by
    rw [EncryptedKeyInfo.ofPem, EncryptedKeyInfo.ofPem, h]
  refine ⟨?_, fun passphrase => ?_, ?_⟩
  · rw [PrivateKey.ofPem, PrivateKey.ofPem, h]
  · rw [PrivateKey.ofEncryptedPem, PrivateKey.ofEncryptedPem, hinfo]
  · rw [SchemeDetails.ofPem, SchemeDetails.ofPem, hinfo]

/-- A text of one block of such a label cannot be cut off, but for the last line feed. -/
structure Indivisible (text : String) : Prop where
  unreadable : ∀ front, Truncates front text → Unreadable front
  readsLike : ∀ front, front ++ "\n" = text → ReadsLike front text

theorem indivisible_toText {label : String} (hne : label ≠ "") (hdash : '-' ∉ label.toList)
    (contents : Bytes) : Indivisible (Pem.Block.mk label contents).toText := by
  have hlabel : Pem.IsLabel label.toList :=
    Pem.isLabel_of_notMem (fun h => hne (String.toList_inj.1 h)) hdash
  constructor
  · intro front h
    exact unreadable_of_privateKeyBlock (Pem.privateKeyBlock_of_truncates hlabel h)
  · intro front h
    exact readsLike_of_privateKeyBlock (Pem.privateKeyBlock_of_append_newline hlabel h)

namespace PrivateKey

/-! ## Texts of keys -/

variable {key : PrivateKey}

theorem indivisible_of_toPem (h : key.toPem = .ok text) : Indivisible text := by
  obtain ⟨document, -, rfl⟩ := toPem_eq_ok_iff.1 h
  exact indivisible_toText (by decide) (by decide) document

/-- An encrypted text is one block. -/
theorem exists_block_of_encrypt {passphrase : Passphrase} {protection : Protection}
    {supply rest : Bytes} (h : key.encrypt passphrase protection supply = some (.ok text, rest)) :
    ∃ contents, text = (Pem.Block.mk Label.encryptedPrivateKey contents).toText := by
  obtain ⟨document, salt, iv, -, -, -, -, htext⟩ := encrypt_eq_ok_iff.1 h
  obtain ⟨-, encrypted, -, -, htext⟩ := encryptedPem_eq_ok_iff.1 htext
  exact ⟨_, htext⟩

theorem indivisible_of_encrypt {passphrase : Passphrase} {protection : Protection}
    {supply rest : Bytes} (h : key.encrypt passphrase protection supply = some (.ok text, rest)) :
    Indivisible text := by
  obtain ⟨contents, rfl⟩ := exists_block_of_encrypt h
  exact indivisible_toText (by decide) (by decide) contents

/-- A part of the text of a key, from its start, is no PEM text if it lacks more than the last line
feed.  If it lacks this alone, it is read as the whole text is, and this gives the key if the key is
one that the library gives.  The same holds of an encrypted text, with any passphrase, and of the
details of its scheme. -/
theorem ofPem_of_truncates (key : PrivateKey) :
    (∀ text, key.toPem = .ok text →
      (∀ front, Truncates front text → ofPem front = .error .noBlock) ∧
      ∀ front, front ++ "\n" = text →
        ofPem front = ofPem text ∧ (key.Obtained → ofPem front = .ok key)) ∧
    ∀ passphrase protection supply text rest,
      key.encrypt passphrase protection supply = some (.ok text, rest) →
        (∀ front, Truncates front text →
          (∀ other, ofEncryptedPem front other = .error .noBlock) ∧
            SchemeDetails.ofPem front = .error .noBlock) ∧
        ∀ front, front ++ "\n" = text →
          (∀ other, ofEncryptedPem front other = ofEncryptedPem text other) ∧
            SchemeDetails.ofPem front = SchemeDetails.ofPem text := by
  refine ⟨fun text h => ⟨fun front hfront => ?_, fun front hfront => ⟨?_, fun hkey => ?_⟩⟩,
    fun passphrase protection supply text rest h => ⟨fun front hfront => ?_,
      fun front hfront => ?_⟩⟩
  · exact ((indivisible_of_toPem h).unreadable front hfront).plain
  · exact ((indivisible_of_toPem h).readsLike front hfront).plain
  · rw [((indivisible_of_toPem h).readsLike front hfront).plain]
    exact ofPem_toPem hkey.isUntyped h
  · have hnone := (indivisible_of_encrypt h).unreadable front hfront
    exact ⟨hnone.encrypted, hnone.details⟩
  · have hsame := (indivisible_of_encrypt h).readsLike front hfront
    exact ⟨hsame.encrypted, hsame.details⟩

/-- The Ed25519 key of a seed of zeros: its texts without their last dash. -/
theorem ofPem_of_truncates_zeroSeed :
    (∃ text front, zeroSeed.toPem = .ok text ∧ front ++ "-" ++ "\n" = text ∧
      ofPem front = .error .noBlock ∧ ofPem (front ++ "-") = .ok zeroSeed) ∧
    ∃ text rest front,
      zeroSeed.encrypt .fixture .standard (List.replicate 32 0) = some (.ok text, rest) ∧
        front ++ "-" ++ "\n" = text ∧ ofEncryptedPem front .fixture = .error .noBlock ∧
        SchemeDetails.ofPem (front ++ "-") = SchemeDetails.ofPem text := by
  have htail (front : String) : Truncates front (front ++ "-" ++ "\n") :=
    ⟨"-\n", by rw [String.append_assoc]; rfl, by decide, by decide⟩
  constructor
  · obtain ⟨document, hdocument, -⟩ := exists_toPkcs8_ed25519 ⟨List.replicate 32 0, rfl⟩
    have htext := toPem_of_toPkcs8 hdocument
    obtain ⟨front, hfront⟩ := Pem.exists_append_dash ⟨Label.privateKey, document⟩
    obtain ⟨hcut, hwhole⟩ := (ofPem_of_truncates zeroSeed).1 _ htext
    have hobtained : zeroSeed.Obtained := .generateEd25519 generateEd25519_zeroSeed
    exact ⟨_, front, htext, hfront, hcut front (hfront ▸ htail front),
      (hwhole _ hfront).2 hobtained⟩
  · have hadmitted : Protection.standard.Admitted := by decide
    obtain ⟨text, rest, htext⟩ := exists_encrypt_zeroSeed .fixture hadmitted
    obtain ⟨contents, hblock⟩ := exists_block_of_encrypt htext
    obtain ⟨front, hfront⟩ := Pem.exists_append_dash ⟨Label.encryptedPrivateKey, contents⟩
    rw [← hblock] at hfront
    obtain ⟨hcut, hwhole⟩ := (ofPem_of_truncates zeroSeed).2 _ _ _ _ _ htext
    exact ⟨text, rest, front, htext, hfront, (hcut front (hfront ▸ htail front)).1 .fixture,
      (hwhole _ hfront).2⟩

end PrivateKey

end SealedKey
