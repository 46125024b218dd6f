import SealedKey.Proofs.Key.Container
import SealedKey.Proofs.Key.Decryption
import SealedKey.Proofs.Key.NormalForm
import SealedKey.Proofs.Pem.File

/-!
# The stages of reading a text

A text is read in three stages, and an error names the stage that failed: the text has no private
key block, the label of this block is not a wanted one, or its document cannot be decoded.  The
first two stages are the same for plain and for encrypted texts, only the wanted labels differ, so
no text can be read as both.

* `Pem.privateKeyBlock_eq_error` has the errors of the first stage.
* `PrivateKey.ofPem_eq_error` has those of a plain text with a private key block.  Only one error is
  not from the stage that failed: the document of a key on a curve that it does not name
  (`Pem.Block.LacksCurve`) is refused with an encoding error.
* `EncryptedKeyInfo.ofPem_eq_notEncrypted_iff` and `PrivateKey.ofEncryptedPem_eq_notEncrypted_iff`
  are about the label of an encrypted text.

`PrivateKey.stages_of_text` puts this together.
-/

namespace SealedKey

/-- The labels of the known containers. -/
def Label.containers : List String :=
  [privateKey, rsaPrivateKey, ecPrivateKey, encryptedPrivateKey]

/-! ## The private key block -/

namespace Pem

/-- A text has no private key block because it is no PEM text, or because no block has the label of
a private key; then the first label is named. -/
theorem privateKeyBlock_eq_error {text : String} {error : SealedKey.Error}
    (h : privateKeyBlock text = .error error) :
    (∃ reason, error = .pem reason) ∨ ∃ first rest,
      Block.ofText text = .ok (first :: rest) ∧ error = .unsupportedLabel first.label := by
  rcases Except.bind_eq_error_iff.1 h with hblocks | ⟨blocks, hblocks, h⟩
  · obtain ⟨cause, -, rfl⟩ := Except.mapError_eq_error_iff.1 hblocks
    exact .inl ⟨_, rfl⟩
  · split at h
    · cases h
      exact .inl ⟨_, rfl⟩
    · rename_i first rest
      split at h
      · cases h
      · cases h
        exact .inr ⟨first, rest, Except.mapError_eq_ok_iff.1 hblocks, rfl⟩

/-- A block with the document of a key on a curve that does not name the curve. -/
def Block.LacksCurve (block : Block) (cause : AlgorithmError) : Prop :=
  block.label = Label.privateKey ∧
    ∃ info, Pkcs8.PrivateKeyInfo.ofDer block.contents = .ok info ∧ info.LacksCurve cause

end Pem

open Pem (Block privateKeyBlock)
open Pkcs8 (EncryptedKeyInfo)

variable {text : String} {block : Block}

/-! ## Plain texts -/

namespace PrivateKey

theorem ofPem_of_encryptedPrivateKey (hblock : privateKeyBlock text = .ok block)
    (hlabel : block.label = Label.encryptedPrivateKey) :
    ofPem text = .error .alreadyEncrypted := by
  have hplain : Label.encryptedPrivateKey ≠ Label.privateKey := by decide
  have hrsa : Label.encryptedPrivateKey ≠ Label.rsaPrivateKey := by decide
  have hec : Label.encryptedPrivateKey ≠ Label.ecPrivateKey := by decide
  rw [ofPem, hblock, Except.bind_ok, hlabel, if_neg hplain, if_neg hrsa, if_neg hec]
  exact if_pos rfl

theorem ofPem_of_notMem_containers (hblock : privateKeyBlock text = .ok block)
    (hlabel : block.label ∉ Label.containers) :
    ofPem text = .error (.unsupportedLabel block.label) := by
  simp only [Label.containers, List.mem_cons, List.not_mem_nil, or_false, not_or] at hlabel
  obtain ⟨hplain, hrsa, hec, hencrypted⟩ := hlabel
  rw [ofPem, hblock, Except.bind_ok, if_neg hplain, if_neg hrsa, if_neg hec, if_neg hencrypted]
  rfl

theorem ofPem_of_lacksCurve (hblock : privateKeyBlock text = .ok block) {cause : AlgorithmError}
    (h : block.LacksCurve cause) : ofPem text = .error (.encoding cause.message) := by
  obtain ⟨hlabel, info, hread, hcurve⟩ := h
  rw [ofPem, hblock, Except.bind_ok, if_pos hlabel]
  exact ofPkcs8_of_lacksCurve hread hcurve

theorem exists_decoding_of_ofSec1 {document : Bytes} {error : Error}
    (h : ofSec1 document = .error error) : ∃ reason, error = .decoding reason := by
  unfold ofSec1 at h
  split at h
  · cases h
  · cases h
    exact ⟨_, rfl⟩

/-- The errors of a plain text that has a private key block. -/
theorem ofPem_eq_error (hblock : privateKeyBlock text = .ok block) {error : Error}
    (h : ofPem text = .error error) :
    (error = .alreadyEncrypted ∧ block.label = Label.encryptedPrivateKey) ∨
    (error = .unsupportedLabel block.label ∧ block.label ∉ Label.containers) ∨
    (∃ reason, error = .decoding reason) ∨
    ∃ cause, block.LacksCurve cause ∧ error = .encoding cause.message := by
  rw [ofPem, hblock, Except.bind_ok] at h
  split at h
  · rename_i hlabel
    obtain hdecoding | ⟨info, cause, hread, hcurve, rfl⟩ := ofPkcs8_eq_error h
    · exact .inr (.inr (.inl hdecoding))
    · exact .inr (.inr (.inr ⟨cause, ⟨hlabel, info, hread, hcurve⟩, rfl⟩))
  · rename_i hplain
    split at h
    · exact .inr (.inr (.inl (exists_decoding_of_mapError h)))
    · rename_i hrsa
      split at h
      · exact .inr (.inr (.inl (exists_decoding_of_ofSec1 h)))
      · rename_i hec
        split at h
        · rename_i hencrypted
          cases h
          exact .inl ⟨rfl, hencrypted⟩
        · rename_i hencrypted
          cases h
          exact .inr (.inl ⟨rfl, by simp [Label.containers, hplain, hrsa, hec, hencrypted]⟩)

end PrivateKey

/-! ## Encrypted texts -/

namespace Pkcs8.EncryptedKeyInfo

theorem ofPem_of_ne_encryptedPrivateKey (hblock : privateKeyBlock text = .ok block)
    (hlabel : block.label ≠ Label.encryptedPrivateKey) :
    ofPem text = .error (.notEncrypted block.label) := by
  rw [ofPem, hblock, Except.bind_ok, if_neg hlabel]
  rfl

/-- The encrypted private key of a block with its label can only fail to be decoded. -/
theorem exists_decoding_of_ofPem (hblock : privateKeyBlock text = .ok block)
    (hlabel : block.label = Label.encryptedPrivateKey) {error : Error}
    (h : ofPem text = .error error) : ∃ reason, error = .decoding reason := by
  rw [ofPem, hblock, Except.bind_ok, if_pos hlabel] at h
  obtain ⟨cause, -, rfl⟩ := Except.mapError_eq_error_iff.1 h
  exact ⟨_, rfl⟩

theorem ofPem_eq_notEncrypted_iff (hblock : privateKeyBlock text = .ok block) {label : String} :
    ofPem text = .error (.notEncrypted label) ↔
      block.label ≠ Label.encryptedPrivateKey ∧ label = block.label := by
  by_cases hlabel : block.label = Label.encryptedPrivateKey
  · simp only [hlabel, ne_eq, not_true, false_and, iff_false]
    intro h
    obtain ⟨_, hdecoding⟩ := exists_decoding_of_ofPem hblock hlabel h
    contradiction
  · rw [ofPem_of_ne_encryptedPrivateKey hblock hlabel]
    simp [hlabel, eq_comm]

end Pkcs8.EncryptedKeyInfo

theorem SchemeDetails.ofPem_eq_error_iff {error : Error} :
    ofPem text = .error error ↔ EncryptedKeyInfo.ofPem text = .error error := by
  rw [ofPem, Except.bind_eq_error_iff]
  constructor
  · rintro (h | ⟨_, -, h⟩)
    · exact h
    · cases h
  · exact .inl

namespace PrivateKey

/-- Decryption fails because of the label exactly if the text is not an encrypted one. -/
theorem ofEncryptedPem_eq_notEncrypted_iff (hblock : privateKeyBlock text = .ok block)
    {passphrase : Passphrase} {label : String} :
    ofEncryptedPem text passphrase = .error (.notEncrypted label) ↔
      block.label ≠ Label.encryptedPrivateKey ∧ label = block.label := by
  rw [← EncryptedKeyInfo.ofPem_eq_notEncrypted_iff hblock]
  rcases hinfo : EncryptedKeyInfo.ofPem text with error | info
  · have hsame : ofEncryptedPem text passphrase = .error error := by
      rw [ofEncryptedPem, hinfo]
      rfl
    rw [hsame, Except.error.injEq, Except.error.injEq]
  · constructor
    · intro h
      obtain ⟨_, hdecryption⟩ | ⟨_, -, hencoding⟩ := ofEncryptedPem_eq_error hinfo h
      · cases hdecryption
      · cases hencoding
    · intro h
      cases h

/-- A text whose block is an encrypted private key is the only kind that can be decrypted. -/
theorem label_of_ofEncryptedPem {passphrase : Passphrase} {key : PrivateKey}
    (h : ofEncryptedPem text passphrase = .ok key) :
    ∃ block, privateKeyBlock text = .ok block ∧ block.label = Label.encryptedPrivateKey := by
  obtain ⟨info, hinfo, -⟩ := Except.bind_eq_ok_iff.1 h
  obtain ⟨block, hblock, hinfo⟩ := Except.bind_eq_ok_iff.1 hinfo
  refine ⟨block, hblock, ?_⟩
  split at hinfo
  · assumption
  · cases hinfo

/-- What is written by encryption is an encrypted private key. -/
theorem ofPem_of_encryptPem {passphrase : Passphrase} {protection : Protection}
    {supply rest : Bytes} {encrypted : String}
    (h : encryptPem text passphrase protection supply = some (.ok encrypted, rest)) :
    ofPem encrypted = .error .alreadyEncrypted := by
  rcases hread : ofPem text with error | key
  · rw [encryptPem, hread] at h
    cases h
  · rw [encryptPem, hread] at h
    obtain ⟨document, salt, iv, -, -, -, -, htext⟩ := encrypt_eq_ok_iff.1 h
    obtain ⟨-, ciphertext, -, -, rfl⟩ := encryptedPem_eq_ok_iff.1 htext
    exact ofPem_of_encryptedPrivateKey (EncryptedKeyInfo.privateKeyBlock_toText _) rfl

/-! ## Both directions -/

/-- How a text fails that has a private key block. -/
structure FailsAfter (text : String) (block : Block) : Prop where
  /-- An encrypted private key is refused, whatever the block holds. -/
  alreadyEncrypted_iff :
    ofPem text = .error .alreadyEncrypted ↔ block.label = Label.encryptedPrivateKey
  /-- Only a label of no known container is refused, and it is named. -/
  unsupportedLabel_iff (label : String) : ofPem text = .error (.unsupportedLabel label) ↔
    block.label ∉ Label.containers ∧ label = block.label
  /-- The one other error that is not of decoding. -/
  encoding_iff (reason : String) : ofPem text = .error (.encoding reason) ↔
    ∃ cause, block.LacksCurve cause ∧ reason = cause.message
  /-- All other errors are of decoding. -/
  decoding (error : Error) : ofPem text = .error error → error ≠ .alreadyEncrypted →
    (∀ label, error ≠ .unsupportedLabel label) → (∀ reason, error ≠ .encoding reason) →
      ∃ reason, error = .decoding reason
  /-- Every other label than that of an encrypted private key is refused by decryption. -/
  decrypt_notEncrypted_iff (passphrase : Passphrase) (label : String) :
    ofEncryptedPem text passphrase = .error (.notEncrypted label) ↔
      block.label ≠ Label.encryptedPrivateKey ∧ label = block.label
  /-- It is refused in the same way if only the scheme is looked at. -/
  inspect_notEncrypted_iff (label : String) :
    SchemeDetails.ofPem text = .error (.notEncrypted label) ↔
      block.label ≠ Label.encryptedPrivateKey ∧ label = block.label

theorem failsAfter (hblock : privateKeyBlock text = .ok block) : FailsAfter text block where
  alreadyEncrypted_iff := by
    refine ⟨fun h => ?_, ofPem_of_encryptedPrivateKey hblock⟩
    obtain ⟨-, hlabel⟩ | ⟨⟨⟩, -⟩ | ⟨_, ⟨⟩⟩ | ⟨_, -, ⟨⟩⟩ := ofPem_eq_error hblock h
    exact hlabel
  unsupportedLabel_iff label := by
    constructor
    · intro h
      obtain ⟨⟨⟩, -⟩ | ⟨⟨⟩, hlabel⟩ | ⟨_, ⟨⟩⟩ | ⟨_, -, ⟨⟩⟩ := ofPem_eq_error hblock h
      exact ⟨hlabel, rfl⟩
    · rintro ⟨hlabel, rfl⟩
      exact ofPem_of_notMem_containers hblock hlabel
  encoding_iff reason := by
    constructor
    · intro h
      obtain ⟨⟨⟩, -⟩ | ⟨⟨⟩, -⟩ | ⟨_, ⟨⟩⟩ | ⟨cause, hcurve, ⟨⟩⟩ := ofPem_eq_error hblock h
      exact ⟨cause, hcurve, rfl⟩
    · rintro ⟨cause, hcurve, rfl⟩
      exact ofPem_of_lacksCurve hblock hcurve
  decoding error h hencrypted hlabel hencoding := by
    obtain ⟨rfl, -⟩ | ⟨rfl, -⟩ | hdecoding | ⟨cause, -, rfl⟩ := ofPem_eq_error hblock h
    · exact absurd rfl hencrypted
    · exact absurd rfl (hlabel _)
    · exact hdecoding
    · exact absurd rfl (hencoding _)
  decrypt_notEncrypted_iff passphrase label := ofEncryptedPem_eq_notEncrypted_iff hblock
  inspect_notEncrypted_iff label :=
    SchemeDetails.ofPem_eq_error_iff.trans (EncryptedKeyInfo.ofPem_eq_notEncrypted_iff hblock)

/-- The errors of a text name the stage that failed, except that the document of a key on a curve
that it does not name gives an encoding error.  A text without a private key block fails in the same
way in both directions, and no text can be read in both. -/
theorem stages_of_text (text : String) :
    (∀ error, privateKeyBlock text = .error error →
      ((∃ reason, error = .pem reason) ∨ ∃ first rest,
        Block.ofText text = .ok (first :: rest) ∧ error = .unsupportedLabel first.label) ∧
      ofPem text = .error error ∧ SchemeDetails.ofPem text = .error error ∧
      ∀ passphrase, ofEncryptedPem text passphrase = .error error) ∧
    (∀ block, privateKeyBlock text = .ok block → FailsAfter text block) ∧
    (∀ passphrase key key', ofPem text = .ok key → ofEncryptedPem text passphrase ≠ .ok key') ∧
    ∀ passphrase protection supply encrypted rest,
      encryptPem text passphrase protection supply = some (.ok encrypted, rest) →
        ∀ passphrase' protection' supply', encryptPem encrypted passphrase' protection' supply' =
          some (.error .alreadyEncrypted, supply') := by
  refine ⟨fun error h => ⟨Pem.privateKeyBlock_eq_error h, ?_, ?_, fun passphrase => ?_⟩,
    fun block => failsAfter, fun passphrase key key' hplain hencrypted => ?_,
    fun passphrase protection supply encrypted rest h passphrase' protection' supply' => ?_⟩
  · rw [ofPem, h]
    rfl
  · rw [SchemeDetails.ofPem, EncryptedKeyInfo.ofPem, h]
    rfl
  · rw [ofEncryptedPem, EncryptedKeyInfo.ofPem, h]
    rfl
  · obtain ⟨block, hblock, hlabel⟩ := label_of_ofEncryptedPem hencrypted
    rw [ofPem_of_encryptedPrivateKey hblock hlabel] at hplain
    contradiction
  · rw [encryptPem, ofPem_of_encryptPem h]
    rfl

/-- The text of a key and its encrypted text are each refused in the other direction, and a text
without a block in both. -/
theorem stages_zeroSeed : ∃ text encrypted rest,
    ofPem text = .ok zeroSeed ∧ SchemeDetails.ofPem text = .error (.notEncrypted Label.privateKey) ∧
    encryptPem text .fixture .standard (List.replicate 32 0) = some (.ok encrypted, rest) ∧
    encryptPem encrypted .fixture .scrypt [] = some (.error .alreadyEncrypted, []) ∧
    (∀ key', ofEncryptedPem text .fixture ≠ .ok key') ∧
    SchemeDetails.ofPem "" = .error (.pem "no PEM block found") := by
  obtain ⟨document, hread⟩ := exists_ofPem_zeroSeed
  have hblock := Pem.privateKeyBlock_toText_of_notMem Label.privateKey (by decide) (by decide)
    document
  have hadmitted : Protection.standard.Admitted := by decide
  obtain ⟨encrypted, rest, h⟩ := exists_encrypt_zeroSeed .fixture hadmitted
  have hencrypt : encryptPem (Pem.Block.mk Label.privateKey document).toText .fixture .standard
      (List.replicate 32 0) = some (.ok encrypted, rest) := by
    rw [encryptPem, hread]
    exact h
  have hempty : privateKeyBlock "" = .error (.pem "no PEM block found") := by
    have hframes : Pem.frames "".toList = [] := Pem.frames_eq_nil (by decide)
    rw [privateKeyBlock, Block.ofText, hframes]
    rfl
  obtain ⟨-, hfails, hboth, hagain⟩ :=
    stages_of_text (Pem.Block.mk Label.privateKey document).toText
  have hlabel : Label.privateKey ≠ Label.encryptedPrivateKey := by decide
  refine ⟨_, encrypted, rest, hread, ?_, hencrypt, ?_, ?_, ?_⟩
  · exact ((hfails _ hblock).inspect_notEncrypted_iff _).2 ⟨hlabel, rfl⟩
  · exact hagain _ _ _ _ _ hencrypt _ _ _
  · exact fun key' => hboth _ _ key' hread
  · exact ((stages_of_text "").1 _ hempty).2.2.1

/-- The text of a key on a curve that is not named. -/
def curvelessText : String :=
  (Block.mk Label.privateKey curvelessInfo.encode).toText

/-- The document of this text is what cannot be decoded, but the error is one of encoding. -/
theorem ofPem_curvelessText :
    privateKeyBlock curvelessText = .ok ⟨Label.privateKey, curvelessInfo.encode⟩ ∧
      ofPem curvelessText = .error (.encoding "AlgorithmIdentifier parameters missing") := by
  have hread : Pkcs8.PrivateKeyInfo.ofDer curvelessInfo.encode = .ok curvelessInfo :=
    Pkcs8.PrivateKeyInfo.ofDer_encode (by decide) (by decide)
  have hcurve : curvelessInfo.LacksCurve .parametersMissing := ⟨rfl, rfl⟩
  have hblock := Pem.privateKeyBlock_toText_of_notMem Label.privateKey (by decide) (by decide)
    curvelessInfo.encode
  exact ⟨hblock, ofPem_of_lacksCurve hblock ⟨rfl, curvelessInfo, hread, hcurve⟩⟩

end PrivateKey

end SealedKey
