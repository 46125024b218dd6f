import SealedKey.Proofs.Key.FirstCurve
import SealedKey.Proofs.Key.Inspection
import SealedKey.Proofs.Key.NormalForm
import SealedKey.Proofs.Key.RoundTrip
import SealedKey.Proofs.Key.Stages
import SealedKey.Proofs.Key.Truncation

/-!
# Bytes behind a document

An untyped key keeps the bytes that it was read from, so bytes that a reader did not look at would
be written out again with the key.  `PrivateKey.decoding_of_surplus` says that there are no such
bytes: a document of a key, of any container, is refused with any bytes behind it.

All containers are one sequence, and no sequence is the start of a longer one
(`Der.Reader.exists_error_of_run_sequence`).  For a key on a curve the document is tried with every
curve, but none of them gets beyond the sequence.
-/

namespace SealedKey

open Pem (Block privateKeyBlock)
open Pkcs8 (EncryptedKeyInfo)

variable {document surplus : Bytes}

/-! ## The containers -/

namespace PrivateKey

variable {key : PrivateKey}

theorem ofPkcs8_append (h : ofPkcs8 document = .ok key) (hsurplus : surplus ≠ []) :
    ∃ reason, ofPkcs8 (document ++ surplus) = .error (.decoding reason) := by
  obtain ⟨info, hread⟩ := exists_ofDer_of_ofPkcs8 h
  obtain ⟨cause, hcause⟩ := Der.Reader.exists_error_of_run_sequence hread hsurplus
  exact ⟨_, ofPkcs8_of_ofDer_eq_error hcause⟩

theorem ofPkcs1_append (h : ofPkcs1 document = .ok key) (hsurplus : surplus ≠ []) :
    ∃ reason, ofPkcs1 (document ++ surplus) = .error (.decoding reason) := by
  obtain ⟨key', hkey', -⟩ := Except.map_eq_ok_iff.1 (Except.mapError_eq_ok_iff.1 h)
  obtain ⟨numbers, hread, -⟩ := Except.bind_eq_ok_iff.1 hkey'
  rw [Except.mapError_eq_ok_iff] at hread
  obtain ⟨cause, hcause⟩ := Der.Reader.exists_error_of_run_sequence hread hsurplus
  have hextended : Rsa.Document.ofDer (document ++ surplus) = .error cause := hcause
  refine ⟨(KeyError.der cause).message, ?_⟩
  rw [ofPkcs1, Rsa.Key.ofPkcs1, hextended]
  rfl

theorem ofSec1_append (h : ofSec1 document = .ok key) (hsurplus : surplus ≠ []) :
    ∃ reason, ofSec1 (document ++ surplus) = .error (.decoding reason) := by
  cases hextended : ofSec1 (document ++ surplus) with
  | error error =>
    obtain ⟨reason, rfl⟩ := exists_decoding_of_ofSec1 hextended
    exact ⟨reason, rfl⟩
  | ok key' =>
    -- a curve that took the longer document would have read it to its end
    obtain ⟨_, _, hread, -⟩ := ofSec1_eq_ok_iff_holdsFirst.1 h
    obtain ⟨_, _, hread', -⟩ := ofSec1_eq_ok_iff_holdsFirst.1 hextended
    obtain ⟨cause, hcause⟩ := Der.Reader.exists_error_of_run_sequence hread hsurplus
    have hboth := hread'.symm.trans hcause
    cases hboth

end PrivateKey

/-! ## Texts -/

variable {text extended label : String}

theorem Pkcs8.EncryptedKeyInfo.ofPem_append {info : EncryptedKeyInfo}
    (htext : privateKeyBlock text = .ok ⟨label, document⟩)
    (hextended : privateKeyBlock extended = .ok ⟨label, document ++ surplus⟩)
    (h : ofPem text = .ok info) (hsurplus : surplus ≠ []) :
    ∃ reason, ofPem extended = .error (.decoding reason) := by
  obtain ⟨contents, hblock, hinfo⟩ := ofPem_eq_ok_iff.1 h
  rw [htext, Except.ok.injEq, Block.mk.injEq] at hblock
  obtain ⟨rfl, rfl⟩ := hblock
  obtain ⟨cause, hcause⟩ := Der.Reader.exists_error_of_run_sequence hinfo hsurplus
  cases hread : ofPem extended with
  | error error =>
    obtain ⟨reason, rfl⟩ := exists_decoding_of_ofPem hextended rfl hread
    exact ⟨reason, rfl⟩
  | ok info' =>
    obtain ⟨contents', hblock', hinfo'⟩ := ofPem_eq_ok_iff.1 hread
    rw [hextended, Except.ok.injEq, Block.mk.injEq] at hblock'
    rw [← hblock'.2] at hinfo'
    have hboth := hinfo'.symm.trans hcause
    cases hboth

namespace PrivateKey

theorem ofPem_append {key : PrivateKey} (htext : privateKeyBlock text = .ok ⟨label, document⟩)
    (hextended : privateKeyBlock extended = .ok ⟨label, document ++ surplus⟩)
    (h : ofPem text = .ok key) (hsurplus : surplus ≠ []) :
    ∃ reason, ofPem extended = .error (.decoding reason) := by
  obtain ⟨bytes, ⟨hblock, hkey⟩ | ⟨hblock, hkey⟩ | ⟨hblock, hkey⟩⟩ := ofPem_eq_ok_iff.1 h
  all_goals
    rw [htext, Except.ok.injEq, Block.mk.injEq] at hblock
    obtain ⟨rfl, rfl⟩ := hblock
  · rw [ofPem_of_privateKey hextended]
    exact ofPkcs8_append hkey hsurplus
  · rw [ofPem_of_rsaPrivateKey hextended]
    exact ofPkcs1_append hkey hsurplus
  · rw [ofPem_of_ecPrivateKey hextended]
    exact ofSec1_append hkey hsurplus

/-- A text whose private key block holds a document that is read and more bytes behind it cannot be
decoded.  For an encrypted document this does not depend on the passphrase, and the details of its
scheme cannot be read either. -/
theorem decoding_of_surplus (hsurplus : surplus ≠ [])
    (htext : privateKeyBlock text = .ok ⟨label, document⟩)
    (hextended : privateKeyBlock extended = .ok ⟨label, document ++ surplus⟩) :
    (∀ key, ofPem text = .ok key → ∃ reason, ofPem extended = .error (.decoding reason)) ∧
    ∀ passphrase key, ofEncryptedPem text passphrase = .ok key →
      (∀ other, ∃ reason, ofEncryptedPem extended other = .error (.decoding reason)) ∧
        ∃ reason, SchemeDetails.ofPem extended = .error (.decoding reason) := by
  refine ⟨fun key h => ofPem_append htext hextended h hsurplus, fun passphrase key h => ?_⟩
  obtain ⟨info, hinfo, -⟩ := Except.bind_eq_ok_iff.1 h
  obtain ⟨reason, hreason⟩ :=
    EncryptedKeyInfo.ofPem_append htext hextended hinfo hsurplus
  refine ⟨fun other => ⟨reason, ?_⟩, reason, SchemeDetails.ofPem_eq_error_iff.2 hreason⟩
  rw [ofEncryptedPem, hreason]
  rfl

/-- A zero byte behind the document of a key of each container, and behind the encrypted document of
a key. -/
theorem decoding_of_surplus_zero :
    (∃ document, ofPem (Block.mk Label.privateKey document).toText = .ok zeroSeed ∧
      ∃ reason, ofPem (Block.mk Label.privateKey (document ++ [0])).toText =
        .error (.decoding reason)) ∧
    (∃ reason, ofPem (Block.mk Label.rsaPrivateKey (rsaDocument15.encode ++ [0])).toText =
      .error (.decoding reason)) ∧
    (∃ reason, ofPem (Block.mk Label.ecPrivateKey (shortEcKey ++ [0])).toText =
      .error (.decoding reason)) ∧
    ∃ document, ofEncryptedPem (Block.mk Label.encryptedPrivateKey document).toText .fixture =
        .ok zeroSeed ∧
      ∃ reason, SchemeDetails.ofPem
        (Block.mk Label.encryptedPrivateKey (document ++ [0])).toText =
          .error (.decoding reason) := by
  have hplain := Pem.privateKeyBlock_toText_of_notMem Label.privateKey (by decide) (by decide)
  have hrsa := Pem.privateKeyBlock_toText_of_notMem Label.rsaPrivateKey (by decide) (by decide)
  have hec := Pem.privateKeyBlock_toText_of_notMem Label.ecPrivateKey (by decide) (by decide)
  have hencrypted :=
    Pem.privateKeyBlock_toText_of_notMem Label.encryptedPrivateKey (by decide) (by decide)
  have hne : ([0] : Bytes) ≠ [] := by decide
  refine ⟨?_, ?_, ?_, ?_⟩
  · obtain ⟨document, hkey⟩ := exists_ofPem_zeroSeed
    exact ⟨document, hkey, (decoding_of_surplus hne (hplain _) (hplain _)).1 _ hkey⟩
  · have hkey := ofPkcs1_of_rsa ofPkcs1_rsaKey15
    rw [← ofPem_of_rsaPrivateKey (hrsa _)] at hkey
    exact (decoding_of_surplus hne (hrsa _) (hrsa _)).1 _ hkey
  · obtain ⟨key, -, hkey⟩ := ofSec1_shortEcKey
    rw [← ofPem_of_ecPrivateKey (hec _)] at hkey
    exact (decoding_of_surplus hne (hec _) (hec _)).1 _ hkey
  · have hadmitted : Protection.standard.Admitted := by decide
    have htyped : zeroSeed.IsTyped := trivial
    obtain ⟨text, rest, htext⟩ := exists_encrypt_zeroSeed .fixture hadmitted
    obtain ⟨hkey, -⟩ := ofEncryptedPem_of_encrypt htyped htext
    obtain ⟨document, rfl⟩ := exists_block_of_encrypt htext
    exact ⟨document, hkey,
      ((decoding_of_surplus hne (hencrypted _) (hencrypted _)).2 _ _ hkey).2⟩

end PrivateKey

end SealedKey
