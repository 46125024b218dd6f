import SealedKey.Proofs.Fixture.Job
import SealedKey.Proofs.Key.Contents

/-!
# Public keys of documents

A key that was read from a private key document has a public key document, unless the key is
untyped and its document holds no public key.  `PrivateKey.publicKeyDocument_of_ofPkcs8` says this,
and what the public key document has in common with the private one: the algorithm, parameters
included, and for an untyped key the public key.

A report on a key that was read never fails for lack of a public key.
-/

namespace SealedKey.PrivateKey

open Pkcs8 (PrivateKeyInfo PublicKeyInfo)

variable {document : Bytes} {info : PrivateKeyInfo} {key : PrivateKey}

/-! ## Keys with a public key document -/

theorem exists_publicKeyDocument_eq_error_iff (hread : key.WasRead) :
    (∃ error, key.publicKeyDocument = .error error) ↔ ¬ key.HasPublicKey := by
  constructor
  · rintro ⟨error, herror⟩ hpublic
    obtain ⟨bytes, hbytes⟩ := exists_publicKeyDocument hread hpublic
    cases herror.symm.trans hbytes
  · intro hpublic
    obtain ⟨reason, hreason⟩ := publicKeyDocument_eq_error hpublic
    exact ⟨_, hreason⟩

theorem exists_unsupportedAlgorithm (hread : key.WasRead) {error : Error}
    (h : key.publicKeyDocument = .error error) :
    ∃ reason, error = .unsupportedAlgorithm reason := by
  have hpublic := (exists_publicKeyDocument_eq_error_iff hread).1 ⟨error, h⟩
  obtain ⟨reason, hreason⟩ := publicKeyDocument_eq_error hpublic
  exact ⟨reason, Except.error.inj (h.symm.trans hreason)⟩

theorem not_hasPublicKey_iff (hread : PrivateKeyInfo.ofDer document = .ok info)
    (h : ofPkcs8 document = .ok key) :
    ¬ key.HasPublicKey ↔ ¬ key.IsTyped ∧ info.publicKey = none := by
  cases key with
  | untyped key =>
    obtain rfl := info_eq_of_ofPkcs8 hread h
    rw [HasPublicKey, Option.not_isSome_iff_eq_none]
    exact (and_iff_right id).symm
  | _ => exact iff_of_false (not_not.2 trivial) fun hkey => hkey.1 trivial

theorem exists_fingerprint_iff : (∃ text, key.fingerprint = .ok text) ↔
    ∃ bytes, key.publicKeyDocument = .ok bytes := by
  constructor
  · rintro ⟨text, htext⟩
    obtain ⟨bytes, hbytes, -⟩ := fingerprint_eq_ok_iff.1 htext
    exact ⟨bytes, hbytes⟩
  · rintro ⟨bytes, hbytes⟩
    exact ⟨_, fingerprint_eq_ok_iff.2 ⟨bytes, hbytes, rfl⟩⟩

theorem exists_publicKeyPem_iff : (∃ text, key.publicKeyPem = .ok text) ↔
    ∃ bytes, key.publicKeyDocument = .ok bytes := by
  constructor
  · rintro ⟨text, htext⟩
    obtain ⟨bytes, hbytes, -⟩ := Except.bind_eq_ok_iff.1 htext
    exact ⟨bytes, hbytes⟩
  · rintro ⟨bytes, hbytes⟩
    exact ⟨_, Except.bind_eq_ok_iff.2 ⟨bytes, hbytes, rfl⟩⟩

/-! ## Keys of documents -/

/-- There is no public key document exactly if the key is untyped and its document holds no public
key, and this is not an error for a report.  Otherwise, the public key document names the algorithm
of the private key document, and the public key of the document of an untyped key. -/
theorem publicKeyDocument_of_ofPkcs8 (h : ofPkcs8 document = .ok key) : ∃ info surplus,
    PrivateKeyInfo.ofDer document = .ok info ∧ document = info.encodeWith surplus ∧
    ((∃ error, key.publicKeyDocument = .error error) ↔ ¬ key.IsTyped ∧ info.publicKey = none) ∧
    (∀ error, key.publicKeyDocument = .error error →
      ∃ reason, error = .unsupportedAlgorithm reason) ∧
    (∀ bytes, key.publicKeyDocument = .ok bytes → ∃ publicInfo,
      PublicKeyInfo.ofDer bytes = .ok publicInfo ∧ bytes = publicInfo.encode ∧
        publicInfo.algorithm = info.algorithm ∧
        (¬ key.IsTyped → info.publicKey = some publicInfo.publicKey)) ∧
    ((∃ text, key.fingerprint = .ok text) ↔ ∃ bytes, key.publicKeyDocument = .ok bytes) ∧
    ((∃ text, key.publicKeyPem = .ok text) ↔ ∃ bytes, key.publicKeyDocument = .ok bytes) ∧
    ∀ message path encryption, ∀ workspace : Workspace, ∃ workspace',
      workspace.perform (Job.report message path key encryption) =
        (.ok (key.reportAt path encryption), workspace') := by
  obtain ⟨info, hinfo⟩ := exists_ofDer_of_ofPkcs8 h
  obtain ⟨-, -, surplus, -, hdocument⟩ := PrivateKeyInfo.ofDer_eq_ok_iff.1 hinfo
  have hread := wasRead_of_ofPkcs8 h
  have hnone := not_hasPublicKey_iff hinfo h
  refine ⟨info, surplus, hinfo, hdocument,
    (exists_publicKeyDocument_eq_error_iff hread).trans hnone,
    fun _ => exists_unsupportedAlgorithm hread, fun bytes hbytes => ?_,
    exists_fingerprint_iff, exists_publicKeyPem_iff, Job.perform_report hread⟩
  obtain ⟨publicInfo, hpublic, hofDer, hencode⟩ := exists_ofDer_of_publicKeyDocument hinfo h hbytes
  exact ⟨publicInfo, hofDer, hencode, algorithm_of_publicKeyInfo hinfo h hpublic,
    publicKey_of_publicKeyInfo hinfo h hpublic⟩

/-! ### An X25519 key with and without its public key -/

/-- An X25519 key with a public key, which nothing computes. -/
def x25519PairInfo : PrivateKeyInfo :=
  { x25519Info with publicKey := some (List.replicate 32 9) }

/-- The public key of a document is exported, and without one there is an error. -/
theorem publicKeyDocument_x25519 :
    (∃ key bytes, ofPkcs8 x25519PairInfo.encode = .ok key ∧ key.publicKeyDocument = .ok bytes ∧
      PublicKeyInfo.ofDer bytes = .ok ⟨⟨x25519, none⟩, List.replicate 32 9⟩) ∧
    ∃ key reason, ofPkcs8 x25519Info.encode = .ok key ∧
      key.publicKeyDocument = .error (.unsupportedAlgorithm reason) := by
  have hpair : PrivateKeyInfo.ofDer x25519PairInfo.encode = .ok x25519PairInfo :=
    PrivateKeyInfo.ofDer_encode (by decide) (by decide)
  have hsingle : PrivateKeyInfo.ofDer x25519Info.encode = .ok x25519Info :=
    PrivateKeyInfo.ofDer_encode (by decide) (by decide)
  have huntyped : x25519PairInfo.IsUntyped := ⟨isUntyped_x25519Info.ne_rsa,
    isUntyped_x25519Info.ne_ed25519, isUntyped_x25519Info.unknown_curve⟩
  constructor
  · have hkey := ofPkcs8_of_isUntyped hpair huntyped
    obtain ⟨info, -, hinfo, -, hfails, -, hexport, -⟩ := publicKeyDocument_of_ofPkcs8 hkey
    obtain rfl := Except.ok.inj (hpair.symm.trans hinfo)
    rcases hbytes : (untyped ⟨_, _, hpair⟩).publicKeyDocument with error | bytes
    · cases (hfails.1 ⟨error, hbytes⟩).2
    · obtain ⟨⟨algorithm, publicKey⟩, hpublic, -, halgorithm, hpublicKey⟩ := hexport bytes hbytes
      cases halgorithm
      cases hpublicKey id
      exact ⟨_, bytes, hkey, hbytes, hpublic⟩
  · have hkey := ofPkcs8_of_isUntyped hsingle isUntyped_x25519Info
    obtain ⟨info, -, hinfo, -, hfails, herror, -⟩ := publicKeyDocument_of_ofPkcs8 hkey
    obtain rfl := Except.ok.inj (hsingle.symm.trans hinfo)
    obtain ⟨error, hfailure⟩ := hfails.2 ⟨id, rfl⟩
    obtain ⟨reason, rfl⟩ := herror error hfailure
    exact ⟨_, reason, hkey, hfailure⟩

end SealedKey.PrivateKey
