import SealedKey.Proofs.Fixture.Job
import SealedKey.Proofs.Key.Decryption

/-!
# Jobs that cannot decrypt

A job that reads the encrypted file stops with the error of its decryption, before it writes
anything (`Job.perform_run_of_ofEncryptedPem_eq_error`).  For an encrypted private key, this is an
error of decryption, unless a key on a curve that is not named is hidden in it
(`Job.outcomes_of_decryption`).
-/

namespace SealedKey

open Pkcs8 (EncryptedKeyInfo)

namespace Job

open Workspace

/-- A job whose encrypted file cannot be decrypted stops there, and has done nothing but to note
that it reads the file. -/
theorem perform_run_of_ofEncryptedPem_eq_error {job : Job} {direction : Direction}
    {workspace : Workspace} {text : String} {info : EncryptedKeyInfo} {error : Error}
    (hdirection : direction ≠ .encrypt) (hread : workspace.tree.HoldsText job.paths.encrypted text)
    (hinfo : EncryptedKeyInfo.ofPem text = .ok info)
    (herror : PrivateKey.ofEncryptedPem text job.passphrase = .error error) :
    workspace.perform (job.run direction) = (.error (.failed error),
      workspace.noting ⟨.debug, "reading key fixture", [("path", job.paths.encrypted)]⟩) := by
  have hread' := perform_readKey_eq_ok_iff.2 ⟨hread, rfl⟩
  have hstop (workspace : Workspace) :
      workspace.perform (Host.ofExcept (PrivateKey.ofEncryptedPem text job.passphrase)) =
        (.error (.failed error), workspace) := by
    rw [perform_ofExcept, herror]
    rfl
  cases direction with
  | encrypt => exact absurd rfl hdirection
  | decrypt => exact (perform_bind_of_ok hread').trans (perform_bind_of_error (hstop _))
  | check =>
    have hdetails : SchemeDetails.ofPem text = .ok (.ofScheme info.scheme) := by
      rw [SchemeDetails.ofPem, hinfo]
      rfl
    have hdescribe (workspace : Workspace) :
        workspace.perform (Host.ofExcept (SchemeDetails.ofPem text)) =
          (.ok (.ofScheme info.scheme), workspace) :=
      perform_ofExcept_eq_ok_iff.2 ⟨hdetails, rfl⟩
    exact (perform_bind_of_ok hread').trans
      ((perform_bind_of_ok (hdescribe _)).trans (perform_bind_of_error (hstop _)))

/-- The outcomes of the decryption of an encrypted private key, and of the jobs on its file: a key
or an error of decryption, if no key on a curve that is not named is hidden in it. -/
theorem outcomes_of_decryption {text : String} {block : Pem.Block} {info : EncryptedKeyInfo}
    (hblock : Pem.privateKeyBlock text = .ok block)
    (hlabel : block.label = Label.encryptedPrivateKey)
    (hinfo : EncryptedKeyInfo.ofDer block.contents = .ok info) (passphrase : Passphrase) :
    ((∀ cause, ¬ info.HidesCurveless passphrase cause) →
      (∃ key, PrivateKey.ofEncryptedPem text passphrase = .ok key) ∨
        ∃ reason, PrivateKey.ofEncryptedPem text passphrase = .error (.decryption reason)) ∧
    (∀ cause, info.HidesCurveless passphrase cause →
      PrivateKey.ofEncryptedPem text passphrase = .error (.encoding cause.message)) ∧
    ∀ (job : Job) (direction : Direction) (workspace : Workspace) (error : Error),
      job.passphrase = passphrase → direction ≠ .encrypt →
      workspace.tree.HoldsText job.paths.encrypted text →
      PrivateKey.ofEncryptedPem text passphrase = .error error →
        workspace.perform (job.run direction) = (.error (.failed error),
          workspace.noting ⟨.debug, "reading key fixture", [("path", job.paths.encrypted)]⟩) := by
  have hpem := EncryptedKeyInfo.ofPem_of_privateKeyBlock hblock hlabel hinfo
  refine ⟨fun hcurve => ?_, fun cause => PrivateKey.ofEncryptedPem_of_hidesCurveless hpem, ?_⟩
  · rcases hresult : PrivateKey.ofEncryptedPem text passphrase with error | key
    · right
      obtain ⟨reason, rfl⟩ | ⟨cause, hhidden, -⟩ :=
        PrivateKey.ofEncryptedPem_eq_error hpem hresult
      · exact ⟨reason, rfl⟩
      · exact absurd hhidden (hcurve cause)
    · exact .inl ⟨key, rfl⟩
  · rintro job direction workspace error rfl hdirection hread herror
    exact perform_run_of_ofEncryptedPem_eq_error hdirection hread hpem herror

/-! ### A key on a curve that is not named -/

/-- An encrypted private key in which such a key is hidden. -/
theorem exists_curvelessPem : ∃ text contents info,
    PrivateKey.encryptedPem .standard (List.replicate 16 0) (List.replicate 16 0) .fixture
      PrivateKey.curvelessInfo.encode = .ok text ∧
    Pem.privateKeyBlock text = .ok ⟨Label.encryptedPrivateKey, contents⟩ ∧
    EncryptedKeyInfo.ofDer contents = .ok info ∧
    info.HidesCurveless .fixture .parametersMissing := by
  have hread : Pkcs8.PrivateKeyInfo.ofDer PrivateKey.curvelessInfo.encode =
      .ok PrivateKey.curvelessInfo := Pkcs8.PrivateKeyInfo.ofDer_encode (by decide) (by decide)
  have hsequence := EncryptedKeyInfo.readSequence_of_ofDer hread
  have hzeros : (List.replicate 16 0 : Bytes).length = 16 := List.length_replicate
  have hadmitted : Protection.standard.Admitted := by decide
  have hshort : PrivateKey.curvelessInfo.encode.length + 216 ≤ Der.maxLength := by decide
  obtain ⟨text, htext⟩ := PrivateKey.exists_encryptedPem hadmitted hzeros hzeros .fixture hshort
  obtain ⟨-, encrypted, hencrypted, hlength, rfl⟩ := PrivateKey.encryptedPem_eq_ok_iff.1 htext
  have hinfo := EncryptedKeyInfo.ofDer_encode
    (Protection.standard.readable_scheme _ hzeros) hlength
  exact ⟨_, _, _, htext, EncryptedKeyInfo.privateKeyBlock_toText _, hinfo, _, _,
    EncryptedKeyInfo.decrypt_of_encrypt hencrypted hsequence, hread, rfl, rfl⟩

/-- The workspace with this text in the encrypted file `e`. -/
def encryptedFile (text : String) : Workspace :=
  ⟨⟨[(["e"], .file (Bytes.ofString text))], []⟩, [], []⟩

theorem holdsText_encryptedFile (text : String) :
    (encryptedFile text).tree.HoldsText "e" text := by
  obtain ⟨-, hleads⟩ := leads_letters (encryptedFile text).tree
  exact ⟨_, FileTree.read_eq_ok_iff.2 ⟨_, hleads, rfl⟩, Bytes.toString?_ofString text⟩

/-- The check of a file with this text stops with the encoding error. -/
theorem check_curvelessPem : ∃ text workspace',
    (encryptedFile text).perform ((Job.mk ⟨"p", "e"⟩ .fixture .standard).run .check) =
      (.error (.failed (.encoding "AlgorithmIdentifier parameters missing")), workspace') := by
  obtain ⟨text, contents, info, -, hblock, hinfo, hhidden⟩ := exists_curvelessPem
  obtain ⟨-, hencoding, hjobs⟩ := outcomes_of_decryption hblock rfl hinfo .fixture
  exact ⟨text, _, hjobs (Job.mk ⟨"p", "e"⟩ .fixture .standard) .check (encryptedFile text) _ rfl
    nofun (holdsText_encryptedFile text) (hencoding _ hhidden)⟩

/-- Such a text is an encrypted private key, but its decryption gives neither a key nor an error of
decryption. -/
theorem ofEncryptedPem_curvelessPem : ∃ text block info,
    PrivateKey.encryptedPem .standard (List.replicate 16 0) (List.replicate 16 0) .fixture
      PrivateKey.curvelessInfo.encode = .ok text ∧
    Pem.privateKeyBlock text = .ok block ∧ block.label = Label.encryptedPrivateKey ∧
    EncryptedKeyInfo.ofDer block.contents = .ok info ∧
    PrivateKey.ofEncryptedPem text .fixture =
      .error (.encoding "AlgorithmIdentifier parameters missing") := by
  obtain ⟨text, contents, info, htext, hblock, hinfo, hhidden⟩ := exists_curvelessPem
  have hpem := EncryptedKeyInfo.ofPem_of_privateKeyBlock hblock rfl hinfo
  exact ⟨text, _, info, htext, hblock, rfl, hinfo,
    PrivateKey.ofEncryptedPem_of_hidesCurveless hpem hhidden⟩

end Job

end SealedKey
