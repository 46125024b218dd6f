import SealedKey.Proofs.Fixture.Decryption
import SealedKey.Proofs.Key.Inspection

/-!
# What the jobs report

The check of a fixture does what its decryption does up to the point where a file is written, so the
two agree (`Job.check_agrees`): the check succeeds exactly if a key can be read, it fails with the
same error, and its report is about the same key.  It also says how the file is encrypted, and this
is how the passphrase opened it.  After an encryption, the check has the same report.

The report on an encryption depends on the key and on the protection only
(`Job.report_of_perform_encrypt`).  In particular, neither the passphrase nor the random bytes can
be seen in it (`Job.encrypt_reports_protection`).
-/

namespace SealedKey

open Workspace
open Pkcs8 (EncryptedKeyInfo)

namespace Job

variable {job : Job} {workspace workspace' : Workspace} {text : String} {key : PrivateKey}
  {found : Report}

/-! ## Checks -/

/-- A check reports the key that is read, and how it is encrypted. -/
theorem exists_perform_check (hread : workspace.tree.HoldsText job.paths.encrypted text)
    (hkey : PrivateKey.ofEncryptedPem text job.passphrase = .ok key) {details : SchemeDetails}
    (hdetails : SchemeDetails.ofPem text = .ok details) : ∃ workspace',
      workspace.perform (job.run .check) =
        (.ok (key.reportAt job.paths.encrypted (some details)), workspace') := by
  have hdoes : job.Does workspace.tree workspace.supply key .check _ _ :=
    .check hread hdetails hkey
  obtain ⟨workspace', hperform, -⟩ := yields_of_does hdoes
  exact ⟨workspace', hperform⟩

/-- A check fails with the error of the decryption, even if the text is not an encrypted one: then
the description of the text fails first, and with this error. -/
theorem exists_perform_check_of_error
    (hread : workspace.tree.HoldsText job.paths.encrypted text) {error : Error}
    (herror : PrivateKey.ofEncryptedPem text job.passphrase = .error error) : ∃ workspace',
      workspace.perform (job.run .check) = (.error (.failed error), workspace') := by
  rcases hinfo : EncryptedKeyInfo.ofPem text with cause | info
  · have hsame : PrivateKey.ofEncryptedPem text job.passphrase = .error cause := by
      rw [PrivateKey.ofEncryptedPem, hinfo]
      rfl
    obtain rfl : error = cause := Except.error.inj (herror.symm.trans hsame)
    have hread' := perform_readKey_eq_ok_iff.2 ⟨hread, rfl⟩
    have hstop (workspace : Workspace) :
        workspace.perform (Host.ofExcept (SchemeDetails.ofPem text)) =
          (.error (.failed error), workspace) := by
      rw [perform_ofExcept, SchemeDetails.ofPem_eq_error_iff.2 hinfo]
      rfl
    exact ⟨_, (perform_bind_of_ok hread').trans (perform_bind_of_error (hstop _))⟩
  · have hcheck : Direction.check ≠ .encrypt := by rintro ⟨⟩
    exact ⟨_, perform_run_of_ofEncryptedPem_eq_error hcheck hread hinfo herror⟩

/-- A job that reads the encrypted file reports the key that is read from it. -/
theorem exists_key_of_perform_run {direction : Direction} (hdirection : direction ≠ .encrypt)
    (h : workspace.perform (job.run direction) = (.ok found, workspace')) : ∃ text key,
      workspace.tree.HoldsText job.paths.encrypted text ∧
        PrivateKey.ofEncryptedPem text job.passphrase = .ok key ∧
        found.algorithm = key.algorithm ∧ found.fingerprint = key.fingerprint.toOption := by
  obtain ⟨key, hdoes⟩ := does_of_perform_run h
  generalize workspace'.tree = tree' at hdoes
  cases hdoes with
  | encrypt _ _ _ _ _ => exact absurd rfl hdirection
  | decrypt hread hkey _ _ => exact ⟨_, key, hread, hkey, rfl, rfl⟩
  | check hread _ hkey => exact ⟨_, key, hread, hkey, rfl, rfl⟩

/-- The check and the decryption of a fixture are about the same key. -/
theorem report_eq_of_perform_check {workspace'' : Workspace} {found' : Report}
    (hcheck : workspace.perform (job.run .check) = (.ok found, workspace'))
    (hdecrypt : workspace.perform (job.run .decrypt) = (.ok found', workspace'')) :
    found.algorithm = found'.algorithm ∧ found.fingerprint = found'.fingerprint := by
  obtain ⟨text, key, hread, hkey, halgorithm, hfingerprint⟩ :=
    exists_key_of_perform_run (by rintro ⟨⟩) hcheck
  obtain ⟨text', key', hread', hkey', halgorithm', hfingerprint'⟩ :=
    exists_key_of_perform_run (by rintro ⟨⟩) hdecrypt
  obtain rfl := hread.unique hread'
  obtain rfl : key = key' := Except.ok.inj (hkey.symm.trans hkey')
  exact ⟨halgorithm.trans halgorithm'.symm, hfingerprint.trans hfingerprint'.symm⟩

/-! ## Encryptions -/

/-- The report on an encryption is about the key of the plain file and the protection. -/
theorem report_of_perform_encrypt
    (h : workspace.perform (job.run .encrypt) = (.ok found, workspace')) : ∃ text key,
      workspace.tree.HoldsText job.paths.plain text ∧ PrivateKey.ofPem text = .ok key ∧
        found = key.reportAt job.paths.encrypted (some job.protection.details) := by
  obtain ⟨key, hdoes⟩ := does_of_perform_run h
  generalize workspace'.tree = tree' at hdoes
  cases hdoes with
  | encrypt hread hkey hencrypted _ hdetails =>
    cases hdetails.symm.trans (SchemeDetails.ofPem_of_encrypt hencrypted)
    exact ⟨_, key, hread, hkey, rfl⟩

/-- After an encryption, the check has the same report. -/
theorem exists_perform_check_of_encrypt
    (h : workspace.perform (job.run .encrypt) = (.ok found, workspace')) {after : Workspace}
    (hafter : after.tree = workspace'.tree) :
    ∃ after', after.perform (job.run .check) = (.ok found, after') := by
  obtain ⟨key, hdoes⟩ := does_of_perform_run h
  rw [← hafter] at hdoes
  generalize htree : after.tree = tree' at hdoes
  cases hdoes with
  | encrypt _ hkey hencrypted hwrite hdetails =>
    obtain ⟨key', -, hdecrypted, hmatches, -⟩ :=
      PrivateKey.ofEncryptedPem_matches (PrivateKey.wasRead_of_ofPem hkey).isUntyped hencrypted
    have hread := FileTree.holdsText_of_write hwrite
    rw [← htree] at hread
    have hreport (details : Option SchemeDetails) :
        key'.reportAt job.paths.encrypted details = key.reportAt job.paths.encrypted details := by
      rw [PrivateKey.reportAt, PrivateKey.reportAt, hmatches.algorithm, hmatches.fingerprint]
    rw [← hreport]
    exact exists_perform_check hread hdecrypted hdetails

/-! ## Agreement -/

/-- The check of a fixture agrees with its decryption, with the description of its file, and with
the encryption before it. -/
theorem check_agrees (job : Job) (workspace : Workspace) :
    (∀ text, workspace.tree.HoldsText job.paths.encrypted text →
      (∀ key, PrivateKey.ofEncryptedPem text job.passphrase = .ok key → ∃ details workspace',
        SchemeDetails.ofPem text = .ok details ∧ workspace.perform (job.run .check) =
          (.ok (key.reportAt job.paths.encrypted (some details)), workspace')) ∧
      ∀ error, PrivateKey.ofEncryptedPem text job.passphrase = .error error →
        ∃ workspace', workspace.perform (job.run .check) = (.error (.failed error), workspace')) ∧
    (∀ found workspace', workspace.perform (job.run .check) = (.ok found, workspace') →
      (∃ text key, workspace.tree.HoldsText job.paths.encrypted text ∧
        PrivateKey.ofEncryptedPem text job.passphrase = .ok key) ∧
      ∀ found' workspace'', workspace.perform (job.run .decrypt) = (.ok found', workspace'') →
        found.algorithm = found'.algorithm ∧ found.fingerprint = found'.fingerprint) ∧
    (∀ text passphrase key, PrivateKey.ofEncryptedPem text passphrase = .ok key →
      ∃ scheme details, passphrase.Opens text scheme key ∧
        SchemeDetails.ofPem text = .ok details ∧ details.Names scheme) ∧
    ∀ found workspace', workspace.perform (job.run .encrypt) = (.ok found, workspace') →
      ∀ after : Workspace, after.tree = workspace'.tree →
        ∃ after', after.perform (job.run .check) = (.ok found, after') := by
  refine ⟨fun text hread => ⟨fun key hkey => ?_, fun error => exists_perform_check_of_error hread⟩,
    fun found workspace' hcheck => ⟨?_, fun _ _ => report_eq_of_perform_check hcheck⟩,
    fun _ _ _ => PrivateKey.opens_of_ofEncryptedPem,
    fun _ _ h _ => exists_perform_check_of_encrypt h⟩
  · obtain ⟨details, hdetails⟩ := PrivateKey.exists_schemeDetails hkey
    obtain ⟨workspace', hperform⟩ := exists_perform_check hread hkey hdetails
    exact ⟨details, workspace', hdetails, hperform⟩
  · obtain ⟨text, key, hread, hkey, -⟩ := exists_key_of_perform_run (by rintro ⟨⟩) hcheck
    exact ⟨text, key, hread, hkey⟩

/-- The key of a seed of zeros is encrypted, and then checked with the same report. -/
theorem check_agrees_zeroSeed : ∃ text found workspace' workspace'' encrypted key scheme details,
    (zeroSeed text).perform ((Job.mk ⟨"p", "e"⟩ .fixture .standard).run .encrypt) =
      (.ok found, workspace') ∧
    workspace'.perform ((Job.mk ⟨"p", "e"⟩ .fixture .standard).run .check) =
      (.ok found, workspace'') ∧
    workspace'.tree.HoldsText "e" encrypted ∧ Passphrase.fixture.Opens encrypted scheme key ∧
    SchemeDetails.ofPem encrypted = .ok details ∧ details.Names scheme := by
  let job := Job.mk ⟨"p", "e"⟩ .fixture .standard
  obtain ⟨text, -, -, found, tree', hdoes⟩ := exists_does_zeroSeed
  obtain ⟨workspace', hencrypt, -⟩ := yields_of_does hdoes
  obtain ⟨-, -, -, hagain⟩ := check_agrees job (zeroSeed text)
  obtain ⟨workspace'', hcheck⟩ := hagain found workspace' hencrypt workspace' rfl
  obtain ⟨-, hchecked, hopens, -⟩ := check_agrees job workspace'
  obtain ⟨⟨encrypted, key, hread, hkey⟩, -⟩ := hchecked found workspace'' hcheck
  obtain ⟨scheme, details, hscheme, hdetails, hnames⟩ := hopens encrypted .fixture key hkey
  exact ⟨text, found, workspace', workspace'', encrypted, key, scheme, details, hencrypt, hcheck,
    hread, hscheme, hdetails, hnames⟩

/-! ## What a report shows -/

/-- The description of a text that was just written is that of its protection, and the reports on
two encryptions of the same text with the same protection are the same, whatever the passphrases
and the random bytes are. -/
theorem encrypt_reports_protection :
    (∀ (key : PrivateKey) (passphrase : Passphrase) (supply rest : Bytes) (text : String),
      (∀ iterations, key.encrypt passphrase (.pbkdf2 iterations) supply = some (.ok text, rest) →
        SchemeDetails.ofPem text = .ok ⟨"pbkdf2", some iterations.toNat, "aes-256-cbc"⟩) ∧
      (key.encrypt passphrase .scrypt supply = some (.ok text, rest) →
        SchemeDetails.ofPem text = .ok ⟨"scrypt", none, "aes-256-cbc"⟩)) ∧
    ∀ (paths : FixturePaths) (protection : Protection) (text : String)
      (passphrase passphrase' : Passphrase) (workspace workspace' after after' : Workspace)
      (found found' : Report),
      workspace.tree.HoldsText paths.plain text → workspace'.tree.HoldsText paths.plain text →
      workspace.perform ((Job.mk paths passphrase protection).run .encrypt) = (.ok found, after) →
      workspace'.perform ((Job.mk paths passphrase' protection).run .encrypt) =
        (.ok found', after') → found = found' := by
  refine ⟨fun key passphrase supply rest text =>
    ⟨fun iterations => SchemeDetails.ofPem_of_encrypt, SchemeDetails.ofPem_of_encrypt⟩, ?_⟩
  intro paths protection text passphrase passphrase' workspace workspace' after after' found found'
    hread hread' h h'
  obtain ⟨plain, key, hplain, hkey, rfl⟩ := report_of_perform_encrypt h
  obtain ⟨plain', key', hplain', hkey', rfl⟩ := report_of_perform_encrypt h'
  obtain rfl := hread.unique hplain
  obtain rfl := hread'.unique hplain'
  obtain rfl : key = key' := Except.ok.inj (hkey.symm.trans hkey')
  rfl

/-- The key of a seed of zeros is encrypted with any passphrase and any random bytes. -/
theorem exists_perform_encrypt_zeroSeed {supply : Bytes} (hsupply : 32 ≤ supply.length)
    (hread : (zeroSeed text).tree.HoldsText "p" text)
    (hkey : PrivateKey.ofPem text = .ok (.ed25519 ⟨List.replicate 32 0, rfl⟩))
    (passphrase : Passphrase) : ∃ found after, Workspace.perform { zeroSeed text with supply }
      ((Job.mk ⟨"p", "e"⟩ passphrase .standard).run .encrypt) = (.ok found, after) := by
  let job := Job.mk ⟨"p", "e"⟩ passphrase .standard
  let start : Workspace := { zeroSeed text with supply }
  have hadmitted : Protection.standard.Admitted := by decide
  have hfile : (zeroSeed text).tree.get? ["e"] ≠ some .directory := by rintro ⟨⟩
  obtain ⟨found, tree', hdoes⟩ :
      ∃ found tree', job.Does start.tree start.supply _ .encrypt found tree' :=
    exists_does_ed25519 hread hkey (leads_zeroSeed text).2 hfile hadmitted hsupply
  obtain ⟨after, hperform, -⟩ := yields_of_does hdoes
  exact ⟨found, after, hperform⟩

/-- Two passphrases and different random bytes give the same report. -/
theorem encrypt_reports_protection_zeroSeed : ∃ text found after after',
    (zeroSeed text).perform ((Job.mk ⟨"p", "e"⟩ .fixture .standard).run .encrypt) =
      (.ok found, after) ∧
    Workspace.perform { zeroSeed text with supply := List.replicate 32 1 }
      ((Job.mk ⟨"p", "e"⟩ (.ofString "other_password") .standard).run .encrypt) =
        (.ok found, after') := by
  obtain ⟨text, hread, hkey, -⟩ := exists_does_zeroSeed
  have hzeros : 32 ≤ (List.replicate 32 0 : Bytes).length := by decide
  have hones : 32 ≤ (List.replicate 32 1 : Bytes).length := by decide
  obtain ⟨found, after, h⟩ := exists_perform_encrypt_zeroSeed hzeros hread hkey .fixture
  obtain ⟨found', after', h'⟩ :=
    exists_perform_encrypt_zeroSeed hones hread hkey (.ofString "other_password")
  obtain rfl := encrypt_reports_protection.2 ⟨"p", "e"⟩ .standard text .fixture
    (.ofString "other_password") (zeroSeed text)
    { zeroSeed text with supply := List.replicate 32 1 } after after' found found' hread hread h h'
  exact ⟨text, found, after, after', h, h'⟩

end Job

end SealedKey
