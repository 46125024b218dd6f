import SealedKey.Fixture.Job
import SealedKey.Proofs.Fixture.Action
import SealedKey.Proofs.Key.Reread

/-!
# Jobs on a workspace

A job that ends with a report has changed at most the one file that it writes, and a job that does
not has changed nothing (`Job.run_changes_one_file`).  The second half is not obvious, since the
file is written before the report is made: it rests on `Job.total_report` and on
`PrivateKey.exists_schemeDetails_of_encrypt`, which say that a key that was read, and a text that
was just written, cannot be refused any more.

`Job.Does` says what a job does that ends with a report, and `Job.perform_run_eq_ok_iff` that it
ends with a report exactly if this can be done.
-/

namespace SealedKey

namespace PrivateKey

/-- The report on a key. -/
def reportAt (key : PrivateKey) (path : String) (encryption : Option SchemeDetails) : Report :=
  ⟨path, key.algorithm, key.fingerprint.toOption, encryption⟩

theorem fingerprint_eq_ok_iff {key : PrivateKey} {text : String} :
    key.fingerprint = .ok text ↔ ∃ document, key.publicKeyDocument = .ok document ∧
      "SHA256:" ++ String.ofList (Base64.encodeUnpadded (Hash.sha256.digest document)) = text := by
  unfold fingerprint
  simp only [Except.bind_eq_ok_iff, Except.pure_eq_ok_iff]

/-- A key that was read has a fingerprint, unless it has no public key. -/
theorem exists_fingerprint {key : PrivateKey} (hread : key.WasRead) (hpublic : key.HasPublicKey) :
    ∃ text, key.fingerprint = .ok text := by
  obtain ⟨document, hdocument⟩ := exists_publicKeyDocument hread hpublic
  exact ⟨_, fingerprint_eq_ok_iff.2 ⟨document, hdocument, rfl⟩⟩

theorem fingerprint_eq_error {key : PrivateKey} (hpublic : ¬ key.HasPublicKey) :
    ∃ reason, key.fingerprint = .error (.unsupportedAlgorithm reason) := by
  obtain ⟨reason, hreason⟩ := publicKeyDocument_eq_error hpublic
  refine ⟨reason, ?_⟩
  rw [fingerprint, hreason]
  rfl

theorem toOption_fingerprint_eq_none_iff {key : PrivateKey} (hread : key.WasRead) :
    key.fingerprint.toOption = none ↔ ¬ key.HasPublicKey := by
  by_cases hpublic : key.HasPublicKey
  · obtain ⟨text, htext⟩ := exists_fingerprint hread hpublic
    rw [htext]
    exact iff_of_false nofun (not_not.2 hpublic)
  · obtain ⟨reason, hreason⟩ := fingerprint_eq_error hpublic
    rw [hreason]
    exact iff_of_true rfl hpublic

/-- What was just encrypted can be described. -/
theorem exists_schemeDetails_of_encrypt {key : PrivateKey} (hread : key.WasRead)
    {passphrase : Passphrase} {protection : Protection} {supply rest : Bytes} {text : String}
    (h : key.encrypt passphrase protection supply = some (.ok text, rest)) :
    ∃ details, SchemeDetails.ofPem text = .ok details := by
  obtain ⟨key', _, hdecrypted, -, -⟩ := ofEncryptedPem_matches hread.isUntyped h
  exact exists_schemeDetails hdecrypted

end PrivateKey

namespace Job

open Workspace

variable {workspace workspace' : Workspace} {key : PrivateKey}

/-! ## Reports -/

theorem perform_fingerprint (hread : key.WasRead) (workspace : Workspace) :
    ∃ workspace', workspace.perform (fingerprint key) =
      (.ok key.fingerprint.toOption, workspace') := by
  by_cases hpublic : key.HasPublicKey
  · obtain ⟨text, htext⟩ := PrivateKey.exists_fingerprint hread hpublic
    refine ⟨workspace, ?_⟩
    rw [fingerprint, htext]
    rfl
  · obtain ⟨reason, hreason⟩ := PrivateKey.fingerprint_eq_error hpublic
    refine ⟨workspace.noting ⟨.debug, "key has no fingerprint", [("reason", reason)]⟩, ?_⟩
    rw [fingerprint, hreason]
    rfl

theorem keepsTree_fingerprint (key : PrivateKey) : KeepsTree (fingerprint key) := by
  unfold fingerprint
  split
  · exact keepsTree_pure _
  · exact (keepsTree_log _ _ _).bind fun _ => keepsTree_pure _
  · exact fun _ => rfl

theorem keepsTree_report (message path : String) (key : PrivateKey)
    (encryption : Option SchemeDetails) : KeepsTree (report message path key encryption) :=
  (keepsTree_fingerprint key).bind fun _ => (keepsTree_log _ _ _).bind fun _ => keepsTree_pure _

/-- There is a report on every key that was read. -/
theorem perform_report (hread : key.WasRead) (message path : String)
    (encryption : Option SchemeDetails) (workspace : Workspace) :
    ∃ workspace', workspace.perform (report message path key encryption) =
      (.ok (key.reportAt path encryption), workspace') := by
  obtain ⟨between, hfingerprint⟩ := perform_fingerprint hread workspace
  rw [report, perform_bind, hfingerprint]
  exact ⟨_, rfl⟩

theorem total_report (hread : key.WasRead) (message path : String)
    (encryption : Option SchemeDetails) : Total (report message path key encryption) :=
  fun workspace => ⟨_, perform_report hread message path encryption workspace⟩

theorem yields_report (hread : key.WasRead) (message path : String)
    (encryption : Option SchemeDetails) (workspace : Workspace) :
    workspace.Yields (report message path key encryption) (key.reportAt path encryption)
      workspace.tree := by
  obtain ⟨workspace', hreport⟩ := perform_report hread message path encryption workspace
  refine ⟨workspace', hreport, ?_⟩
  rw [← keepsTree_report message path key encryption workspace, hreport]

theorem tree_of_perform_report {message path : String} {encryption : Option SchemeDetails}
    {result : Except Stop Report}
    (h : workspace.perform (report message path key encryption) = (result, workspace')) :
    workspace'.tree = workspace.tree := by
  rw [← keepsTree_report message path key encryption workspace, h]

theorem eq_reportAt_of_perform_report (hread : key.WasRead) {message path : String}
    {encryption : Option SchemeDetails} {found : Report}
    (h : workspace.perform (report message path key encryption) = (.ok found, workspace')) :
    found = key.reportAt path encryption := by
  obtain ⟨_, hreport⟩ := perform_report hread message path encryption workspace
  rw [hreport] at h
  cases h
  rfl

/-! ## Jobs that end with a report -/

theorem perform_readKey_eq_ok_iff {path text : String} :
    workspace.perform (readKey path) = (.ok text, workspace') ↔
      workspace.tree.HoldsText path text ∧
        workspace' = workspace.noting ⟨.debug, "reading key fixture", [("path", path)]⟩ := by
  rw [readKey, perform_bind, perform_log]
  exact perform_readText_eq_ok_iff

theorem keepsTree_readKey (path : String) : KeepsTree (readKey path) :=
  (keepsTree_log _ _ _).bind fun _ => keepsTree_readText path

/-- What a job on a key does that ends with a report: the report, and the tree that is left. -/
inductive Does (job : Job) (tree : FileTree) (supply : Bytes) (key : PrivateKey) :
    Direction → Report → FileTree → Prop
  /-- The key of the plain file is encrypted. -/
  | encrypt {text encrypted : String} {rest : Bytes} {details : SchemeDetails} {tree' : FileTree}
      (hread : tree.HoldsText job.paths.plain text) (hkey : PrivateKey.ofPem text = .ok key)
      (hencrypted : key.encrypt job.passphrase job.protection supply = some (.ok encrypted, rest))
      (hwrite : tree.write job.paths.encrypted (Bytes.ofString encrypted) = .ok tree')
      (hdetails : SchemeDetails.ofPem encrypted = .ok details) :
      Does job tree supply key .encrypt (key.reportAt job.paths.encrypted (some details)) tree'
  /-- The key of the encrypted file is written as it is. -/
  | decrypt {text plain : String} {tree' : FileTree}
      (hread : tree.HoldsText job.paths.encrypted text)
      (hkey : PrivateKey.ofEncryptedPem text job.passphrase = .ok key)
      (hplain : key.toPem = .ok plain)
      (hwrite : tree.write job.paths.plain (Bytes.ofString plain) = .ok tree') :
      Does job tree supply key .decrypt (key.reportAt job.paths.plain none) tree'
  /-- The encrypted file is read. -/
  | check {text : String} {details : SchemeDetails}
      (hread : tree.HoldsText job.paths.encrypted text)
      (hdetails : SchemeDetails.ofPem text = .ok details)
      (hkey : PrivateKey.ofEncryptedPem text job.passphrase = .ok key) :
      Does job tree supply key .check (key.reportAt job.paths.encrypted (some details)) tree

/-- A job ends with a report only if it did what it has to do. -/
theorem does_of_perform_run {job : Job} {direction : Direction} {found : Report}
    (h : workspace.perform (job.run direction) = (.ok found, workspace')) :
    ∃ key, job.Does workspace.tree workspace.supply key direction found workspace'.tree := by
  cases direction with
  | encrypt =>
    obtain ⟨text, _, hstep, h⟩ := perform_bind_eq_ok_iff.1 h
    obtain ⟨hread, rfl⟩ := perform_readKey_eq_ok_iff.1 hstep
    obtain ⟨key, _, hstep, h⟩ := perform_bind_eq_ok_iff.1 h
    obtain ⟨hkey, rfl⟩ := perform_ofExcept_eq_ok_iff.1 hstep
    rw [perform_bind, perform_log] at h
    obtain ⟨encrypted, _, hstep, h⟩ := perform_bind_eq_ok_iff.1 h
    obtain ⟨rest, hencrypted, rfl⟩ := perform_ofDraw_eq_ok_iff.1 hstep
    obtain ⟨_, _, hstep, h⟩ := perform_bind_eq_ok_iff.1 h
    obtain ⟨tree', hwrite, rfl⟩ := perform_writeText_eq_ok_iff.1 hstep
    obtain ⟨details, _, hstep, h⟩ := perform_bind_eq_ok_iff.1 h
    obtain ⟨hdetails, rfl⟩ := perform_ofExcept_eq_ok_iff.1 hstep
    refine ⟨key, ?_⟩
    rw [eq_reportAt_of_perform_report (PrivateKey.wasRead_of_ofPem hkey) h,
      tree_of_perform_report h]
    exact .encrypt hread hkey hencrypted hwrite hdetails
  | decrypt =>
    obtain ⟨text, _, hstep, h⟩ := perform_bind_eq_ok_iff.1 h
    obtain ⟨hread, rfl⟩ := perform_readKey_eq_ok_iff.1 hstep
    obtain ⟨key, _, hstep, h⟩ := perform_bind_eq_ok_iff.1 h
    obtain ⟨hkey, rfl⟩ := perform_ofExcept_eq_ok_iff.1 hstep
    obtain ⟨plain, _, hstep, h⟩ := perform_bind_eq_ok_iff.1 h
    obtain ⟨hplain, rfl⟩ := perform_ofExcept_eq_ok_iff.1 hstep
    obtain ⟨_, _, hstep, h⟩ := perform_bind_eq_ok_iff.1 h
    obtain ⟨tree', hwrite, rfl⟩ := perform_writeText_eq_ok_iff.1 hstep
    refine ⟨key, ?_⟩
    rw [eq_reportAt_of_perform_report (PrivateKey.wasRead_of_ofEncryptedPem hkey) h,
      tree_of_perform_report h]
    exact .decrypt hread hkey hplain hwrite
  | check =>
    obtain ⟨text, _, hstep, h⟩ := perform_bind_eq_ok_iff.1 h
    obtain ⟨hread, rfl⟩ := perform_readKey_eq_ok_iff.1 hstep
    obtain ⟨details, _, hstep, h⟩ := perform_bind_eq_ok_iff.1 h
    obtain ⟨hdetails, rfl⟩ := perform_ofExcept_eq_ok_iff.1 hstep
    obtain ⟨key, _, hstep, h⟩ := perform_bind_eq_ok_iff.1 h
    obtain ⟨hkey, rfl⟩ := perform_ofExcept_eq_ok_iff.1 hstep
    refine ⟨key, ?_⟩
    rw [eq_reportAt_of_perform_report (PrivateKey.wasRead_of_ofEncryptedPem hkey) h,
      tree_of_perform_report h]
    exact .check hread hdetails hkey

/-- A job that can do what it has to do ends with a report. -/
theorem yields_of_does {job : Job} {direction : Direction} {found : Report} {tree' : FileTree}
    (h : job.Does workspace.tree workspace.supply key direction found tree') :
    workspace.Yields (job.run direction) found tree' := by
  cases h with
  | encrypt hread hkey hencrypted hwrite hdetails =>
    have hreport := yields_report (PrivateKey.wasRead_of_ofPem hkey)
    refine .after ?_ (perform_readKey_eq_ok_iff.2 ⟨hread, rfl⟩)
    refine .after ?_ (perform_ofExcept_eq_ok_iff.2 ⟨hkey, rfl⟩)
    refine .after ?_ (perform_log _ _ _)
    refine .after ?_ (perform_ofDraw_eq_ok_iff.2 ⟨_, hencrypted, rfl⟩)
    refine .after ?_ (perform_writeText_eq_ok_iff.2 ⟨_, hwrite, rfl⟩)
    refine .after ?_ (perform_ofExcept_eq_ok_iff.2 ⟨hdetails, rfl⟩)
    exact hreport _ _ _ _
  | decrypt hread hkey hplain hwrite =>
    have hreport := yields_report (PrivateKey.wasRead_of_ofEncryptedPem hkey)
    refine .after ?_ (perform_readKey_eq_ok_iff.2 ⟨hread, rfl⟩)
    refine .after ?_ (perform_ofExcept_eq_ok_iff.2 ⟨hkey, rfl⟩)
    refine .after ?_ (perform_ofExcept_eq_ok_iff.2 ⟨hplain, rfl⟩)
    refine .after ?_ (perform_writeText_eq_ok_iff.2 ⟨_, hwrite, rfl⟩)
    exact hreport _ _ _ _
  | check hread hdetails hkey =>
    have hreport := yields_report (PrivateKey.wasRead_of_ofEncryptedPem hkey)
    refine .after ?_ (perform_readKey_eq_ok_iff.2 ⟨hread, rfl⟩)
    refine .after ?_ (perform_ofExcept_eq_ok_iff.2 ⟨hdetails, rfl⟩)
    refine .after ?_ (perform_ofExcept_eq_ok_iff.2 ⟨hkey, rfl⟩)
    exact hreport _ _ _ _

/-- A key whose document is not close to the limit is encrypted, if the file can be written. -/
theorem exists_does_encrypt {job : Job} {tree : FileTree} {supply document : Bytes} {text : String}
    (hplain : tree.HoldsText job.paths.plain text) (hkey : PrivateKey.ofPem text = .ok key)
    (hdocument : key.essentialDocument = .ok document)
    (hshort : document.length + 216 ≤ Der.maxLength) (hadmitted : job.protection.Admitted)
    (hsupply : 32 ≤ supply.length)
    (hwrite : ∀ contents, ∃ tree', tree.write job.paths.encrypted contents = .ok tree') :
    ∃ found tree', job.Does tree supply key .encrypt found tree' := by
  obtain ⟨encrypted, rest, hencrypted⟩ :=
    key.exists_encrypt hdocument hshort job.passphrase hadmitted hsupply
  obtain ⟨tree', hwrite⟩ := hwrite (Bytes.ofString encrypted)
  obtain ⟨details, hdetails⟩ :=
    PrivateKey.exists_schemeDetails_of_encrypt (PrivateKey.wasRead_of_ofPem hkey) hencrypted
  exact ⟨_, tree', .encrypt hplain hkey hencrypted hwrite hdetails⟩

/-- The document of an Ed25519 key is not close to the limit. -/
theorem exists_does_ed25519 {job : Job} {tree : FileTree} {supply : Bytes} {text : String}
    {key : Ed25519.Key} {place : Location} (hplain : tree.HoldsText job.paths.plain text)
    (hkey : PrivateKey.ofPem text = .ok (.ed25519 key))
    (hencrypted : tree.Leads job.paths.encrypted place)
    (hfile : tree.get? place ≠ some .directory) (hadmitted : job.protection.Admitted)
    (hsupply : 32 ≤ supply.length) :
    ∃ found tree', job.Does tree supply (.ed25519 key) .encrypt found tree' := by
  obtain ⟨document, hdocument, hshort⟩ := PrivateKey.exists_essentialDocument_ed25519 key
  have hwrite (contents : Bytes) : ∃ tree', tree.write job.paths.encrypted contents = .ok tree' :=
    ⟨_, FileTree.write_eq_ok_iff.2 ⟨place, hencrypted, hfile, rfl⟩⟩
  exact exists_does_encrypt hplain hkey hdocument hshort hadmitted hsupply hwrite

/-! ## Jobs that end without a report -/

/-- A job that does not end with a report leaves the tree as it was. -/
theorem atomic_run (job : Job) (direction : Direction) : Atomic (job.run direction) := by
  cases direction with
  | encrypt =>
    refine .after_keeps (keepsTree_readKey _) fun _ text _ _ => ?_
    refine .after_keeps (keepsTree_ofExcept _) fun _ key _ hkey => ?_
    obtain ⟨hkey, -⟩ := perform_ofExcept_eq_ok_iff.1 hkey
    have hread := PrivateKey.wasRead_of_ofPem hkey
    refine .after_keeps (keepsTree_log _ _ _) fun _ _ _ _ => ?_
    refine .after_keeps (keepsTree_ofDraw _) fun _ encrypted _ hencrypted => ?_
    obtain ⟨rest, hencrypted, -⟩ := perform_ofDraw_eq_ok_iff.1 hencrypted
    obtain ⟨details, hdetails⟩ := PrivateKey.exists_schemeDetails_of_encrypt hread hencrypted
    -- what comes behind the writing cannot fail
    refine .before_total (atomic_writeText _ _) fun _ workspace => ?_
    obtain ⟨after, hreport, -⟩ := yields_report hread "wrote encrypted key fixture"
      job.paths.encrypted (some details) workspace
    rw [hdetails]
    exact ⟨_, after, hreport⟩
  | decrypt =>
    refine .after_keeps (keepsTree_readKey _) fun _ text _ _ => ?_
    refine .after_keeps (keepsTree_ofExcept _) fun _ key _ hkey => ?_
    obtain ⟨hkey, -⟩ := perform_ofExcept_eq_ok_iff.1 hkey
    have hread := PrivateKey.wasRead_of_ofEncryptedPem hkey
    refine .after_keeps (keepsTree_ofExcept _) fun _ plain _ _ => ?_
    exact .before_total (atomic_writeText _ _) fun _ => total_report hread _ _ _
  | check =>
    refine KeepsTree.atomic (.bind (keepsTree_readKey _) fun text => ?_)
    refine .bind (keepsTree_ofExcept _) fun details => .bind (keepsTree_ofExcept _) fun key => ?_
    exact keepsTree_report _ _ key _

/-! ## What changes -/

/-- A job changes at most the file that it writes, and only if it ends with a report.  Nothing that
it does after it has written the file can fail. -/
theorem run_changes_one_file (job : Job) (direction : Direction) (workspace : Workspace) :
    (∀ stop workspace', workspace.perform (job.run direction) = (.error stop, workspace') →
      workspace'.tree = workspace.tree) ∧
    (∀ found workspace', workspace.perform (job.run direction) = (.ok found, workspace') →
      match direction with
      | .encrypt => ∃ text key encrypted rest,
          workspace.tree.HoldsText job.paths.plain text ∧ PrivateKey.ofPem text = .ok key ∧
          key.encrypt job.passphrase job.protection workspace.supply =
            some (.ok encrypted, rest) ∧
          workspace.tree.Overwrites job.paths.encrypted (Bytes.ofString encrypted) workspace'.tree
      | .decrypt => ∃ text key plain,
          workspace.tree.HoldsText job.paths.encrypted text ∧
          PrivateKey.ofEncryptedPem text job.passphrase = .ok key ∧ key.toPem = .ok plain ∧
          workspace.tree.Overwrites job.paths.plain (Bytes.ofString plain) workspace'.tree
      | .check => workspace'.tree = workspace.tree) ∧
    ∀ key, ((∃ text, PrivateKey.ofPem text = .ok key) ∨
        ∃ text passphrase, PrivateKey.ofEncryptedPem text passphrase = .ok key) →
      (∀ passphrase protection supply text rest,
        key.encrypt passphrase protection supply = some (.ok text, rest) →
          ∃ details, SchemeDetails.ofPem text = .ok details) ∧
      ∀ message path encryption, Total (report message path key encryption) := by
  refine ⟨atomic_run job direction workspace, fun found workspace' h => ?_, fun key hkey => ?_⟩
  · obtain ⟨key, hdoes⟩ := does_of_perform_run h
    generalize workspace'.tree = tree' at hdoes ⊢
    cases hdoes with
    | encrypt hread hkey hencrypted hwrite _ =>
      exact ⟨_, key, _, _, hread, hkey, hencrypted, FileTree.overwrites_of_write hwrite⟩
    | decrypt hread hkey hplain hwrite =>
      exact ⟨_, key, _, hread, hkey, hplain, FileTree.overwrites_of_write hwrite⟩
    | check _ _ _ => rfl
  · have hread : key.WasRead := by
      rcases hkey with ⟨text, hkey⟩ | ⟨text, passphrase, hkey⟩
      · exact PrivateKey.wasRead_of_ofPem hkey
      · exact PrivateKey.wasRead_of_ofEncryptedPem hkey
    exact ⟨fun _ _ _ _ _ h => PrivateKey.exists_schemeDetails_of_encrypt hread h,
      total_report hread⟩

/-- The plain file of the Ed25519 key of a seed of zeros, and no encrypted file. -/
def zeroSeed (text : String) : Workspace :=
  ⟨⟨[(["p"], .file (Bytes.ofString text))], []⟩, List.replicate 32 0, []⟩

/-- The names of the two files lead into the working directory. -/
theorem leads_letters (tree : FileTree) : tree.Leads "p" ("p" :: tree.workingDirectory) ∧
    tree.Leads "e" ("e" :: tree.workingDirectory) :=
  ⟨FileTree.leads_of_notMem (by simp) (by decide) (by decide) (by decide) (by decide),
    FileTree.leads_of_notMem (by simp) (by decide) (by decide) (by decide) (by decide)⟩

theorem leads_zeroSeed (text : String) :
    (zeroSeed text).tree.Leads "p" ["p"] ∧ (zeroSeed text).tree.Leads "e" ["e"] :=
  leads_letters (zeroSeed text).tree

theorem exists_does_zeroSeed : ∃ text, (zeroSeed text).tree.HoldsText "p" text ∧
    PrivateKey.ofPem text = .ok (.ed25519 ⟨List.replicate 32 0, rfl⟩) ∧
    ∃ found tree', (Job.mk ⟨"p", "e"⟩ .fixture .standard).Does (zeroSeed text).tree
      (zeroSeed text).supply (.ed25519 ⟨List.replicate 32 0, rfl⟩) .encrypt found tree' := by
  obtain ⟨document, hkey⟩ := PrivateKey.exists_ofPem_ed25519 ⟨List.replicate 32 0, rfl⟩
  let text := (Pem.Block.mk Label.privateKey document).toText
  have hplain : (zeroSeed text).tree.HoldsText "p" text :=
    ⟨_, FileTree.read_eq_ok_iff.2 ⟨_, (leads_zeroSeed text).1, rfl⟩, Bytes.toString?_ofString text⟩
  have hsupply : 32 ≤ (List.replicate 32 0 : Bytes).length := by decide
  exact ⟨text, hplain, hkey,
    exists_does_ed25519 hplain hkey (leads_zeroSeed text).2 nofun (by decide) hsupply⟩

/-- The encryption of this key changes the encrypted file. -/
theorem run_changes_one_file_zeroSeed : ∃ text found workspace' encrypted,
    (zeroSeed text).perform ((Job.mk ⟨"p", "e"⟩ .fixture .standard).run .encrypt) =
      (.ok found, workspace') ∧
    (zeroSeed text).tree.Overwrites "e" (Bytes.ofString encrypted) workspace'.tree := by
  obtain ⟨text, -, -, found, tree', hdoes⟩ := exists_does_zeroSeed
  obtain ⟨workspace', hperform, -⟩ := yields_of_does hdoes
  obtain ⟨-, hone, -⟩ :=
    run_changes_one_file (Job.mk ⟨"p", "e"⟩ .fixture .standard) .encrypt (zeroSeed text)
  obtain ⟨_, _, encrypted, _, -, -, -, hchange⟩ := hone found workspace' hperform
  exact ⟨text, found, workspace', encrypted, hperform, hchange⟩

end Job

end SealedKey
