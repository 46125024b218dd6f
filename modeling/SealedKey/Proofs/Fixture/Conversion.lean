import SealedKey.Proofs.Fixture.Decryption
import SealedKey.Proofs.Key.Export
import SealedKey.Proofs.Key.NormalForm

/-!
# Jobs on keys that cannot be written

A job has two steps that depend on more than the key that it reads: the key must have a document,
and its file must be one that can be written.  If the file can be written, then a job on a key ends
with a report exactly if the key can be written (`Job.exists_yields_decrypt_iff`), or encrypted
(`Job.exists_yields_encrypt_iff`).  So the check of an encrypted file does not say that the file can
be decrypted: it reads the key, and no more.

`Job.outcomes_of_export` puts this together with `PrivateKey.Exportable`.
-/

namespace SealedKey

open Workspace

namespace Job

variable {job : Job} {workspace : Workspace} {text : String} {key : PrivateKey}

/-- A key that is read from the encrypted file can be decrypted if it can be written. -/
theorem exists_yields_decrypt_iff (hread : workspace.tree.HoldsText job.paths.encrypted text)
    (hkey : PrivateKey.ofEncryptedPem text job.passphrase = .ok key)
    (hwrite : ∀ contents, ∃ tree', workspace.tree.write job.paths.plain contents = .ok tree') :
    (∃ found tree', workspace.Yields (job.run .decrypt) found tree') ↔ key.Exportable := by
  rw [← PrivateKey.exists_toPem_iff]
  constructor
  · rintro ⟨found, tree', workspace', hperform, rfl⟩
    obtain ⟨key', hdoes⟩ := does_of_perform_run hperform
    generalize workspace'.tree = tree' at hdoes
    cases hdoes with
    | decrypt hread' hkey' hplain _ =>
      obtain rfl := hread.unique hread'
      obtain rfl : key = key' := Except.ok.inj (hkey.symm.trans hkey')
      exact ⟨_, hplain⟩
  · rintro ⟨plain, hplain⟩
    obtain ⟨tree', hwrite⟩ := hwrite (Bytes.ofString plain)
    exact ⟨_, tree', yields_of_does (.decrypt hread hkey hplain hwrite)⟩

/-- A key that is read from the plain file is encrypted if it can be. -/
theorem exists_yields_encrypt_iff (hread : workspace.tree.HoldsText job.paths.plain text)
    (hkey : PrivateKey.ofPem text = .ok key) (hadmitted : job.protection.Admitted)
    (hsupply : 32 ≤ workspace.supply.length)
    (hwrite : ∀ contents, ∃ tree', workspace.tree.write job.paths.encrypted contents = .ok tree') :
    (∃ found tree', workspace.Yields (job.run .encrypt) found tree') ↔
      key.Encryptable job.protection := by
  rw [← PrivateKey.exists_encrypt_iff hadmitted hsupply job.passphrase]
  constructor
  · rintro ⟨found, tree', workspace', hperform, rfl⟩
    obtain ⟨key', hdoes⟩ := does_of_perform_run hperform
    generalize workspace'.tree = tree' at hdoes
    cases hdoes with
    | encrypt hread' hkey' hencrypted _ _ =>
      obtain rfl := hread.unique hread'
      obtain rfl : key = key' := Except.ok.inj (hkey.symm.trans hkey')
      exact ⟨_, _, hencrypted⟩
  · rintro ⟨encrypted, rest, hencrypted⟩
    obtain ⟨tree', hwrite⟩ := hwrite (Bytes.ofString encrypted)
    obtain ⟨details, hdetails⟩ :=
      PrivateKey.exists_schemeDetails_of_encrypt (PrivateKey.wasRead_of_ofPem hkey) hencrypted
    exact ⟨_, tree', yields_of_does (.encrypt hread hkey hencrypted hwrite hdetails)⟩

/-- What follows for a key, and for the jobs on its files, from whether the key can be written. -/
theorem outcomes_of_export :
    (∀ key : PrivateKey,
      (key.Exportable → ∃ document, key.toPkcs8 = .ok document ∧
        key.toPem = .ok (Pem.Block.mk Label.privateKey document).toText) ∧
      (¬ key.Exportable → ∃ cause : KeyError, key.toPkcs8 = .error (.encoding cause.message) ∧
        key.toPem = .error (.encoding cause.message))) ∧
    (∀ (job : Job) (workspace workspace' : Workspace) (found : Report),
      workspace.perform (job.run .check) = (.ok found, workspace') →
      (∀ contents, ∃ tree', workspace.tree.write job.paths.plain contents = .ok tree') →
        ∃ text key, workspace.tree.HoldsText job.paths.encrypted text ∧
          PrivateKey.ofEncryptedPem text job.passphrase = .ok key ∧
          ((∃ found' tree', workspace'.Yields (job.run .decrypt) found' tree') ↔
            key.Exportable)) ∧
    ∀ (job : Job) (workspace : Workspace) (text : String) (key : PrivateKey),
      workspace.tree.HoldsText job.paths.plain text → PrivateKey.ofPem text = .ok key →
      job.protection.Admitted → 32 ≤ workspace.supply.length →
      (∀ contents, ∃ tree', workspace.tree.write job.paths.encrypted contents = .ok tree') →
        ((∃ found tree', workspace.Yields (job.run .encrypt) found tree') ↔
          key.Encryptable job.protection) := by
  refine ⟨fun key => ⟨fun hkey => ?_, fun hkey => ?_⟩,
    fun job workspace workspace' found h hwrite => ?_,
    fun _ _ _ _ => exists_yields_encrypt_iff⟩
  · obtain ⟨document, hdocument⟩ := hkey.exists_toPkcs8
    exact ⟨document, hdocument, PrivateKey.toPem_of_toPkcs8 hdocument⟩
  · obtain ⟨cause, hcause⟩ := PrivateKey.exists_toPkcs8_eq_error hkey
    exact ⟨cause, hcause, PrivateKey.toPem_of_toPkcs8_eq_error hcause⟩
  · obtain ⟨key, hdoes⟩ := does_of_perform_run h
    generalize htree : workspace'.tree = tree' at hdoes
    cases hdoes with
    | check hread _ hkey =>
      refine ⟨_, key, hread, hkey, exists_yields_decrypt_iff ?_ hkey ?_⟩
      · rwa [htree]
      · rwa [htree]

/-- The key of a seed of zeros is encrypted from its plain file, and decrypted from its encrypted
file. -/
theorem outcomes_of_export_zeroSeed :
    (∃ text found tree', (zeroSeed text).Yields
      ((Job.mk ⟨"p", "e"⟩ .fixture .standard).run .encrypt) found tree') ∧
    ∃ text found workspace' found' tree',
      (encryptedFile text).perform ((Job.mk ⟨"p", "e"⟩ .fixture .standard).run .check) =
        (.ok found, workspace') ∧
      workspace'.Yields ((Job.mk ⟨"p", "e"⟩ .fixture .standard).run .decrypt) found' tree' := by
  let job := Job.mk ⟨"p", "e"⟩ .fixture .standard
  obtain ⟨-, hdecrypts, hencrypts⟩ := outcomes_of_export
  obtain ⟨text, hplain, hkey, -⟩ := exists_does_zeroSeed
  have hadmitted : job.protection.Admitted := by decide
  have hsupply : 32 ≤ (List.replicate 32 0 : Bytes).length := by decide
  obtain ⟨encrypted, rest, hencrypted⟩ := PrivateKey.exists_encrypt_zeroSeed .fixture hadmitted
  refine ⟨⟨text, ?_⟩, encrypted, ?_⟩
  · have hwrite (contents : Bytes) : ∃ tree', (zeroSeed text).tree.write "e" contents = .ok tree' :=
      ⟨_, FileTree.write_eq_ok_iff.2 ⟨_, (leads_zeroSeed text).2, by rintro ⟨⟩, rfl⟩⟩
    exact (hencrypts job (zeroSeed text) text _ hplain hkey hadmitted hsupply hwrite).2
      ((PrivateKey.exists_encrypt_iff hadmitted hsupply .fixture).1 ⟨encrypted, rest, hencrypted⟩)
  · have htyped : PrivateKey.zeroSeed.IsTyped := trivial
    obtain ⟨hdecrypted, -⟩ := PrivateKey.ofEncryptedPem_of_encrypt htyped hencrypted
    obtain ⟨details, hdetails⟩ := PrivateKey.exists_schemeDetails hdecrypted
    have hread := holdsText_encryptedFile encrypted
    have hcheck : job.Does (encryptedFile encrypted).tree (encryptedFile encrypted).supply
        PrivateKey.zeroSeed .check _ _ := .check hread hdetails hdecrypted
    obtain ⟨workspace', hperform, -⟩ := yields_of_does hcheck
    obtain ⟨hplain', -⟩ := leads_letters (encryptedFile encrypted).tree
    have hwrite (contents : Bytes) :
        ∃ tree', (encryptedFile encrypted).tree.write "p" contents = .ok tree' :=
      ⟨_, FileTree.write_eq_ok_iff.2 ⟨_, hplain', by rintro ⟨⟩, rfl⟩⟩
    obtain ⟨text', key, hread', hkey', hiff⟩ :=
      hdecrypts job (encryptedFile encrypted) workspace' _ hperform hwrite
    obtain rfl := hread.unique hread'
    obtain rfl : PrivateKey.zeroSeed = key := Except.ok.inj (hdecrypted.symm.trans hkey')
    obtain ⟨found', tree', hyields⟩ := hiff.2 trivial
    exact ⟨_, workspace', found', tree', hperform, hyields⟩

end Job

end SealedKey
