import SealedKey.Proofs.Fixture.Job

/-!
# Fixtures over many jobs

Jobs that run one after the other on the same two files, in any order, keep the key
(`FixturePaths.keeps_key`).

* `FixturePaths.Sound` is the invariant: the two files hold keys that match, and they are two files.
* `FixturePaths.Sealed` holds from the first encryption on: the encrypted file is there, and its
  key can be written.
* One job keeps them (`Sound.of_does`, `Sealed.of_does`), so all jobs do (`sound_after`,
  `sealed_after`).
-/

namespace SealedKey

open Workspace

/-! ## Turns -/

/-- One of many jobs on a fixture, with its own protection and random bytes. -/
structure Turn where
  direction : Direction
  protection : Protection
  supply : Bytes

namespace FixturePaths

/-- How the job of a turn ends, and the workspace that it leaves. -/
def take (paths : FixturePaths) (passphrase : Passphrase) (workspace : Workspace) (turn : Turn) :
    Except Stop Report × Workspace :=
  { workspace with supply := turn.supply }.perform
    ((Job.mk paths passphrase turn.protection).run turn.direction)

/-- The workspace after some turns. -/
def after (paths : FixturePaths) (passphrase : Passphrase) (workspace : Workspace)
    (turns : List Turn) : Workspace :=
  turns.foldl (fun workspace turn => (paths.take passphrase workspace turn).2) workspace

/-! ## The invariant -/

/-- The two files of a fixture hold a key: the plain file does, and the encrypted one does if it can
be read. -/
structure Sound (paths : FixturePaths) (passphrase : Passphrase) (key : PrivateKey)
    (tree : FileTree) : Prop where
  apart : tree.Apart paths.plain paths.encrypted
  plain : ∃ text key', tree.HoldsText paths.plain text ∧ PrivateKey.ofPem text = .ok key' ∧
    key.Matches key'
  encrypted (contents : Bytes) (h : tree.read paths.encrypted = .ok contents) :
    ∃ text key', Bytes.toString? contents = some text ∧
      PrivateKey.ofEncryptedPem text passphrase = .ok key' ∧ key.Matches key'

/-- The encrypted file of a fixture holds a key that can be written. -/
def Sealed (paths : FixturePaths) (passphrase : Passphrase) (tree : FileTree) : Prop :=
  ∃ text key plain, tree.HoldsText paths.encrypted text ∧
    PrivateKey.ofEncryptedPem text passphrase = .ok key ∧ key.toPem = .ok plain

variable {paths : FixturePaths} {passphrase : Passphrase} {key key' : PrivateKey}
  {tree tree' : FileTree} {protection : Protection} {supply : Bytes} {direction : Direction}
  {found : Report}

/-- The encrypted file of a sound fixture holds a key that matches. -/
theorem Sound.matches_encrypted (h : paths.Sound passphrase key tree) {text : String}
    (hread : tree.HoldsText paths.encrypted text)
    (hkey : PrivateKey.ofEncryptedPem text passphrase = .ok key') : key.Matches key' := by
  obtain ⟨contents, hcontents, htext⟩ := hread
  obtain ⟨text', key'', htext', hkey'', hmatches⟩ := h.encrypted contents hcontents
  obtain rfl : text = text' := Option.some.inj (htext.symm.trans htext')
  obtain rfl : key' = key'' := Except.ok.inj (hkey.symm.trans hkey'')
  exact hmatches

/-- A job on a sound fixture is about a key that matches. -/
theorem Sound.matches_of_does (h : paths.Sound passphrase key tree)
    (hdoes : (Job.mk paths passphrase protection).Does tree supply key' direction found tree') :
    key.Matches key' := by
  cases hdoes with
  | encrypt hread hkey _ _ _ =>
    obtain ⟨text, key'', htext, hkey'', hmatches⟩ := h.plain
    obtain rfl := htext.unique hread
    obtain rfl : key' = key'' := Except.ok.inj (hkey.symm.trans hkey'')
    exact hmatches
  | decrypt hread hkey _ _ => exact h.matches_encrypted hread hkey
  | check hread _ hkey => exact h.matches_encrypted hread hkey

/-- The report of a job on a sound fixture is about a key that matches. -/
theorem Sound.report_of_does (h : paths.Sound passphrase key tree)
    (hdoes : (Job.mk paths passphrase protection).Does tree supply key' direction found tree') :
    found.algorithm = key.algorithm ∧ found.fingerprint = key.fingerprint.toOption := by
  have hmatches := h.matches_of_does hdoes
  have hreport : found.algorithm = key'.algorithm ∧
      found.fingerprint = key'.fingerprint.toOption := by
    cases hdoes with
    | encrypt _ _ _ _ _ => exact ⟨rfl, rfl⟩
    | decrypt _ _ _ _ => exact ⟨rfl, rfl⟩
    | check _ _ _ => exact ⟨rfl, rfl⟩
  rw [hreport.1, hreport.2, hmatches.algorithm, hmatches.fingerprint]
  exact ⟨rfl, rfl⟩

/-- A job keeps a fixture sound. -/
theorem Sound.of_does (h : paths.Sound passphrase key tree)
    (hdoes : (Job.mk paths passphrase protection).Does tree supply key' direction found tree') :
    paths.Sound passphrase key tree' := by
  have hmatches := h.matches_of_does hdoes
  cases hdoes with
  | encrypt hread hkey hencrypted hwrite _ =>
    refine ⟨(FileTree.sameDirectories_of_write hwrite).apart_iff.2 h.apart, ?_, ?_⟩
    · exact ⟨_, key', (FileTree.holdsText_of_write_iff hwrite h.apart.symm).2 hread, hkey, hmatches⟩
    · intro contents hcontents
      rw [(FileTree.overwrites_of_write hwrite).read] at hcontents
      cases hcontents
      obtain ⟨key'', _, hdecrypted, hmatches', -⟩ :=
        PrivateKey.ofEncryptedPem_matches (PrivateKey.wasRead_of_ofPem hkey).isUntyped hencrypted
      exact ⟨_, key'', Bytes.toString?_ofString _, hdecrypted, hmatches.trans hmatches'⟩
  | decrypt hread hkey hplain hwrite =>
    have hread' := PrivateKey.wasRead_of_ofEncryptedPem hkey
    have hkey' := PrivateKey.ofPem_toPem hread'.isUntyped hplain
    refine ⟨(FileTree.sameDirectories_of_write hwrite).apart_iff.2 h.apart, ?_, ?_⟩
    · exact ⟨_, key', FileTree.holdsText_of_write hwrite, hkey', hmatches⟩
    · intro contents hcontents
      exact h.encrypted contents ((FileTree.read_of_write hwrite h.apart).1 hcontents)
  | check _ _ _ => exact h

/-! ## Sealed fixtures -/

/-- After an encryption a fixture is sealed. -/
theorem sealed_of_encrypt
    (hdoes : (Job.mk paths passphrase protection).Does tree supply key .encrypt found tree') :
    paths.Sealed passphrase tree' := by
  cases hdoes with
  | encrypt _ hkey hencrypted hwrite _ =>
    obtain ⟨key', plain, hdecrypted, -, hplain⟩ :=
      PrivateKey.ofEncryptedPem_matches (PrivateKey.wasRead_of_ofPem hkey).isUntyped hencrypted
    exact ⟨_, key', plain, FileTree.holdsText_of_write hwrite, hdecrypted, hplain⟩

/-- A job keeps a fixture sealed. -/
theorem Sealed.of_does (h : paths.Sealed passphrase tree)
    (hapart : tree.Apart paths.plain paths.encrypted)
    (hdoes : (Job.mk paths passphrase protection).Does tree supply key direction found tree') :
    paths.Sealed passphrase tree' := by
  cases hdoes with
  | encrypt hread hkey hencrypted hwrite hdetails =>
    exact sealed_of_encrypt (.encrypt hread hkey hencrypted hwrite hdetails)
  | decrypt _ _ _ hwrite =>
    obtain ⟨text, key, plain, hread, hkey⟩ := h
    exact ⟨text, key, plain, (FileTree.holdsText_of_write_iff hwrite hapart).2 hread, hkey⟩
  | check _ _ _ => exact h

/-- A sealed fixture can be decrypted and checked. -/
theorem Sealed.exists_does (h : paths.Sealed passphrase tree)
    (hsound : paths.Sound passphrase key tree) (hdirection : direction ≠ .encrypt) :
    ∃ key' found tree',
      (Job.mk paths passphrase protection).Does tree supply key' direction found tree' := by
  obtain ⟨text, key', plain, hread, hkey, hplain⟩ := h
  cases direction with
  | encrypt => exact absurd rfl hdirection
  | decrypt =>
    obtain ⟨_, _, ⟨contents, hcontents, _⟩, _⟩ := hsound.plain
    obtain ⟨tree', hwrite⟩ := FileTree.exists_write_of_read hcontents (Bytes.ofString plain)
    exact ⟨key', _, tree', .decrypt hread hkey hplain hwrite⟩
  | check =>
    obtain ⟨details, hdetails⟩ := PrivateKey.exists_schemeDetails hkey
    exact ⟨key', _, tree, .check hread hdetails hkey⟩

/-! ## Many turns -/

variable {workspace : Workspace} {turn : Turn}

theorem take_of_does (h : (Job.mk paths passphrase turn.protection).Does workspace.tree turn.supply
    key turn.direction found tree') : (paths.take passphrase workspace turn).1 = .ok found := by
  obtain ⟨workspace', hperform, -⟩ : { workspace with supply := turn.supply }.Yields
      ((Job.mk paths passphrase turn.protection).run turn.direction) found tree' :=
    Job.yields_of_does h
  rw [take, hperform]

theorem does_of_take (h : (paths.take passphrase workspace turn).1 = .ok found) :
    ∃ key, (Job.mk paths passphrase turn.protection).Does workspace.tree turn.supply key
      turn.direction found (paths.take passphrase workspace turn).2.tree :=
  Job.does_of_perform_run (Prod.ext h rfl)

/-- A turn does its job, or leaves the tree as it was. -/
theorem does_or_tree_take (paths : FixturePaths) (passphrase : Passphrase) (workspace : Workspace)
    (turn : Turn) :
    (∃ key found, (Job.mk paths passphrase turn.protection).Does workspace.tree turn.supply key
      turn.direction found (paths.take passphrase workspace turn).2.tree) ∨
    (paths.take passphrase workspace turn).2.tree = workspace.tree := by
  rcases h : (paths.take passphrase workspace turn).1 with stop | found
  · exact .inr (Job.atomic_run (Job.mk paths passphrase turn.protection) turn.direction
      { workspace with supply := turn.supply } stop _ (Prod.ext h rfl))
  · obtain ⟨key, hdoes⟩ := does_of_take h
    exact .inl ⟨key, found, hdoes⟩

theorem Sound.take (h : paths.Sound passphrase key workspace.tree) (turn : Turn) :
    paths.Sound passphrase key (paths.take passphrase workspace turn).2.tree := by
  obtain ⟨_, _, hdoes⟩ | htree := does_or_tree_take paths passphrase workspace turn
  · exact h.of_does hdoes
  · rw [htree]
    exact h

theorem Sealed.take (h : paths.Sealed passphrase workspace.tree)
    (hapart : workspace.tree.Apart paths.plain paths.encrypted) (turn : Turn) :
    paths.Sealed passphrase (paths.take passphrase workspace turn).2.tree := by
  obtain ⟨_, _, hdoes⟩ | htree := does_or_tree_take paths passphrase workspace turn
  · exact h.of_does hapart hdoes
  · rw [htree]
    exact h

theorem Sound.after (h : paths.Sound passphrase key workspace.tree) (turns : List Turn) :
    paths.Sound passphrase key (paths.after passphrase workspace turns).tree := by
  induction turns generalizing workspace with
  | nil => exact h
  | cons turn turns ih => exact ih (h.take turn)

theorem Sealed.after (h : paths.Sealed passphrase workspace.tree)
    (hsound : paths.Sound passphrase key workspace.tree) (turns : List Turn) :
    paths.Sealed passphrase (paths.after passphrase workspace turns).tree := by
  induction turns generalizing workspace with
  | nil => exact h
  | cons turn turns ih => exact ih (h.take hsound.apart turn) (hsound.take turn)

/-- Whatever jobs are run on a fixture, one after the other: its files hold the key, the reports are
about the key, and nothing but an encryption fails after the first encryption that does not. -/
theorem keeps_key (paths : FixturePaths) (passphrase : Passphrase) {text : String}
    (hplain : workspace.tree.HoldsText paths.plain text) (hkey : PrivateKey.ofPem text = .ok key)
    (hapart : workspace.tree.Apart paths.plain paths.encrypted)
    (hencrypted : ∀ contents, workspace.tree.read paths.encrypted = .ok contents →
      ∃ text' key', Bytes.toString? contents = some text' ∧
        PrivateKey.ofEncryptedPem text' passphrase = .ok key' ∧ key.Matches key') :
    (∀ turns, paths.Sound passphrase key (paths.after passphrase workspace turns).tree) ∧
    (∀ turns turn found,
      (paths.take passphrase (paths.after passphrase workspace turns) turn).1 = .ok found →
        found.algorithm = key.algorithm ∧ found.fingerprint = key.fingerprint.toOption ∧
          (found.fingerprint = none ↔ ¬ key.HasPublicKey)) ∧
    ∀ before encryption report between turn, encryption.direction = .encrypt →
      (paths.take passphrase (paths.after passphrase workspace before) encryption).1 = .ok report →
        turn.direction ≠ .encrypt → ∃ found, (paths.take passphrase
          (paths.after passphrase workspace (before ++ encryption :: between)) turn).1 =
            .ok found := by
  have hsound : paths.Sound passphrase key workspace.tree :=
    ⟨hapart, ⟨text, key, hplain, hkey, .refl key⟩, hencrypted⟩
  refine ⟨hsound.after, fun turns turn found h => ?_, ?_⟩
  · obtain ⟨key', hdoes⟩ := does_of_take h
    obtain ⟨halgorithm, hfingerprint⟩ := (hsound.after turns).report_of_does hdoes
    refine ⟨halgorithm, hfingerprint, ?_⟩
    rw [hfingerprint]
    exact PrivateKey.toOption_fingerprint_eq_none_iff (PrivateKey.wasRead_of_ofPem hkey)
  · intro before encryption report between turn hencryption hreport hturn
    have hbefore := hsound.after before
    obtain ⟨key', hdoes⟩ := does_of_take hreport
    rw [hencryption] at hdoes
    -- the fixture is sealed by the encryption, and stays so up to the turn
    have hsealed := (sealed_of_encrypt hdoes).after (hbefore.take encryption) between
    have hafter := (hbefore.take encryption).after between
    rw [FixturePaths.after, List.foldl_append, List.foldl_cons]
    obtain ⟨key'', found, tree', hdoes⟩ := hsealed.exists_does hafter hturn
    exact ⟨found, take_of_does hdoes⟩

/-- The fixture of the Ed25519 key of a seed of zeros can be checked after an encryption. -/
theorem keeps_key_zeroSeed : ∃ text, (Job.zeroSeed text).tree.HoldsText "p" text ∧
    PrivateKey.ofPem text = .ok (.ed25519 ⟨List.replicate 32 0, rfl⟩) ∧
    (Job.zeroSeed text).tree.Apart "p" "e" ∧
    (∀ contents, (Job.zeroSeed text).tree.read "e" ≠ .ok contents) ∧
    ∃ found, (take ⟨"p", "e"⟩ .fixture (after ⟨"p", "e"⟩ .fixture (Job.zeroSeed text)
      [⟨.encrypt, .standard, List.replicate 32 0⟩]) ⟨.check, .standard, []⟩).1 = .ok found := by
  obtain ⟨text, hplain, hkey, found, tree', hdoes⟩ := Job.exists_does_zeroSeed
  obtain ⟨hleadsPlain, hleadsEncrypted⟩ := Job.leads_zeroSeed text
  have hapart : (Job.zeroSeed text).tree.Apart "p" "e" := by
    intro place hp he
    rw [← hleadsPlain.unique hp] at he
    nomatch hleadsEncrypted.unique he
  have habsent (contents : Bytes) : (Job.zeroSeed text).tree.read "e" ≠ .ok contents := by
    intro h
    obtain ⟨place, hplace, hfile⟩ := FileTree.read_eq_ok_iff.1 h
    rw [← hleadsEncrypted.unique hplace] at hfile
    nomatch hfile
  obtain ⟨-, -, hlater⟩ := keeps_key ⟨"p", "e"⟩ .fixture hplain hkey hapart
    fun contents h => absurd h (habsent contents)
  exact ⟨text, hplain, hkey, hapart, habsent, hlater [] ⟨.encrypt, .standard, List.replicate 32 0⟩
    found [] ⟨.check, .standard, []⟩ rfl (take_of_does hdoes) nofun⟩

end FixturePaths

end SealedKey
