import SealedKey.Key.Generate
import SealedKey.Proofs.Key.Reread

/-!
# The normal form of a key

A key can come from a PEM text of any container, from a PKCS#8 document, from an encrypted text or
from drawn bytes (`PrivateKey.Obtained`).  Wherever it comes from, it is read back from the document
and from the text that it is written to, so these are normal forms: to read them and write
the key again changes nothing (`PrivateKey.ofPkcs8_toPkcs8_of_obtained`).

For typed keys this needs no more than the key.  An untyped key is its document, so what is needed
is that this document is kept when it is read, which `Obtained.isUntyped` takes from where the key
comes from.
-/

namespace SealedKey.PrivateKey

/-- The keys that the library gives. -/
inductive Obtained : PrivateKey → Prop
  | ofPem {text : String} {key : PrivateKey} (h : PrivateKey.ofPem text = .ok key) : Obtained key
  | ofPkcs8 {document : Bytes} {key : PrivateKey} (h : PrivateKey.ofPkcs8 document = .ok key) :
      Obtained key
  | ofEncryptedPem {text : String} {passphrase : Passphrase} {key : PrivateKey}
      (h : PrivateKey.ofEncryptedPem text passphrase = .ok key) : Obtained key
  | generateRsa {bits : Nat} {supply rest : Bytes} {key : PrivateKey}
      (h : PrivateKey.generateRsa bits supply = some (.ok key, rest)) : Obtained key
  | generateEc {curve : Ec.Curve} {supply rest : Bytes} {key : PrivateKey}
      (h : PrivateKey.generateEc curve supply = some (key, rest)) : Obtained key
  | generateEd25519 {supply rest : Bytes} {key : PrivateKey}
      (h : PrivateKey.generateEd25519 supply = some (key, rest)) : Obtained key

/-! ## Generated keys -/

variable {supply rest : Bytes} {key : PrivateKey}

theorem isTyped_of_generateRsa {bits : Nat}
    (h : generateRsa bits supply = some (.ok key, rest)) : key.IsTyped := by
  obtain ⟨result, between, -, h⟩ := Draw.bind_eq_some_iff.1 h
  cases result with
  | error cause => nomatch (Draw.pure_eq_some_iff.1 h).1
  | ok key' =>
    obtain ⟨⟨⟩, -⟩ := Draw.pure_eq_some_iff.1 h
    trivial

theorem isTyped_of_generateEc {curve : Ec.Curve}
    (h : generateEc curve supply = some (key, rest)) : key.IsTyped := by
  obtain ⟨key', between, -, h⟩ := Draw.bind_eq_some_iff.1 h
  obtain ⟨rfl, -⟩ := Draw.pure_eq_some_iff.1 h
  trivial

theorem isTyped_of_generateEd25519 (h : generateEd25519 supply = some (key, rest)) :
    key.IsTyped := by
  obtain ⟨key', between, -, h⟩ := Draw.bind_eq_some_iff.1 h
  obtain ⟨rfl, -⟩ := Draw.pure_eq_some_iff.1 h
  trivial

/-- The first bytes of the supply are the seed of an Ed25519 key. -/
theorem generateEd25519_append {seed : Bytes} (h : seed.length = Ed25519.seedSize) :
    generateEd25519 (seed ++ rest) = some (ed25519 ⟨seed, h⟩, rest) := by
  have hbytes := Draw.bytes_eq_some_iff.2 ⟨h, (rfl : seed ++ rest = _)⟩
  have hseed : Ed25519.Key.ofSeed? seed = some ⟨seed, h⟩ := dif_pos h
  have hkey : Ed25519.Key.generate (seed ++ rest) = some (⟨seed, h⟩, rest) :=
    Draw.untilSome_eq_some (Draw.bind_eq_some_iff.2
      ⟨seed, rest, hbytes, Draw.pure_eq_some_iff.2 ⟨hseed, rfl⟩⟩)
  exact Draw.bind_eq_some_iff.2 ⟨_, rest, hkey, Draw.pure_eq_some_iff.2 ⟨rfl, rfl⟩⟩

/-! ## Normal forms -/

theorem IsTyped.ne_untyped (hkey : key.IsTyped) (key' : UntypedKey) : key ≠ untyped key' := by
  rintro rfl
  exact hkey

/-- An untyped key is never of an algorithm that has typed keys. -/
theorem Obtained.isUntyped (h : key.Obtained) (key' : UntypedKey) (hkey : key = untyped key') :
    key'.info.IsUntyped := by
  cases h with
  | ofPem h => exact (wasRead_of_ofPem h).isUntyped key' hkey
  | ofPkcs8 h => exact (wasRead_of_ofPkcs8 h).isUntyped key' hkey
  | ofEncryptedPem h => exact (wasRead_of_ofEncryptedPem h).isUntyped key' hkey
  | generateRsa h => exact absurd hkey ((isTyped_of_generateRsa h).ne_untyped key')
  | generateEc h => exact absurd hkey ((isTyped_of_generateEc h).ne_untyped key')
  | generateEd25519 h => exact absurd hkey ((isTyped_of_generateEd25519 h).ne_untyped key')

/-- The document of a key and its text are read as this key, and both are their own normal form. -/
theorem ofPkcs8_toPkcs8_of_obtained (hkey : key.Obtained) {document : Bytes}
    (h : key.toPkcs8 = .ok document) :
    ofPkcs8 document = .ok key ∧ (ofPkcs8 document >>= toPkcs8) = .ok document ∧
      ∃ text, key.toPem = .ok text ∧ ofPem text = .ok key ∧ (ofPem text >>= toPem) = .ok text := by
  have hdocument := ofPkcs8_of_toPkcs8 hkey.isUntyped h
  have htext := toPem_of_toPkcs8 h
  have hpem := ofPem_toPem hkey.isUntyped htext
  refine ⟨hdocument, ?_, _, htext, hpem, ?_⟩
  · rw [hdocument, Except.bind_ok, h]
  · rw [hpem, Except.bind_ok, htext]

/-- The Ed25519 key of a seed of zeros. -/
def zeroSeed : PrivateKey := ed25519 ⟨List.replicate 32 0, rfl⟩

theorem generateEd25519_zeroSeed :
    generateEd25519 (List.replicate 32 0) = some (zeroSeed, []) := by
  have hlength : (List.replicate 32 0 : Bytes).length = Ed25519.seedSize := rfl
  have hdraw : generateEd25519 (List.replicate 32 0 ++ []) = some (zeroSeed, []) :=
    generateEd25519_append hlength
  rwa [List.append_nil] at hdraw

/-- The key has a text. -/
theorem exists_ofPem_zeroSeed : ∃ document,
    ofPem (Pem.Block.mk Label.privateKey document).toText = .ok zeroSeed :=
  exists_ofPem_ed25519 ⟨List.replicate 32 0, rfl⟩

/-- The key has an encrypted text for each passphrase. -/
theorem exists_encrypt_zeroSeed {protection : Protection} (passphrase : Passphrase)
    (hadmitted : protection.Admitted) : ∃ text rest,
      zeroSeed.encrypt passphrase protection (List.replicate 32 0) = some (.ok text, rest) := by
  obtain ⟨document, hdocument, hshort⟩ :=
    exists_essentialDocument_ed25519 ⟨List.replicate 32 0, rfl⟩
  have hsupply : 32 ≤ (List.replicate 32 0 : Bytes).length := by decide
  exact exists_encrypt zeroSeed hdocument hshort passphrase hadmitted hsupply

/-- The key of a seed of zeros, drawn from a supply of just these. -/
theorem ofPkcs8_toPkcs8_zeroSeed : ∃ key document text,
    generateEd25519 (List.replicate 32 0) = some (key, []) ∧ key.toPkcs8 = .ok document ∧
      ofPkcs8 document = .ok key ∧ key.toPem = .ok text ∧ ofPem text = .ok key := by
  obtain ⟨document, hdocument, -⟩ := exists_toPkcs8_ed25519 ⟨List.replicate 32 0, rfl⟩
  obtain ⟨hread, -, text, htext, hpem, -⟩ :=
    ofPkcs8_toPkcs8_of_obtained (.generateEd25519 generateEd25519_zeroSeed) hdocument
  exact ⟨zeroSeed, document, text, generateEd25519_zeroSeed, hdocument, hread, htext, hpem⟩

end SealedKey.PrivateKey
