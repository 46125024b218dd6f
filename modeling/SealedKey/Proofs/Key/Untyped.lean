import SealedKey.Proofs.Key.Encryption

/-!
# Encryption and decryption of untyped keys

A document of an algorithm without typed keys is kept byte for byte, but only what is read from
it is encrypted.  So decryption gives a key that says the same, and its document is the one
without a surplus: `PrivateKey.ofEncryptedPem_encryptPem_untyped` says that the document comes back
exactly when it had no surplus.
-/

namespace SealedKey

open Der (maxLength)

namespace PrivateKey

/-! ## Encryption -/

/-- Decryption gives a key that says the same as the one that was encrypted. -/
theorem ofEncryptedPem_of_encrypt_untyped {key : UntypedKey} (hkey : key.info.IsUntyped)
    {passphrase : Passphrase} {protection : Protection} {supply rest : Bytes} {text : String}
    (h : (PrivateKey.untyped key).encrypt passphrase protection supply = some (.ok text, rest)) :
    ofEncryptedPem text passphrase =
      .ok (.untyped ⟨key.info.encode, key.info, key.ofDer_encode_info.2⟩) := by
  obtain ⟨-, hread⟩ := key.ofDer_encode_info
  obtain ⟨document, salt, iv, hdocument, -, hiv, -, htext⟩ := encrypt_eq_ok_iff.1 h
  obtain rfl := Except.ok.inj ((essentialDocument_untyped key).symm.trans hdocument)
  have hsequence := Pkcs8.EncryptedKeyInfo.readSequence_of_ofDer hread
  rw [decrypt_encryptedPem hiv htext hsequence, ofPkcs8_of_isUntyped hread hkey]
  rfl

/-- The encryption of an untyped key in a text comes back with the same contents.  Its document
comes back exactly if it had no surplus. -/
theorem ofEncryptedPem_encryptPem_untyped {document : Bytes} {key : UntypedKey}
    (hkey : ofPkcs8 document = .ok (.untyped key)) (passphrase : Passphrase)
    (protection : Protection) (supply : Bytes) (text : String) (rest : Bytes)
    (h : encryptPem (Pem.Block.mk Label.privateKey document).toText passphrase protection supply =
      some (.ok text, rest)) :
    ∃ key', ofEncryptedPem text passphrase = .ok (.untyped key') ∧ key'.info = key.info ∧
      (PrivateKey.untyped key').toPkcs8 = .ok key.info.encode ∧
      ∃ surplus : Pkcs8.Surplus, surplus.Fits key.info ∧
        document = key.info.encodeWith surplus ∧
        ((PrivateKey.untyped key').toPkcs8 = .ok document ↔
          surplus.before = [] ∧ surplus.behind = []) := by
  obtain ⟨rfl, huntyped⟩ := isUntyped_of_ofPkcs8_eq hkey
  rw [encryptPem, ofPem_toText, hkey] at h
  obtain ⟨surplus, hfits, hdocument⟩ := key.exists_surplus
  refine ⟨_, ofEncryptedPem_of_encrypt_untyped huntyped h, rfl, rfl, surplus, hfits, hdocument, ?_⟩
  rw [← Pkcs8.PrivateKeyInfo.encode_eq_encodeWith_iff, ← hdocument]
  exact Except.pure_eq_ok_iff

/-! ### Two documents of an X25519 key -/

/-- The algorithm of X25519 keys: 1.3.101.110. -/
def x25519 : Oid := ⟨[0x2B, 0x65, 0x6E], by decide⟩

/-- An X25519 key of zeros. -/
def x25519Info : Pkcs8.PrivateKeyInfo :=
  ⟨⟨x25519, none⟩, Der.octetString (List.replicate 32 0), none⟩

/-- An empty set of attributes. -/
def noAttributes : Pkcs8.Surplus := ⟨[⟨.explicit Der.Tag.firstField, []⟩], []⟩

theorem isUntyped_x25519Info : x25519Info.IsUntyped :=
  ⟨by decide, by decide, fun h => absurd h (by decide)⟩

/-- Both documents of the key are kept and have encrypted texts. -/
theorem exists_encryptPem_x25519 {surplus : Pkcs8.Surplus} (hfits : surplus.Fits x25519Info)
    (hlength : (x25519Info.encodeWith surplus).length ≤ 100) :
    ∃ key text rest, key.info = x25519Info ∧
      ofPkcs8 (x25519Info.encodeWith surplus) = .ok (.untyped key) ∧
      encryptPem (Pem.Block.mk Label.privateKey (x25519Info.encodeWith surplus)).toText
        .fixture .standard (List.replicate 32 0) = some (.ok text, rest) ∧
      ofEncryptedPem text .fixture =
        .ok (.untyped ⟨key.info.encode, key.info, key.ofDer_encode_info.2⟩) := by
  have hmax : 400 ≤ maxLength := by decide
  have hread := Pkcs8.PrivateKeyInfo.ofDer_eq_ok_iff.2
    ⟨by omega, by decide, surplus, hfits, (rfl : x25519Info.encodeWith surplus = _)⟩
  have hkey := ofPkcs8_of_isUntyped hread isUntyped_x25519Info
  have hshort := x25519Info.length_encode_le surplus
  have hadmitted : Protection.standard.Admitted := by decide
  have hsupply : 32 ≤ (List.replicate 32 0 : Bytes).length := by decide
  have hdocument : (PrivateKey.untyped ⟨_, x25519Info, hread⟩).essentialDocument =
      .ok x25519Info.encode := essentialDocument_untyped _
  obtain ⟨text, rest, h⟩ := exists_encrypt _ hdocument (by omega) .fixture hadmitted hsupply
  refine ⟨_, text, rest, rfl, hkey, ?_, ofEncryptedPem_of_encrypt_untyped isUntyped_x25519Info h⟩
  rw [encryptPem, ofPem_toText, hkey]
  exact h

/-- Without attributes, the document of the key comes back. -/
theorem ofEncryptedPem_encryptPem_x25519 : ∃ key text rest key',
    ofPkcs8 x25519Info.encode = .ok (.untyped key) ∧
      encryptPem (Pem.Block.mk Label.privateKey x25519Info.encode).toText .fixture .standard
        (List.replicate 32 0) = some (.ok text, rest) ∧
      ofEncryptedPem text .fixture = .ok (.untyped key') ∧
      (PrivateKey.untyped key').toPkcs8 = .ok x25519Info.encode := by
  have hfits : Pkcs8.Surplus.Fits ⟨[], []⟩ x25519Info := ⟨nofun, fun _ => nofun⟩
  obtain ⟨key, text, rest, hinfo, hkey, h, -⟩ := exists_encryptPem_x25519 hfits (by decide)
  obtain ⟨key', hread, -, hdocument, -⟩ :=
    ofEncryptedPem_encryptPem_untyped hkey .fixture .standard (List.replicate 32 0) text rest h
  rw [Pkcs8.PrivateKeyInfo.encodeWith_nil] at hkey h
  rw [hinfo] at hdocument
  exact ⟨key, text, rest, key', hkey, h, hread, hdocument⟩

/-- With attributes, even if there are none in the set, it does not. -/
theorem ofEncryptedPem_encryptPem_attributes : ∃ key text rest key',
    ofPkcs8 (x25519Info.encodeWith noAttributes) = .ok (.untyped key) ∧
      encryptPem (Pem.Block.mk Label.privateKey (x25519Info.encodeWith noAttributes)).toText
        .fixture .standard (List.replicate 32 0) = some (.ok text, rest) ∧
      ofEncryptedPem text .fixture = .ok (.untyped key') ∧
      (PrivateKey.untyped key').toPkcs8 ≠ .ok (x25519Info.encodeWith noAttributes) := by
  have hfits : noAttributes.Fits x25519Info := by
    refine ⟨?_, fun _ => nofun⟩
    intro e he
    rw [List.mem_singleton.1 he]
    exact ⟨true, rfl⟩
  obtain ⟨key, text, rest, hinfo, hkey, h, hread⟩ := exists_encryptPem_x25519 hfits (by decide)
  refine ⟨key, text, rest, _, hkey, h, hread, fun hsame => ?_⟩
  have hencode : key.info.encode = x25519Info.encodeWith noAttributes :=
    Except.pure_eq_ok_iff.1 hsame
  rw [hinfo, Pkcs8.PrivateKeyInfo.encode_eq_encodeWith_iff] at hencode
  nomatch hencode.1

end PrivateKey

end SealedKey
