import SealedKey.Key.Encryption
import SealedKey.Proofs.Cipher.Chaining
import SealedKey.Proofs.Entropy
import SealedKey.Proofs.Key.Document
import SealedKey.Proofs.Pem.Layout
import SealedKey.Proofs.Pkcs5.Scheme

/-!
# Decryption of an encrypted document

Encryption writes a document into a PEM text, and decryption of this text with the same passphrase
gives the document back (`PrivateKey.decrypt_encryptedPem`).  What can go wrong on the way is all
in `PrivateKey.encryptedPem_eq_ok_iff` and `PrivateKey.encrypt_eq_ok_iff`, which say exactly when
there is a text and which text it is.

What is encrypted is read from the document of the key and written again.  Of a typed key, this is
the document itself (`PrivateKey.essentialDocument_eq`), and of an untyped key the document without
a surplus (`PrivateKey.essentialDocument_untyped`).
-/

namespace SealedKey

open Der (maxLength)

/-! ## Schemes of a protection -/

namespace Protection

theorem readable_scheme (protection : Protection) (salt : Bytes) {iv : Bytes}
    (h : iv.length = Pkcs5.AesCbc.ivSize) : (protection.scheme salt iv).Readable := by
  refine ⟨?_, h⟩
  cases protection with
  | pbkdf2 iterations => exact ⟨iterations.toNat_lt, nofun⟩
  | scrypt =>
    have hcost : scryptCost.n < 256 ^ 8 ∧ scryptCost.r < 256 ^ 2 ∧ scryptCost.p < 256 ^ 2 := by
      decide
    exact ⟨hcost.1, hcost.2.1, hcost.2.2, nofun⟩

/-- The key that the scheme of a protection derives from a passphrase. -/
def derivedKey (salt passphrase : Bytes) : Protection → Bytes
  | pbkdf2 iterations =>
    Kdf.pbkdf2 (.hmac Hash.sha256 passphrase) salt iterations.toNat Pkcs5.AesCbc.aes256.keySize
  | scrypt => Kdf.scrypt passphrase salt scryptCost Pkcs5.AesCbc.aes256.keySize

/-- The scheme of a protection derives a key from every passphrase. -/
theorem key_scheme (protection : Protection) (salt iv passphrase : Bytes) :
    (protection.scheme salt iv).key passphrase = .ok (protection.derivedKey salt passphrase) := by
  cases protection with
  | pbkdf2 iterations => rfl
  | scrypt =>
    have husable : scryptCost.Usable := by decide
    exact if_pos husable

theorem exists_encrypt_scheme (protection : Protection) (salt iv passphrase document : Bytes) :
    ∃ encrypted, (protection.scheme salt iv).encrypt passphrase document = .ok encrypted ∧
      encrypted.length = document.length + Cipher.paddingSize document.length := by
  refine ⟨Cipher.encrypt (protection.derivedKey salt passphrase) iv document, ?_,
    Cipher.length_encrypt _ iv document⟩
  rw [Pkcs5.Pbes2.encrypt, key_scheme]
  rfl

theorem length_contents_derivation_le (protection : Protection) {salt : Bytes}
    (h : salt.length = 16) : (protection.derivation salt).contents.length ≤ 50 := by
  have hsalt : (Der.octetString salt).length ≤ 16 + 6 :=
    Der.length_element_le _ (Nat.le_of_eq h) (by decide)
  cases protection with
  | pbkdf2 iterations =>
    have hinteger : (Der.integer iterations.toNat).length ≤ 4 + 7 :=
      Der.length_integer_le iterations.toNat_lt (by decide)
    have hprf : Pkcs5.Prf.sha256.identifier.encode.length = 14 := by decide
    have hcontents : ((pbkdf2 iterations).derivation salt).contents =
        Der.octetString salt ++ (Der.integer iterations.toNat ++
          ([] ++ Pkcs5.Prf.sha256.identifier.encode)) := rfl
    simp only [hcontents, List.length_append, List.length_nil, hprf]
    omega
  | scrypt =>
    have hcost : (Der.integer scryptCost.n ++ (Der.integer scryptCost.r ++
        (Der.integer scryptCost.p ++ []))).length = 11 := by decide
    have hcontents : (scrypt.derivation salt).contents = Der.octetString salt ++
        (Der.integer scryptCost.n ++ (Der.integer scryptCost.r ++
          (Der.integer scryptCost.p ++ []))) := rfl
    rw [hcontents, List.length_append, hcost]
    omega

theorem length_encode_derivation_le (protection : Protection) {salt : Bytes}
    (h : salt.length = 16) : (protection.derivation salt).encode.length ≤ 73 := by
  have hcontents := protection.length_contents_derivation_le h
  have hparameters := Der.length_element_le .sequence hcontents (by decide)
  have hoid : (Der.oid (protection.derivation salt).oid).length = 11 := by
    cases protection with
    | pbkdf2 _ => exact (by decide : (Der.oid Pkcs5.Pbkdf2.oid).length = 11)
    | scrypt => exact (by decide : (Der.oid Pkcs5.Scrypt.oid).length = 11)
  have hencode : (protection.derivation salt).encode = Der.element .sequence
      (Der.oid (protection.derivation salt).oid ++
        Der.element .sequence (protection.derivation salt).contents) := by
    rw [Pkcs5.Derivation.encode_eq]
    exact Pkcs8.AlgorithmIdentifier.encode_eq _
  rw [hencode]
  exact Der.length_element_le _ (n := 67) (by rw [List.length_append]; omega) (by decide)

theorem length_encode_scheme_le (protection : Protection) {salt iv : Bytes}
    (hsalt : salt.length = 16) (hiv : iv.length = 16) :
    (protection.scheme salt iv).encode.length ≤ 135 := by
  have hderivation := protection.length_encode_derivation_le hsalt
  have hscheme : (Der.oid Pkcs5.Pbes2.oid).length = 11 := by decide
  have hoid : (Der.oid Pkcs5.AesCbc.aes256.oid).length = 11 := by decide
  have hiv : (Der.octetString iv).length ≤ 22 :=
    Der.length_element_le _ (Nat.le_of_eq hiv) (by decide)
  have hcipher : (Der.sequence [Der.oid Pkcs5.AesCbc.aes256.oid, Der.octetString iv]).length ≤ 39 :=
    Der.length_element_le _ (n := 33) (by simp; omega) (by decide)
  have hparameters : (Der.sequence [(protection.derivation salt).encode,
      Der.sequence [Der.oid Pkcs5.AesCbc.aes256.oid, Der.octetString iv]]).length ≤ 118 :=
    Der.length_element_le _ (n := 112) (by simp; omega) (by decide)
  exact Der.length_element_le _ (n := 129) (by simp [scheme]; omega) (by decide)

/-- A scheme is short, so only long documents have no encrypted form. -/
theorem length_encode_le (protection : Protection) {salt iv encrypted : Bytes}
    (hsalt : salt.length = 16) (hiv : iv.length = 16) (h : encrypted.length + 200 ≤ maxLength) :
    (Pkcs8.EncryptedKeyInfo.encode (protection.scheme salt iv) encrypted).length ≤
      encrypted.length + 200 := by
  have hscheme := protection.length_encode_scheme_le hsalt hiv
  have hencrypted : (Der.octetString encrypted).length ≤ encrypted.length + 6 :=
    Der.length_element_le _ (Nat.le_refl _) (by omega)
  refine Nat.le_trans (Der.length_element_le _ (n := encrypted.length + 141) ?_ (by omega))
    (by omega)
  simp only [List.flatten_cons, List.flatten_nil, List.append_nil, List.length_append]
  omega

end Protection

/-! ## Encrypted documents -/

namespace Pkcs8.EncryptedKeyInfo

theorem privateKeyBlock_toText (contents : Bytes) :
    Pem.privateKeyBlock (Pem.Block.mk Label.encryptedPrivateKey contents).toText =
      .ok ⟨Label.encryptedPrivateKey, contents⟩ :=
  Pem.privateKeyBlock_toText_of_notMem _ (by decide) (by decide) contents

/-- The document in an encrypted text. -/
theorem ofPem_toText (contents : Bytes) :
    ofPem (Pem.Block.mk Label.encryptedPrivateKey contents).toText =
      (ofDer contents).mapError fun cause => .ofKeyError (.der cause) := by
  rw [ofPem, privateKeyBlock_toText, Except.bind_ok]
  exact if_pos rfl

theorem readSequence_eq_ok_iff {document : Bytes} :
    Der.Reader.run readSequence document = .ok () ↔
      document.length ≤ maxLength ∧ ∃ body, document = Der.element .sequence body := by
  have hread := Der.Reader.Reads.expect_bind .sequence (fun count =>
    (Der.Reader.reads_take count).bind fun _ => Der.Reader.reads_pure ()) (by
      rintro count value front rest ⟨bytes, _, _, rfl, ⟨rfl, hlength⟩, -, rfl⟩
      rw [List.append_nil, hlength])
  refine hread.run_eq_ok_iff.trans (and_congr_right fun hlength => ?_)
  constructor
  · intro h
    obtain ⟨body, -, hbody, -⟩ := h
    exact ⟨body, hbody⟩
  · intro h
    obtain ⟨body, rfl⟩ := h
    have := Der.length_lt_length_element .sequence body
    exact ⟨body, by omega, rfl, body, _, [], (List.append_nil _).symm, ⟨rfl, rfl⟩, rfl, rfl⟩

/-- A private key document is one sequence. -/
theorem readSequence_of_ofDer {document : Bytes} {keyInfo : PrivateKeyInfo}
    (h : PrivateKeyInfo.ofDer document = .ok keyInfo) :
    Der.Reader.run readSequence document = .ok () := by
  obtain ⟨hlength, -, surplus, -, rfl⟩ := PrivateKeyInfo.ofDer_eq_ok_iff.1 h
  exact readSequence_eq_ok_iff.2 ⟨hlength, _, rfl⟩

/-- Decryption undoes encryption, if what was encrypted is one sequence. -/
theorem decrypt_of_encrypt {scheme : Pkcs5.Pbes2} {passphrase : Passphrase}
    {document encrypted : Bytes} (h : scheme.encrypt passphrase.bytes document = .ok encrypted)
    (hdocument : Der.Reader.run readSequence document = .ok ()) :
    decrypt ⟨.pbes2 scheme, encrypted⟩ passphrase = .ok document := by
  obtain ⟨key, hkey, hencrypted⟩ := Except.bind_eq_ok_iff.1 h
  cases hencrypted
  have hdecrypt : Pkcs5.Scheme.decrypt (.pbes2 scheme) passphrase.bytes
      (Cipher.encrypt key scheme.iv document) = .ok document := by
    rw [Pkcs5.Scheme.decrypt, Pkcs5.Pbes2.decrypt, hkey, Except.bind_ok, Cipher.decrypt?_encrypt]
    rfl
  rw [decrypt, hdecrypt, Except.mapError_ok, Except.bind_ok, hdocument]
  rfl

end Pkcs8.EncryptedKeyInfo

namespace PrivateKey

/-! ## The document that is encrypted -/

/-- What the document of a key says can always be written again. -/
theorem essentialDocument_of_ofDer {key : PrivateKey} {document : Bytes}
    {info : Pkcs8.PrivateKeyInfo} (hdocument : key.toPkcs8 = .ok document)
    (hread : Pkcs8.PrivateKeyInfo.ofDer document = .ok info) :
    key.essentialDocument = .ok info.encode := by
  obtain ⟨hlength, -⟩ := Pkcs8.PrivateKeyInfo.ofDer_encode_of_ofDer hread
  have hwrite : Der.document info.encode = .ok info.encode :=
    Der.document_eq_ok_iff.2 ⟨hlength, rfl⟩
  rw [essentialDocument, hdocument, Except.bind_ok, hread, Except.mapError_ok, Except.bind_ok,
    hwrite, Except.mapError_ok]

/-- The document of a typed key has nothing to leave out. -/
theorem essentialDocument_eq {key : PrivateKey} (hkey : key.IsTyped) :
    key.essentialDocument = key.toPkcs8 := by
  cases hdocument : key.toPkcs8 with
  | error cause =>
    rw [essentialDocument, hdocument]
    rfl
  | ok document =>
    obtain ⟨info, hinfo, hlength, rfl⟩ := (toPkcs8_eq_ok_iff hkey).1 hdocument
    exact essentialDocument_of_ofDer hdocument
      (Pkcs8.PrivateKeyInfo.ofDer_encode hlength (minLength_le_of_info hkey hinfo))

/-- Every Ed25519 key has a document, which is not close to the limit. -/
theorem exists_essentialDocument_ed25519 (key : Ed25519.Key) : ∃ document,
    (ed25519 key).essentialDocument = .ok document ∧ document.length + 216 ≤ maxLength := by
  obtain ⟨document, hdocument, hshort⟩ := exists_toPkcs8_ed25519 key
  have htyped : (ed25519 key).IsTyped := trivial
  have hmax : 316 ≤ maxLength := by decide
  exact ⟨document, (essentialDocument_eq htyped).trans hdocument, by omega⟩

theorem essentialDocument_untyped (key : UntypedKey) :
    (untyped key).essentialDocument = .ok key.info.encode :=
  essentialDocument_of_ofDer rfl key.ofDer_document

/-! ## Texts -/

/-- The text of a key is that of its document, also if the document is encoded before it is cut into
lines. -/
theorem toPem_eq_map (key : PrivateKey) : key.toPem =
    (fun document => (Pem.Block.mk Label.privateKey document).toText) <$> key.toPkcs8 := by
  simp only [← Pem.Block.toTextByLines_eq]
  rfl

theorem toPem_of_toPkcs8 {key : PrivateKey} {document : Bytes} (h : key.toPkcs8 = .ok document) :
    key.toPem = .ok (Pem.Block.mk Label.privateKey document).toText := by
  rw [toPem_eq_map, h]
  rfl

theorem toPem_of_toPkcs8_eq_error {key : PrivateKey} {error : Error}
    (h : key.toPkcs8 = .error error) : key.toPem = .error error := by
  rw [toPem_eq_map, h]
  rfl

theorem toPem_eq_ok_iff {key : PrivateKey} {text : String} : key.toPem = .ok text ↔
    ∃ document, key.toPkcs8 = .ok document ∧
      (Pem.Block.mk Label.privateKey document).toText = text := by
  rw [toPem_eq_map, Except.map_eq_ok_iff]

/-- The key in the text of a PKCS#8 document. -/
theorem ofPem_toText (document : Bytes) :
    ofPem (Pem.Block.mk Label.privateKey document).toText = ofPkcs8 document := by
  have hblock := Pem.privateKeyBlock_toText_of_notMem Label.privateKey (by decide) (by decide)
    document
  simp [ofPem, hblock, bind, Except.bind]

/-- Every Ed25519 key has a text. -/
theorem exists_ofPem_ed25519 (key : Ed25519.Key) : ∃ document,
    ofPem (Pem.Block.mk Label.privateKey document).toText = .ok (.ed25519 key) := by
  obtain ⟨document, hdocument, -⟩ := exists_toPkcs8_ed25519 key
  have htyped : (PrivateKey.ed25519 key).IsTyped := trivial
  refine ⟨document, ?_⟩
  rw [ofPem_toText, ofPkcs8_toPkcs8 htyped hdocument]

theorem encryptedPem_eq_ok_iff {protection : Protection} {salt iv : Bytes}
    {passphrase : Passphrase} {document : Bytes} {text : String} :
    encryptedPem protection salt iv passphrase document = .ok text ↔ protection.Admitted ∧
      ∃ encrypted, (protection.scheme salt iv).encrypt passphrase.bytes document = .ok encrypted ∧
        (Pkcs8.EncryptedKeyInfo.encode (protection.scheme salt iv) encrypted).length ≤ maxLength ∧
        text = (Pem.Block.mk Label.encryptedPrivateKey
          (Pkcs8.EncryptedKeyInfo.encode (protection.scheme salt iv) encrypted)).toText := by
  unfold encryptedPem
  by_cases hadmitted : protection.Admitted
  · simp only [hadmitted, if_true, Except.bind_eq_ok_iff, Except.mapError_eq_ok_iff,
      Der.document_eq_ok_iff, Except.pure_eq_ok_iff, Pem.Block.toTextByLines_eq, true_and]
    constructor
    · intro h
      obtain ⟨encrypted, hencrypted, _, ⟨hlength, rfl⟩, rfl⟩ := h
      exact ⟨encrypted, hencrypted, hlength, rfl⟩
    · intro h
      obtain ⟨encrypted, hencrypted, hlength, rfl⟩ := h
      exact ⟨encrypted, hencrypted, _, ⟨hlength, rfl⟩, rfl⟩
  · simp only [hadmitted, if_false, false_and, iff_false]
    exact nofun

/-- What an encrypted text holds. -/
theorem ofPem_encryptedPem {protection : Protection} {salt iv : Bytes} {passphrase : Passphrase}
    {document : Bytes} {text : String} (hiv : iv.length = Pkcs5.AesCbc.ivSize)
    (h : encryptedPem protection salt iv passphrase document = .ok text) :
    ∃ encrypted, (protection.scheme salt iv).encrypt passphrase.bytes document = .ok encrypted ∧
      Pkcs8.EncryptedKeyInfo.ofPem text = .ok ⟨.pbes2 (protection.scheme salt iv), encrypted⟩ := by
  obtain ⟨-, encrypted, hencrypted, hlength, rfl⟩ := encryptedPem_eq_ok_iff.1 h
  have hinfo := Pkcs8.EncryptedKeyInfo.ofDer_encode (protection.readable_scheme salt hiv) hlength
  refine ⟨encrypted, hencrypted, ?_⟩
  rw [Pkcs8.EncryptedKeyInfo.ofPem_toText, hinfo, Except.mapError_ok]

/-- The key that is decrypted is that of the document that is decrypted. -/
theorem ofEncryptedPem_of_decrypt_eq {text : String} {info : Pkcs8.EncryptedKeyInfo}
    {passphrase : Passphrase} {document : Bytes}
    (hinfo : Pkcs8.EncryptedKeyInfo.ofPem text = .ok info)
    (hdecrypt : info.decrypt passphrase = .ok document) :
    ofEncryptedPem text passphrase = (ofPkcs8 document).mapError .whileDecrypting := by
  rw [ofEncryptedPem, hinfo, Except.bind_ok, hdecrypt, Except.bind_ok]

/-- What decryption finds in an encrypted text. -/
theorem decrypt_encryptedPem {protection : Protection} {salt iv : Bytes} {passphrase : Passphrase}
    {document : Bytes} {text : String} (hiv : iv.length = Pkcs5.AesCbc.ivSize)
    (h : encryptedPem protection salt iv passphrase document = .ok text)
    (hdocument : Der.Reader.run Pkcs8.EncryptedKeyInfo.readSequence document = .ok ()) :
    ofEncryptedPem text passphrase = (ofPkcs8 document).mapError .whileDecrypting := by
  obtain ⟨encrypted, hencrypted, hinfo⟩ := ofPem_encryptedPem hiv h
  exact ofEncryptedPem_of_decrypt_eq hinfo
    (Pkcs8.EncryptedKeyInfo.decrypt_of_encrypt hencrypted hdocument)

/-- Every document that is not close to the limit has an encrypted text. -/
theorem exists_encryptedPem {protection : Protection} (hadmitted : protection.Admitted)
    {salt iv : Bytes} (hsalt : salt.length = 16) (hiv : iv.length = 16) (passphrase : Passphrase)
    {document : Bytes} (hshort : document.length + 216 ≤ maxLength) :
    ∃ text, encryptedPem protection salt iv passphrase document = .ok text := by
  obtain ⟨encrypted, hencrypted, hlength⟩ :=
    protection.exists_encrypt_scheme salt iv passphrase.bytes document
  have hpadding := Cipher.paddingSize_le document.length
  simp only [Cipher.Block.size] at hpadding
  have hbound : encrypted.length + 200 ≤ maxLength := by omega
  have hencode := protection.length_encode_le hsalt hiv hbound
  exact ⟨_, encryptedPem_eq_ok_iff.2
    ⟨hadmitted, encrypted, hencrypted, Nat.le_trans hencode hbound, rfl⟩⟩

/-- The results of an encryption, in the order in which its steps fail. -/
theorem encrypt_eq_some_iff {key : PrivateKey} {passphrase : Passphrase} {protection : Protection}
    {supply rest : Bytes} {result : Except Error String} :
    key.encrypt passphrase protection supply = some (result, rest) ↔
      (∃ cause, key.essentialDocument = .error cause ∧ result = .error cause ∧ rest = supply) ∨
      ∃ document salt iv, key.essentialDocument = .ok document ∧ salt.length = saltSize ∧
        iv.length = Pkcs5.AesCbc.ivSize ∧ supply = salt ++ (iv ++ rest) ∧
        result = encryptedPem protection salt iv passphrase document := by
  unfold encrypt
  cases hdocument : key.essentialDocument with
  | error cause =>
    rw [Draw.pure_eq_some_iff]
    constructor
    · intro h
      obtain ⟨rfl, rfl⟩ := h
      exact .inl ⟨cause, rfl, rfl, rfl⟩
    · intro h
      obtain ⟨_, ⟨⟩, rfl, rfl⟩ | ⟨_, _, _, ⟨⟩, -⟩ := h
      exact ⟨rfl, rfl⟩
  | ok document =>
    simp only [Draw.bind_eq_some_iff, Draw.bytes_eq_some_iff, Draw.pure_eq_some_iff]
    constructor
    · intro h
      obtain ⟨salt, _, ⟨hsalt, rfl⟩, iv, _, ⟨hiv, rfl⟩, rfl, rfl⟩ := h
      exact .inr ⟨document, salt, iv, rfl, hsalt, hiv, rfl, rfl⟩
    · intro h
      obtain ⟨_, ⟨⟩, -⟩ | ⟨_, salt, iv, ⟨⟩, hsalt, hiv, rfl, rfl⟩ := h
      exact ⟨salt, _, ⟨hsalt, rfl⟩, iv, rest, ⟨hiv, rfl⟩, rfl, rfl⟩

/-- When a key is encrypted, and what the text is. -/
theorem encrypt_eq_ok_iff {key : PrivateKey} {passphrase : Passphrase} {protection : Protection}
    {supply rest : Bytes} {text : String} :
    key.encrypt passphrase protection supply = some (.ok text, rest) ↔
      ∃ document salt iv, key.essentialDocument = .ok document ∧ salt.length = saltSize ∧
        iv.length = Pkcs5.AesCbc.ivSize ∧ supply = salt ++ (iv ++ rest) ∧
        encryptedPem protection salt iv passphrase document = .ok text := by
  rw [encrypt_eq_some_iff]
  constructor
  · intro h
    obtain ⟨cause, -, hcause, -⟩ | ⟨document, salt, iv, hdocument, hsalt, hiv, hsupply, htext⟩ := h
    · nomatch hcause
    · exact ⟨document, salt, iv, hdocument, hsalt, hiv, hsupply, htext.symm⟩
  · intro h
    obtain ⟨document, salt, iv, hdocument, hsalt, hiv, hsupply, htext⟩ := h
    exact .inr ⟨document, salt, iv, hdocument, hsalt, hiv, hsupply, htext.symm⟩

/-- An encrypted text holds the document of the key, encrypted with the salt and the initialization
vector that were drawn. -/
theorem exists_scheme_of_encrypt {key : PrivateKey} {passphrase : Passphrase}
    {protection : Protection} {supply rest : Bytes} {text : String}
    (h : key.encrypt passphrase protection supply = some (.ok text, rest)) :
    ∃ salt iv document encrypted, supply = salt ++ (iv ++ rest) ∧ salt.length = saltSize ∧
      iv.length = Pkcs5.AesCbc.ivSize ∧ key.essentialDocument = .ok document ∧
      (protection.scheme salt iv).encrypt passphrase.bytes document = .ok encrypted ∧
      Pkcs8.EncryptedKeyInfo.ofPem text =
        .ok ⟨.pbes2 (protection.scheme salt iv), encrypted⟩ := by
  obtain ⟨document, salt, iv, hdocument, hsalt, hiv, hsupply, htext⟩ := encrypt_eq_ok_iff.1 h
  obtain ⟨encrypted, hencrypted, hinfo⟩ := ofPem_encryptedPem hiv htext
  exact ⟨salt, iv, document, encrypted, hsupply, hsalt, hiv, hdocument, hencrypted, hinfo⟩

theorem exists_salt_iv {supply : Bytes} (h : 32 ≤ supply.length) :
    ∃ salt iv rest : Bytes, supply = salt ++ (iv ++ rest) ∧ salt.length = 16 ∧ iv.length = 16 := by
  refine ⟨supply.take 16, (supply.drop 16).take 16, (supply.drop 16).drop 16, ?_, ?_, ?_⟩
  · rw [List.take_append_drop, List.take_append_drop]
  · rw [List.length_take]
    omega
  · rw [List.length_take, List.length_drop]
    omega

/-- Every key whose document is not close to the limit has encrypted texts. -/
theorem exists_encrypt (key : PrivateKey) {document : Bytes}
    (hdocument : key.essentialDocument = .ok document) (hshort : document.length + 216 ≤ maxLength)
    (passphrase : Passphrase) {protection : Protection} (hadmitted : protection.Admitted)
    {supply : Bytes} (hsupply : 32 ≤ supply.length) :
    ∃ text rest, key.encrypt passphrase protection supply = some (.ok text, rest) := by
  obtain ⟨salt, iv, rest, rfl, hsalt, hiv⟩ := exists_salt_iv hsupply
  obtain ⟨text, htext⟩ := exists_encryptedPem hadmitted hsalt hiv passphrase hshort
  exact ⟨text, rest, encrypt_eq_ok_iff.2 ⟨document, salt, iv, hdocument, hsalt, hiv, rfl, htext⟩⟩

end PrivateKey

end SealedKey
