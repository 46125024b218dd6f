import SealedKey.Key.Export
import SealedKey.Proofs.Ec.Document
import SealedKey.Proofs.Ec.Key
import SealedKey.Proofs.Pkcs8.Layout
import SealedKey.Proofs.Rsa.Document

/-!
# The documents of keys

A typed key is read back from its PKCS#8 document (`PrivateKey.ofPkcs8_toPkcs8`).  For each type
this has two parts: the private key in the form of its algorithm gives the key back, and the
algorithm identifier leads to the reader of that form.

`PrivateKey.ofPkcs8_cases` is the other direction: a key that was read is of one of the three types,
or it is untyped and keeps its document.
-/

namespace SealedKey

open Der (maxLength)

/-! ## RSA keys -/

namespace Rsa.Key

/-- A document with two factors gives a key if its numbers belong together. -/
theorem ofDocument?_of_valid {document : Document} (htwo : document.multiPrime = false)
    (h : Valid document.modulus document.publicExponent document.privateExponent document.prime₁
      document.prime₂) : ofDocument? document = some ⟨_, _, _, _, _, h⟩ := by
  rw [ofDocument?, htwo]
  exact dif_pos h

/-- The document of a key has two primes, and they are those of the key. -/
theorem ofDocument?_of_document? {key : Key} {document : Document}
    (h : key.document? = some document) :
    document.multiPrime = false ∧ ofDocument? document = some key := by
  rw [document?, Option.bind_eq_bind, Option.bind_eq_some_iff] at h
  obtain ⟨coefficient, -, h⟩ := h
  cases h
  exact ⟨rfl, ofDocument?_of_valid rfl key.valid⟩

theorem ofPkcs1_of_ofDocument? {key : Key} {document : Document}
    (htwo : document.multiPrime = false) (hkey : ofDocument? document = some key)
    (hlength : document.encode.length ≤ maxLength) : ofPkcs1 document.encode = .ok key := by
  have hread := (Document.ofDer_eq_ok_iff htwo).2 ⟨hlength, rfl⟩
  rw [ofPkcs1, hread, Except.mapError_ok, Except.bind_ok, hkey]
  rfl

theorem ofPkcs1_encode {key : Key} {document : Document} (h : key.document? = some document)
    (hlength : document.encode.length ≤ maxLength) : ofPkcs1 document.encode = .ok key := by
  obtain ⟨htwo, hkey⟩ := ofDocument?_of_document? h
  exact ofPkcs1_of_ofDocument? htwo hkey hlength

theorem ofInfo_eq_ok_iff {info : Pkcs8.PrivateKeyInfo} {key : Key} : ofInfo info = .ok key ↔
    info.algorithm.parameters = some Pkcs8.nullParameter ∧ ofPkcs1 info.privateKey = .ok key := by
  unfold ofInfo
  constructor
  · intro h
    split at h
    · contradiction
    · rename_i parameter hparameter
      split at h
      · rename_i hnull
        exact ⟨hnull ▸ hparameter, h⟩
      · contradiction
  · intro h
    obtain ⟨hparameter, hkey⟩ := h
    rw [hparameter]
    exact (if_pos rfl).trans hkey

theorem ofInfo_rsaAlgorithm {key : Key} {privateKey : Bytes} {publicKey : Option Bytes}
    (h : ofPkcs1 privateKey = .ok key) :
    ofInfo ⟨Pkcs8.rsaAlgorithm, privateKey, publicKey⟩ = .ok key :=
  ofInfo_eq_ok_iff.2 ⟨rfl, h⟩

end Rsa.Key

/-! ## Keys on curves -/

namespace Ec

theorem Curve.ofOid?_oid (curve : Curve) : ofOid? curve.oid = some curve := by
  cases curve <;> decide

theorem curveOid_ecAlgorithm (curve : Curve) :
    curveOid (Pkcs8.ecAlgorithm curve) = .ok curve.oid := by
  cases curve <;> rfl

namespace Key

theorem length_publicKey (key : Key) : key.publicKey.length = 1 + 2 * key.curve.size := by
  simp only [publicKey, List.length_append, List.length_cons, BigEndian.length_padded]
  omega

theorem size_le (curve : Curve) : curve.size ≤ 66 := by
  cases curve <;> decide

theorem ofDocument_document (key : Key) : ofDocument key.curve key.document = .ok key := by
  refine ofDocument_eq_ok_iff.2 ⟨rfl, Document.holds_padded rfl ?_⟩
  rintro _ ⟨⟩
  exact .inl rfl

/-- A document of a key is short. -/
theorem length_encode_document_le (key : Key) : key.document.encode.length ≤ 300 := by
  have hsize := size_le key.curve
  refine Document.length_encode_le (by rwa [document, BigEndian.length_padded]) ?_
  intro bytes hbytes
  rw [← Option.some.inj hbytes, length_publicKey]
  omega

/-- The document of a key gives the key back, on its own curve. -/
theorem ofInfo_encode_document (key : Key) {algorithm : Pkcs8.AlgorithmIdentifier}
    {publicKey : Option Bytes} :
    ofInfo key.curve ⟨algorithm, key.document.encode, publicKey⟩ = .ok key := by
  have hlength := key.length_encode_document_le
  have hread : Document.ofDer key.document.encode = .ok key.document :=
    Document.ofDer_encode (Nat.le_trans hlength (by decide)) nofun
  rw [ofInfo, ofDer, hread, Except.bind_ok, ofDocument_document, Except.mapError_ok]

end Key

end Ec

/-! ## Ed25519 keys -/

namespace Ed25519

theorem Point.length_encode (q : Point) : q.encode.length = 32 := by
  rw [encode, List.length_reverse, BigEndian.length_padded]

namespace Key

theorem ofSeed?_eq_some_iff {seed : Bytes} {key : Key} :
    ofSeed? seed = some key ↔ seed = key.seed := by
  unfold ofSeed?
  constructor
  · intro h
    split at h
    · cases h
      rfl
    · contradiction
  · rintro rfl
    exact dif_pos key.length_seed

theorem ofPrivateKey?_eq_some_iff {bytes : Bytes} {key : Key} :
    ofPrivateKey? bytes = some key ↔ bytes = key.privateKey := by
  constructor
  · intro h
    obtain ⟨⟨header, seed⟩, hsplit, h⟩ := Option.bind_eq_some_iff.1 h
    dsimp only at h
    split at h
    · rename_i hheader
      obtain ⟨-, hbytes⟩ := Bytes.split?_eq_some_iff.1 hsplit
      rw [hbytes, ofSeed?_eq_some_iff.1 h, hheader, privateKey]
    · contradiction
  · rintro rfl
    rw [ofPrivateKey?, privateKey, Bytes.split?_append]
    simp only [Option.bind_eq_bind, Option.bind_some, if_true]
    exact ofSeed?_eq_some_iff.2 rfl

/-- A public key in the document is that of the key. -/
theorem ofInfo_eq_ok_iff {info : Pkcs8.PrivateKeyInfo} {key : Key} : ofInfo info = .ok key ↔
    info.algorithm.parameters = none ∧ info.privateKey = key.privateKey ∧
      ∀ bytes ∈ info.publicKey, bytes = key.publicKey := by
  rw [← ofPrivateKey?_eq_some_iff]
  cases hparameters : info.algorithm.parameters with
  | some parameter =>
    have herror : ofInfo info = .error .parametersMalformed := by
      simp [ofInfo, hparameters, throw, throwThe, MonadExceptOf.throw, bind, Except.bind]
    rw [herror]
    exact iff_of_false nofun nofun
  | none =>
    cases hkey : ofPrivateKey? info.privateKey with
    | none =>
      have herror : ofInfo info = .error .malformed := by
        simp [ofInfo, hparameters, hkey, throw, throwThe, MonadExceptOf.throw]
      rw [herror]
      exact iff_of_false nofun nofun
    | some key' =>
      have hinfo : ofInfo info =
          if info.publicKey.all (· = key'.publicKey) then .ok key' else .error .malformed := by
        simp [ofInfo, hparameters, hkey, throw, throwThe, MonadExceptOf.throw, pure, Except.pure]
      have hall : info.publicKey.all (· = key'.publicKey) = true ↔
          ∀ bytes ∈ info.publicKey, bytes = key'.publicKey := by
        cases info.publicKey <;> simp
      rw [hinfo, Option.some.injEq, and_iff_right rfl]
      split
      · rename_i hpublic
        rw [Except.ok.injEq]
        refine ⟨?_, And.left⟩
        rintro rfl
        exact ⟨rfl, hall.1 hpublic⟩
      · rename_i hpublic
        refine iff_of_false nofun ?_
        rintro ⟨rfl, hbytes⟩
        exact hpublic (hall.2 hbytes)

theorem ofInfo_ed25519Algorithm (key : Key) :
    ofInfo ⟨Pkcs8.ed25519Algorithm, key.privateKey, some key.publicKey⟩ = .ok key := by
  refine ofInfo_eq_ok_iff.2 ⟨rfl, rfl, ?_⟩
  intro bytes hbytes
  exact (Option.some.inj hbytes).symm

end Key

end Ed25519

/-! ## Untyped keys -/

namespace UntypedKey

/-- The document of an untyped key is what it says, with a surplus. -/
theorem exists_surplus (key : UntypedKey) : ∃ surplus : Pkcs8.Surplus,
    surplus.Fits key.info ∧ key.document = key.info.encodeWith surplus := by
  obtain ⟨-, -, surplus, hfits, hdocument⟩ :=
    Pkcs8.PrivateKeyInfo.ofDer_eq_ok_iff.1 key.ofDer_document
  exact ⟨surplus, hfits, hdocument⟩

/-- What an untyped key says is a document of its own, which says the same. -/
theorem ofDer_encode_info (key : UntypedKey) : key.info.encode.length ≤ maxLength ∧
    Pkcs8.PrivateKeyInfo.ofDer key.info.encode = .ok key.info :=
  Pkcs8.PrivateKeyInfo.ofDer_encode_of_ofDer key.ofDer_document

end UntypedKey

/-! ## Private keys -/

/-- A document that says this is kept as it is. -/
structure Pkcs8.PrivateKeyInfo.IsUntyped (info : Pkcs8.PrivateKeyInfo) : Prop where
  ne_rsa : info.algorithm.oid ≠ Pkcs8.rsaEncryption
  ne_ed25519 : info.algorithm.oid ≠ Pkcs8.ed25519
  unknown_curve : info.algorithm.oid = Pkcs8.ecPublicKey →
    ∃ oid, Ec.curveOid info.algorithm = .ok oid ∧ Ec.Curve.ofOid? oid = none

namespace PrivateKey

/-- What is read from a document of an algorithm that has typed keys, and from others. -/
theorem ofPkcs8_eq {document : Bytes} {info : Pkcs8.PrivateKeyInfo}
    (h : Pkcs8.PrivateKeyInfo.ofDer document = .ok info) :
    ofPkcs8 document =
      let untyped := PrivateKey.untyped ⟨document, info, h⟩
      if info.algorithm.oid = Pkcs8.rsaEncryption then
        (rsa <$> Rsa.Key.ofInfo info).mapError .ofKeyError
      else if info.algorithm.oid = Pkcs8.ecPublicKey then
        match Ec.curveOid info.algorithm with
        | .error cause => throw (.encoding cause.message)
        | .ok oid =>
          match Ec.Curve.ofOid? oid with
          | some curve => (ec <$> Ec.Key.ofInfo curve info).mapError .ofKeyError
          | none => return untyped
      else if info.algorithm.oid = Pkcs8.ed25519 then
        (ed25519 <$> Ed25519.Key.ofInfo info).mapError .ofKeyError
      else return untyped := by
  unfold ofPkcs8
  split
  · rename_i h'
    rw [h] at h'
    contradiction
  · rename_i info' h'
    obtain rfl : info = info' := Except.ok.inj (h.symm.trans h')
    rfl

theorem ofPkcs8_of_ofDer_eq_error {document : Bytes} {cause : Der.Error}
    (h : Pkcs8.PrivateKeyInfo.ofDer document = .error cause) :
    ofPkcs8 document = .error (.ofKeyError (.der cause)) := by
  unfold ofPkcs8
  split
  · rename_i cause' h'
    obtain rfl : cause = cause' := Except.error.inj (h.symm.trans h')
    rfl
  · rename_i h'
    rw [h] at h'
    contradiction

theorem exists_ofDer_of_ofPkcs8 {document : Bytes} {key : PrivateKey}
    (h : ofPkcs8 document = .ok key) : ∃ info, Pkcs8.PrivateKeyInfo.ofDer document = .ok info := by
  rcases hread : Pkcs8.PrivateKeyInfo.ofDer document with cause | info
  · rw [ofPkcs8_of_ofDer_eq_error hread] at h
    nomatch h
  · exact ⟨info, rfl⟩

/-- Where a key that was read comes from. -/
theorem ofPkcs8_cases {document : Bytes} {info : Pkcs8.PrivateKeyInfo} {key : PrivateKey}
    (hread : Pkcs8.PrivateKeyInfo.ofDer document = .ok info) (h : ofPkcs8 document = .ok key) :
    (info.algorithm.oid = Pkcs8.rsaEncryption ∧
      ∃ key', Rsa.Key.ofInfo info = .ok key' ∧ key = rsa key') ∨
    (info.algorithm.oid = Pkcs8.ecPublicKey ∧ ∃ oid curve key',
      Ec.curveOid info.algorithm = .ok oid ∧ Ec.Curve.ofOid? oid = some curve ∧
        Ec.Key.ofInfo curve info = .ok key' ∧ key = ec key') ∨
    (info.algorithm.oid = Pkcs8.ed25519 ∧
      ∃ key', Ed25519.Key.ofInfo info = .ok key' ∧ key = ed25519 key') ∨
    (info.IsUntyped ∧ key = untyped ⟨document, info, hread⟩) := by
  simp only [ofPkcs8_eq hread] at h
  split at h
  · rename_i hrsa
    obtain ⟨key', hkey, hkey'⟩ := Except.map_eq_ok_iff.1 (Except.mapError_eq_ok_iff.1 h)
    exact .inl ⟨hrsa, key', hkey, hkey'.symm⟩
  · rename_i hrsa
    split at h
    · rename_i hec
      have hed25519 : info.algorithm.oid ≠ Pkcs8.ed25519 := by
        rw [hec]
        decide
      split at h
      · nomatch h
      · rename_i oid hoid
        split at h
        · rename_i curve hcurve
          obtain ⟨key', hkey, hkey'⟩ := Except.map_eq_ok_iff.1 (Except.mapError_eq_ok_iff.1 h)
          exact .inr (.inl ⟨hec, oid, curve, key', hoid, hcurve, hkey, hkey'.symm⟩)
        · rename_i hcurve
          cases h
          exact .inr (.inr (.inr ⟨⟨hrsa, hed25519, fun _ => ⟨oid, hoid, hcurve⟩⟩, rfl⟩))
    · rename_i hec
      split at h
      · rename_i hed25519
        obtain ⟨key', hkey, hkey'⟩ := Except.map_eq_ok_iff.1 (Except.mapError_eq_ok_iff.1 h)
        exact .inr (.inr (.inl ⟨hed25519, key', hkey, hkey'.symm⟩))
      · rename_i hed25519
        cases h
        exact .inr (.inr (.inr ⟨⟨hrsa, hed25519, fun hec' => absurd hec' hec⟩, rfl⟩))

/-- A document without a typed key is kept. -/
theorem ofPkcs8_of_isUntyped {document : Bytes} {info : Pkcs8.PrivateKeyInfo}
    (h : Pkcs8.PrivateKeyInfo.ofDer document = .ok info) (hinfo : info.IsUntyped) :
    ofPkcs8 document = .ok (.untyped ⟨document, info, h⟩) := by
  rw [ofPkcs8_eq h]
  simp only [hinfo.ne_rsa, hinfo.ne_ed25519, if_false]
  split
  · rename_i hec
    obtain ⟨oid, hoid, hcurve⟩ := hinfo.unknown_curve hec
    simp only [hoid, hcurve]
    rfl
  · rfl

theorem isUntyped_of_ofPkcs8_eq {document : Bytes} {key : UntypedKey}
    (h : ofPkcs8 document = .ok (.untyped key)) : key.document = document ∧ key.info.IsUntyped := by
  obtain ⟨info, hread⟩ := exists_ofDer_of_ofPkcs8 h
  obtain ⟨-, _, -, ⟨⟩⟩ | ⟨-, _, _, _, -, -, -, ⟨⟩⟩ | ⟨-, _, -, ⟨⟩⟩ | ⟨huntyped, hkey⟩ :=
    ofPkcs8_cases hread h
  cases hkey
  exact ⟨rfl, huntyped⟩

/-! ## Documents of typed keys -/

/-- A key that is not kept as a document of an algorithm that has no typed keys. -/
def IsTyped : PrivateKey → Prop
  | untyped _ => False
  | _ => True

theorem isTyped_or_untyped (key : PrivateKey) : key.IsTyped ∨ ∃ key', key = untyped key' := by
  cases key with
  | untyped key => exact .inr ⟨key, rfl⟩
  | _ => exact .inl trivial

theorem toPkcs8_of_isTyped {key : PrivateKey} (hkey : key.IsTyped) :
    key.toPkcs8 = key.canonicalDocument.mapError fun cause => .encoding cause.message := by
  cases key with
  | untyped _ => exact hkey.elim
  | _ => rfl

/-- The documents that a typed key has. -/
theorem toPkcs8_eq_ok_iff {key : PrivateKey} (hkey : key.IsTyped) {document : Bytes} :
    key.toPkcs8 = .ok document ↔
      ∃ info, key.info = .ok info ∧ info.encode.length ≤ maxLength ∧ document = info.encode := by
  rw [toPkcs8_of_isTyped hkey, canonicalDocument]
  simp only [Except.bind_eq_ok_iff, Except.mapError_eq_ok_iff, Der.document_eq_ok_iff]

/-- Every key on a curve has a document. -/
theorem exists_toPkcs8_ec (key : Ec.Key) :
    ∃ document, (ec key).toPkcs8 = .ok document ∧ document.length ≤ 400 := by
  have hversion : (Der.integer 0).length = 3 := by decide
  have halgorithm : (Pkcs8.ecAlgorithm key.curve).encode.length ≤ 30 := by
    cases key.curve <;> decide
  have hprivate : (Der.octetString key.document.encode).length ≤ 306 :=
    Der.length_element_le _ key.length_encode_document_le (by decide)
  have hencode : (Pkcs8.PrivateKeyInfo.encode
      ⟨Pkcs8.ecAlgorithm key.curve, key.document.encode, none⟩).length ≤ 345 := by
    refine Der.length_element_le _ (n := 339) ?_ (by decide)
    simp [Pkcs8.PrivateKeyInfo.version]
    omega
  have hkey : (ec key).IsTyped := trivial
  refine ⟨_, (toPkcs8_eq_ok_iff hkey).2 ⟨_, rfl, ?_, rfl⟩, ?_⟩
  · exact Nat.le_trans hencode (by decide)
  · omega

/-- Every Ed25519 key has a document. -/
theorem exists_toPkcs8_ed25519 (key : Ed25519.Key) :
    ∃ document, (ed25519 key).toPkcs8 = .ok document ∧ document.length ≤ 100 := by
  have hversion : (Der.integer 1).length = 3 := by decide
  have halgorithm : Pkcs8.ed25519Algorithm.encode.length = 7 := by decide
  have hprivate : (Der.octetString key.privateKey).length ≤ 40 := by
    refine Der.length_element_le _ (n := 34) ?_ (by decide)
    rw [Ed25519.Key.privateKey, List.length_append, key.length_seed]
    decide
  have hpublic : (Pkcs8.PrivateKeyInfo.publicKeyElement key.publicKey).length ≤ 39 := by
    refine Der.length_element_le _ (n := 33) ?_ (by decide)
    rw [List.length_cons, Ed25519.Key.publicKey, Ed25519.Point.length_encode]
  have hencode : (Pkcs8.PrivateKeyInfo.encode
      ⟨Pkcs8.ed25519Algorithm, key.privateKey, some key.publicKey⟩).length ≤ 95 := by
    refine Der.length_element_le _ (n := 89) ?_ (by decide)
    simp [Pkcs8.PrivateKeyInfo.version]
    omega
  have hkey : (ed25519 key).IsTyped := trivial
  refine ⟨_, (toPkcs8_eq_ok_iff hkey).2 ⟨_, rfl, ?_, rfl⟩, ?_⟩
  · exact Nat.le_trans hencode (by decide)
  · omega

/-- The algorithm identifier of a typed key names an algorithm that documents can name. -/
theorem minLength_le_of_info {key : PrivateKey} (hkey : key.IsTyped) {info : Pkcs8.PrivateKeyInfo}
    (h : key.info = .ok info) : Oid.minLength ≤ info.algorithm.oid.encoding.length := by
  cases key with
  | rsa key =>
    rw [PrivateKey.info] at h
    split at h
    · cases h
      exact (by decide : Oid.minLength ≤ Pkcs8.rsaEncryption.encoding.length)
    · contradiction
  | ec key =>
    cases h
    exact (by decide : Oid.minLength ≤ Pkcs8.ecPublicKey.encoding.length)
  | ed25519 key =>
    cases h
    exact (by decide : Oid.minLength ≤ Pkcs8.ed25519.encoding.length)
  | untyped key => exact hkey.elim

/-- A typed key is read back from its document. -/
theorem ofPkcs8_toPkcs8 {key : PrivateKey} (hkey : key.IsTyped) {document : Bytes}
    (h : key.toPkcs8 = .ok document) : ofPkcs8 document = .ok key := by
  obtain ⟨info, hinfo, hlength, rfl⟩ := (toPkcs8_eq_ok_iff hkey).1 h
  have hread := Pkcs8.PrivateKeyInfo.ofDer_encode hlength (minLength_le_of_info hkey hinfo)
  rw [ofPkcs8_eq hread]
  cases key with
  | rsa key =>
    rw [PrivateKey.info] at hinfo
    split at hinfo
    · rename_i document hdocument
      cases hinfo
      rw [← Pkcs8.PrivateKeyInfo.encodeWith_nil] at hlength
      have hprivate : document.encode.length ≤ maxLength :=
        Nat.le_trans (Nat.le_of_lt (Pkcs8.PrivateKeyInfo.length_privateKey_lt
          ⟨Pkcs8.rsaAlgorithm, document.encode, none⟩ _)) hlength
      have hkey : Rsa.Key.ofInfo ⟨Pkcs8.rsaAlgorithm, document.encode, none⟩ = .ok key :=
        Rsa.Key.ofInfo_rsaAlgorithm (Rsa.Key.ofPkcs1_encode hdocument hprivate)
      rw [hkey]
      rfl
    · contradiction
  | ec key =>
    cases hinfo
    simp only [Ec.curveOid_ecAlgorithm, Ec.Curve.ofOid?_oid, Ec.Key.ofInfo_encode_document]
    rfl
  | ed25519 key =>
    cases hinfo
    simp only [Ed25519.Key.ofInfo_ed25519Algorithm]
    rfl
  | untyped key => exact hkey.elim

end PrivateKey

end SealedKey
