import SealedKey.Hash.Sha256
import SealedKey.Key.Import
import SealedKey.Pkcs8.PublicKeyInfo

/-!
# Writing private keys

The PKCS#8 document of a key, its public key document, and the fingerprint of the
latter, which is the same in whatever form the key was read.

A typed key has one document.  A key of another algorithm has the document from which it
was read, and a public key only if that holds one.
-/

namespace SealedKey

/-! ## Algorithm identifiers of typed keys -/

namespace Pkcs8

/-- The algorithm identifier of RSA keys. -/
def rsaAlgorithm : AlgorithmIdentifier :=
  ⟨rsaEncryption, some nullParameter⟩

/-- The algorithm identifier of keys on a curve. -/
def ecAlgorithm (curve : Ec.Curve) : AlgorithmIdentifier :=
  ⟨ecPublicKey, some (oidParameter curve.oid)⟩

/-- The algorithm identifier of Ed25519 keys. -/
def ed25519Algorithm : AlgorithmIdentifier :=
  ⟨ed25519, none⟩

end Pkcs8

namespace PrivateKey

/-! ## Private key documents -/

/-- The contents of the PKCS#8 document of a key. -/
def info : PrivateKey → Except KeyError Pkcs8.PrivateKeyInfo
  | rsa key =>
    match key.document? with
    | some document => return ⟨Pkcs8.rsaAlgorithm, document.encode, none⟩
    | none => throw .malformed
  | ec key => return ⟨Pkcs8.ecAlgorithm key.curve, key.document.encode, none⟩
  | ed25519 key => return ⟨Pkcs8.ed25519Algorithm, key.privateKey, some key.publicKey⟩
  | untyped key => return key.info

/-- The PKCS#8 document that a key has apart from any that it was read from. -/
def canonicalDocument (key : PrivateKey) : Except KeyError Bytes := do
  (Der.document (← key.info).encode).mapError .der

/-- The PKCS#8 document of a key. -/
def toPkcs8 : PrivateKey → Except Error Bytes
  | untyped key => return key.document
  | key => key.canonicalDocument.mapError fun cause => .encoding cause.message

/-- The PKCS#8 document of a key as a PEM text. -/
def toPem (key : PrivateKey) : Except Error String := do
  return (Pem.Block.mk Label.privateKey (← key.toPkcs8)).toTextByLines

/-! ## Public keys -/

/-- The contents of the public key document of a key. -/
def publicKeyInfo : PrivateKey → Except Error Pkcs8.PublicKeyInfo
  | rsa key => return ⟨Pkcs8.rsaAlgorithm, key.publicKey.encode⟩
  | ec key => return ⟨Pkcs8.ecAlgorithm key.curve, key.publicKey⟩
  | ed25519 key => return ⟨Pkcs8.ed25519Algorithm, key.publicKey⟩
  | untyped key =>
    match key.info.publicKey with
    | some bytes => return ⟨key.info.algorithm, bytes⟩
    | none =>
      let algorithm := (PrivateKey.untyped key).algorithm
      throw (.unsupportedAlgorithm s!"no public key can be derived for {algorithm.describe}")

/--
The error of a key whose public key cannot be written.  That of an untyped key is taken from its
document, and the error is one of reading it.
-/
def publicKeyError : PrivateKey → Der.Error → Error
  | untyped _, cause => .decoding cause.message
  | _, cause => .encoding (AlgorithmError.der cause).message

/-- The public key document of a key. -/
def publicKeyDocument (key : PrivateKey) : Except Error Bytes := do
  (Der.document (← key.publicKeyInfo).encode).mapError key.publicKeyError

/-- The public key document of a key as a PEM text. -/
def publicKeyPem (key : PrivateKey) : Except Error String := do
  return (Pem.Block.mk Label.publicKey (← key.publicKeyDocument)).toText

/-- The digest of the public key document, in Base64 without padding. -/
def fingerprint (key : PrivateKey) : Except Error String := do
  let digest := Hash.sha256.digest (← key.publicKeyDocument)
  return "SHA256:" ++ String.ofList (Base64.encodeUnpadded digest)

end PrivateKey

end SealedKey
