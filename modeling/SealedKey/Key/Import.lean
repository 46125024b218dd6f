import SealedKey.Error
import SealedKey.Key.Basic
import SealedKey.Pem.Scan

/-!
# Reading private keys

A private key comes in one of three containers: a PKCS#8 document, which names its
algorithm, a PKCS#1 document for RSA, or a SEC1 document for a curve.  `ofPkcs8`,
`ofPkcs1` and `ofSec1` read them.

`PrivateKey.ofPem` finds the private key block of a text and reads what its label
says.
-/

namespace SealedKey

/-! ## Causes of failure -/

/-- Why a public key algorithm cannot be used. -/
inductive AlgorithmError where
  /-- A part of the algorithm is no DER of its type. -/
  | der (cause : Der.Error)
  /-- The algorithm has no parameters and needs them. -/
  | parametersMissing
  /-- The parameters are not those of the algorithm. -/
  | malformed
deriving DecidableEq, Repr

/-- The text of an algorithm error. -/
def AlgorithmError.message : AlgorithmError → String
  | der cause => s!"ASN.1 error: {cause.message}"
  | parametersMissing => "AlgorithmIdentifier parameters missing"
  | malformed => "SPKI cryptographic key data malformed"

/-- Why a private key document holds no key, or a key has none. -/
inductive KeyError where
  /-- The document is no DER of its type. -/
  | der (cause : Der.Error)
  /-- The private key is not one of the algorithm. -/
  | malformed
  /-- The algorithm has parameters that it cannot have. -/
  | parametersMalformed
  /-- The algorithm cannot be used. -/
  | algorithm (cause : AlgorithmError)
deriving DecidableEq, Repr

/-- The text of a key error. -/
def KeyError.message : KeyError → String
  | der cause => s!"PKCS#8 ASN.1 error: {cause.message}"
  | malformed => "PKCS#8 cryptographic key data malformed"
  | parametersMalformed => "PKCS#8 algorithm parameters malformed"
  | algorithm cause => s!"public key error: {cause.message}"

/-- The error of a document that cannot be decoded. -/
def Error.ofKeyError (cause : KeyError) : Error :=
  .decoding cause.message

/-! ## The algorithms of a PKCS#8 document -/

namespace Rsa.Key

/-- The key of a PKCS#1 document. -/
def ofPkcs1 (document : Bytes) : Except KeyError Key := do
  let document ← (Document.ofDer document).mapError .der
  match ofDocument? document with
  | some key => return key
  | none => throw .malformed

/-- The key of a PKCS#8 document of the algorithm; its parameter must be null. -/
def ofInfo (info : Pkcs8.PrivateKeyInfo) : Except KeyError Key :=
  match info.algorithm.parameters with
  | none => throw (.algorithm .parametersMissing)
  | some parameter =>
    if parameter = Pkcs8.nullParameter then ofPkcs1 info.privateKey
    else throw (.algorithm .malformed)

end Rsa.Key

namespace Ec

/-- The curve that the parameters of an algorithm name. -/
def curveOid (algorithm : Pkcs8.AlgorithmIdentifier) : Except AlgorithmError Oid :=
  match algorithm.parameters with
  | none => throw .parametersMissing
  | some parameter =>
    if parameter.tag = .objectIdentifier then
      match Oid.ofBytes? parameter.contents with
      | some oid => return oid
      | none => throw (.der .malformedOid)
    else throw (.der (.unexpectedTag (some .objectIdentifier) parameter.tag))

/-- The key on a curve of a PKCS#8 document. -/
def Key.ofInfo (curve : Curve) (info : Pkcs8.PrivateKeyInfo) : Except KeyError Key :=
  (ofDer curve info.privateKey).mapError .der

end Ec

namespace Ed25519.Key

/--
The key of a PKCS#8 document of the algorithm.  It has no parameters, and a public key in
the document must be that of the key.
-/
def ofInfo (info : Pkcs8.PrivateKeyInfo) : Except KeyError Key := do
  if info.algorithm.parameters.isSome then throw .parametersMalformed
  let some key := ofPrivateKey? info.privateKey | throw .malformed
  if info.publicKey.all (· = key.publicKey) then return key else throw .malformed

end Ed25519.Key

namespace PrivateKey

/-! ## Containers -/

/-- The key of a PKCS#8 document. -/
def ofPkcs8 (document : Bytes) : Except Error PrivateKey :=
  match h : Pkcs8.PrivateKeyInfo.ofDer document with
  | .error cause => throw (.ofKeyError (.der cause))
  | .ok info =>
    let untyped := PrivateKey.untyped ⟨document, info, h⟩
    if info.algorithm.oid = Pkcs8.rsaEncryption then
      (rsa <$> Rsa.Key.ofInfo info).mapError .ofKeyError
    else if info.algorithm.oid = Pkcs8.ecPublicKey then
      match Ec.curveOid info.algorithm with
      | .error cause => throw (.encoding cause.message)
      | .ok oid =>
        match Ec.Curve.ofOid? oid with
        | some curve => (ec <$> Ec.Key.ofInfo curve info).mapError .ofKeyError
        | none => return untyped
    else if info.algorithm.oid = Pkcs8.ed25519 then
      (ed25519 <$> Ed25519.Key.ofInfo info).mapError .ofKeyError
    else return untyped

/-- The key of a PKCS#1 document. -/
def ofPkcs1 (document : Bytes) : Except Error PrivateKey :=
  (rsa <$> Rsa.Key.ofPkcs1 document).mapError .ofKeyError

/-- The key of a SEC1 document, on the first curve for which it is a key. -/
def ofSec1 (document : Bytes) : Except Error PrivateKey :=
  match Ec.Key.ofDerAnyCurve? document with
  | some key => return ec key
  | none => throw (.decoding "not a P-256, P-384 or P-521 SEC1 private key")

end PrivateKey

/-! ## PEM -/

namespace Label

/-- The label of a PKCS#8 document. -/
def privateKey : String := "PRIVATE KEY"

/-- The label of an encrypted PKCS#8 document. -/
def encryptedPrivateKey : String := "ENCRYPTED PRIVATE KEY"

/-- The label of a PKCS#1 document. -/
def rsaPrivateKey : String := "RSA PRIVATE KEY"

/-- The label of a SEC1 document. -/
def ecPrivateKey : String := "EC PRIVATE KEY"

/-- The label of a public key document. -/
def publicKey : String := "PUBLIC KEY"

end Label

namespace Pem

/-- Whether a block says that it holds a private key, of whatever kind. -/
def Block.isPrivateKey (block : Block) : Bool :=
  Label.privateKey.toList.isSuffixOf block.label.toList

/--
The private key block of a text: the first block whose label ends like that of a private
key.  Other blocks, such as curve parameters, may stand before it, but must be good
blocks.
-/
def privateKeyBlock (text : String) : Except SealedKey.Error Block := do
  let blocks ← (Block.ofText text).mapError fun cause => SealedKey.Error.pem cause.message
  match blocks with
  | [] => throw (.pem Error.noBlock.message)
  | first :: _ =>
    match blocks.find? Block.isPrivateKey with
    | some block => return block
    | none => throw (.unsupportedLabel first.label)

end Pem

/-- The unencrypted private key of a PEM text. -/
def PrivateKey.ofPem (text : String) : Except Error PrivateKey := do
  let block ← Pem.privateKeyBlock text
  if block.label = Label.privateKey then ofPkcs8 block.contents
  else if block.label = Label.rsaPrivateKey then ofPkcs1 block.contents
  else if block.label = Label.ecPrivateKey then ofSec1 block.contents
  else if block.label = Label.encryptedPrivateKey then throw .alreadyEncrypted
  else throw (.unsupportedLabel block.label)

end SealedKey
