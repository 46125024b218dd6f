import SealedKey.Entropy
import SealedKey.Key.Export
import SealedKey.Key.Protection
import SealedKey.Pkcs5.Encryption
import SealedKey.Pkcs8.EncryptedKeyInfo

/-!
# Encrypting and decrypting private keys

`PrivateKey.encrypt` encrypts the PKCS#8 document of a key and writes an encrypted PEM
text; it draws a new salt and a new initialization vector.  `PrivateKey.ofEncryptedPem`
reads such a text of any supported scheme.  `SchemeDetails.ofPem` says how a text
is encrypted and needs no passphrase.
-/

namespace SealedKey

/-! ## Encryption -/

namespace PrivateKey

/-- The number of bytes of a salt. -/
def saltSize : Nat := 16

/--
The document that is encrypted: the document of the key is read, and what it says is written
again.  This is the algorithm, the private key and the public key; other fields of the document of
an untyped key are left out.  What was read can always be written, so this step comes before
all draws.
-/
def essentialDocument (key : PrivateKey) : Except Error Bytes := do
  let document ← key.toPkcs8
  let info ← (Pkcs8.PrivateKeyInfo.ofDer document).mapError fun cause => .ofKeyError (.der cause)
  (Der.document info.encode).mapError fun cause => .encryption (KeyError.der cause).message

/-- The encrypted PEM text of a document, with a given salt and initialization vector. -/
def encryptedPem (protection : Protection) (salt iv : Bytes) (passphrase : Passphrase)
    (document : Bytes) : Except Error String := do
  let scheme := protection.scheme salt iv
  let refuse := fun (cause : Pkcs5.Error) => Error.encryption cause.message
  unless protection.Admitted do
    throw (refuse (.invalidParameters scheme.derivation.oid))
  let encrypted ← (scheme.encrypt passphrase.bytes document).mapError refuse
  let contents ← (Der.document (Pkcs8.EncryptedKeyInfo.encode scheme encrypted)).mapError
    fun cause => Error.encryption (KeyError.der cause).message
  return (Pem.Block.mk Label.encryptedPrivateKey contents).toTextByLines

/--
Encrypts a key.  A key that has no document fails before anything is drawn; the salt and
the initialization vector are drawn before the scheme is looked at.
-/
def encrypt (key : PrivateKey) (passphrase : Passphrase) (protection : Protection) :
    Draw (Except Error String) := do
  match key.essentialDocument with
  | .error cause => return .error cause
  | .ok document =>
    let salt ← Draw.bytes saltSize
    let iv ← Draw.bytes Pkcs5.AesCbc.ivSize
    return encryptedPem protection salt iv passphrase document

/-- Encrypts the private key of a PEM text. -/
def encryptPem (text : String) (passphrase : Passphrase) (protection : Protection) :
    Draw (Except Error String) := do
  match ofPem text with
  | .error cause => return .error cause
  | .ok key => key.encrypt passphrase protection

end PrivateKey

/-! ## Decryption -/

namespace Pkcs8.EncryptedKeyInfo

/-- The encrypted private key of a PEM text. -/
def ofPem (text : String) : Except SealedKey.Error EncryptedKeyInfo := do
  let block ← Pem.privateKeyBlock text
  if block.label = Label.encryptedPrivateKey then
    (ofDer block.contents).mapError fun cause => .ofKeyError (.der cause)
  else throw (.notEncrypted block.label)

/-- Reads a document that is one sequence, whatever its fields are. -/
def readSequence : Der.Reader Unit := do
  let _ ← Der.Reader.take (← Der.Reader.expect .sequence)
  return ()

/-- The private key document that a passphrase gives. -/
def decrypt (info : EncryptedKeyInfo) (passphrase : Passphrase) : Except SealedKey.Error Bytes := do
  let document ← (info.scheme.decrypt passphrase.bytes info.encrypted).mapError
    fun cause => SealedKey.Error.decryption cause.message
  (Der.Reader.run readSequence document).mapError
    fun cause => SealedKey.Error.decryption (KeyError.der cause).message
  return document

end Pkcs8.EncryptedKeyInfo

/--
The error of a decrypted document that holds no key: most likely, the passphrase was wrong
and the document is noise.
-/
def Error.whileDecrypting : Error → Error
  | .decoding reason => .decryption reason
  | error => error

namespace PrivateKey

/-- The private key of an encrypted PEM text. -/
def ofEncryptedPem (text : String) (passphrase : Passphrase) : Except Error PrivateKey := do
  let info ← Pkcs8.EncryptedKeyInfo.ofPem text
  let document ← info.decrypt passphrase
  (ofPkcs8 document).mapError .whileDecrypting

/-- The private key of an encrypted PEM text, as an unencrypted PEM text. -/
def decryptPem (text : String) (passphrase : Passphrase) : Except Error String := do
  (← ofEncryptedPem text passphrase).toPem

end PrivateKey

/-- How the private key of an encrypted PEM text is encrypted. -/
def SchemeDetails.ofPem (text : String) : Except Error SchemeDetails := do
  return ofScheme (← Pkcs8.EncryptedKeyInfo.ofPem text).scheme

end SealedKey
