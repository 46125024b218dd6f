import SealedKey.Base64
import SealedKey.Bytes
import SealedKey.Bytes.Lemmas
import SealedKey.Cipher.Aes
import SealedKey.Cipher.Cbc
import SealedKey.Cipher.Substitution
import SealedKey.CommandLine.Arguments
import SealedKey.CommandLine.Help
import SealedKey.CommandLine.Program
import SealedKey.Der.Error
import SealedKey.Der.Reader
import SealedKey.Der.Tag
import SealedKey.Der.Writer
import SealedKey.Ec.Curve
import SealedKey.Ec.Document
import SealedKey.Ec.Key
import SealedKey.Ed25519.Curve
import SealedKey.Ed25519.Key
import SealedKey.Entropy
import SealedKey.Error
import SealedKey.FileTree.Basic
import SealedKey.FileTree.Error
import SealedKey.Fixture.Host
import SealedKey.Fixture.Job
import SealedKey.Fixture.Paths
import SealedKey.Fixture.Report
import SealedKey.Hash.Basic
import SealedKey.Hash.Hmac
import SealedKey.Hash.Sha2
import SealedKey.Hash.Sha256
import SealedKey.Hash.Sha512
import SealedKey.Kdf.Pbkdf2
import SealedKey.Kdf.Scrypt
import SealedKey.Key.Algorithm
import SealedKey.Key.Basic
import SealedKey.Key.Encryption
import SealedKey.Key.Export
import SealedKey.Key.Generate
import SealedKey.Key.Import
import SealedKey.Key.Protection
import SealedKey.Log.Directive
import SealedKey.Log.Event
import SealedKey.Log.Filter
import SealedKey.Log.Pattern
import SealedKey.Main
import SealedKey.Modular
import SealedKey.Modular.Lemmas
import SealedKey.Oid.Basic
import SealedKey.Oid.Names
import SealedKey.Pem.Block
import SealedKey.Pem.Scan
import SealedKey.Pkcs5.Encryption
import SealedKey.Pkcs5.Reader
import SealedKey.Pkcs5.Scheme
import SealedKey.Pkcs8.AlgorithmIdentifier
import SealedKey.Pkcs8.EncryptedKeyInfo
import SealedKey.Pkcs8.PrivateKeyInfo
import SealedKey.Pkcs8.PublicKeyInfo
import SealedKey.Proofs.Base64
import SealedKey.Proofs.Bytes
import SealedKey.Proofs.Cipher.Block
import SealedKey.Proofs.Cipher.Chaining
import SealedKey.Proofs.Der.Elements
import SealedKey.Proofs.Der.Fields
import SealedKey.Proofs.Der.Reads
import SealedKey.Proofs.Ec.Document
import SealedKey.Proofs.Ec.Key
import SealedKey.Proofs.Entropy
import SealedKey.Proofs.Except
import SealedKey.Proofs.FileTree
import SealedKey.Proofs.Fixture.Action
import SealedKey.Proofs.Fixture.Job
import SealedKey.Proofs.Fixture.Turns
import SealedKey.Proofs.Key.Document
import SealedKey.Proofs.Key.Encryption
import SealedKey.Proofs.Key.PublicKey
import SealedKey.Proofs.Key.Reread
import SealedKey.Proofs.Key.RoundTrip
import SealedKey.Proofs.Key.Untyped
import SealedKey.Proofs.Pem.Cut
import SealedKey.Proofs.Pem.RoundTrip
import SealedKey.Proofs.Pkcs5.Scheme
import SealedKey.Proofs.Pkcs8.Layout
import SealedKey.Proofs.Rsa.Document
import SealedKey.Rsa.Document
import SealedKey.Rsa.Generate
import SealedKey.Rsa.Key
import SealedKey.Rsa.Prime
import SealedKey.Text.Alphanumeric
import SealedKey.Text.Printable
import SealedKey.Text.Quoted
import SealedKey.Text.Ranges
import SealedKey.Text.Slice
import SealedKey.Text.Terminal
import SealedKey.Text.WhiteSpace
import SealedKey.Proofs.Key.NormalForm
import SealedKey.Proofs.Key.Dispatch
import SealedKey.Proofs.Key.Decryption
import SealedKey.Proofs.Fixture.Decryption
import SealedKey.Proofs.Hash.KeyBlock
import SealedKey.Proofs.Key.Passphrase
import SealedKey.Proofs.Pem.File
import SealedKey.Proofs.Key.Container
import SealedKey.Proofs.Key.Stages
import SealedKey.Proofs.Key.Export
import SealedKey.Proofs.Fixture.Conversion
import SealedKey.Proofs.Key.FirstCurve
import SealedKey.Proofs.Key.TwoPrimes
import SealedKey.Proofs.Key.Inspection
import SealedKey.Proofs.Fixture.Agreement
import SealedKey.Proofs.Pem.Truncation
import SealedKey.Proofs.Key.Truncation
import SealedKey.Proofs.Key.Freshness
import SealedKey.Proofs.Key.Contents
import SealedKey.Proofs.Fixture.PublicKey
import SealedKey.Proofs.Key.EmbeddedKey
import SealedKey.Proofs.Key.Surplus
import SealedKey.Proofs.Pem.LineEndings
import SealedKey.Proofs.Key.LineEndings
import SealedKey.Proofs.Pem.Layout
import SealedKey.Proofs.Key.Layout
import SealedKey.Proofs.Log.Setting
import SealedKey.Proofs.Fixture.Log
import SealedKey.Proofs.CommandLine.Program
