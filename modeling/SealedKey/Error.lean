import SealedKey.Text.Quoted

/-!
# Errors

Every operation of the library fails with one `Error`: the stage that failed,
and the reason as a text.  The stages of the formats below (PEM, DER, Base64)
have error types of their own, which say the cause; their texts become the
reasons here.

`Error.message` is the text for people.  `Error.debug` shows the value with
its constructor; strings in it are quoted (`SealedKey.Text.Quoted`).
-/

namespace SealedKey

/-- Why an operation on keys or fixture files failed. -/
inductive Error where
  /-- A file could not be read or written. -/
  | io (path reason : String)
  /-- A text is no PEM, or holds no block. -/
  | pem (reason : String)
  /-- A document is not what its label promises. -/
  | decoding (reason : String)
  /-- A key has no encoded form. -/
  | encoding (reason : String)
  /-- No PEM block holds a private key of a known container. -/
  | unsupportedLabel (label : String)
  /-- The algorithm of a key does not support the operation. -/
  | unsupportedAlgorithm (reason : String)
  /-- A plain key was wanted, and an encrypted one found. -/
  | alreadyEncrypted
  /-- An encrypted key was wanted, and a block with this label found. -/
  | notEncrypted (label : String)
  /-- A key could not be encrypted. -/
  | encryption (reason : String)
  /-- A key could not be decrypted. -/
  | decryption (reason : String)
  /-- No key could be generated. -/
  | keyGeneration (reason : String)
deriving DecidableEq, Repr

/-! ## The two texts of an error -/

namespace Error

/-- The text of an error for people. -/
def message : Error → String
  | io path reason => s!"I/O error on {path}: {reason}"
  | pem reason => s!"Failed to parse PEM: {reason}"
  | decoding reason => s!"Failed to decode data: {reason}"
  | encoding reason => s!"Failed to encode data: {reason}"
  | unsupportedLabel label => s!"Unsupported PEM label: {label}"
  | unsupportedAlgorithm reason => s!"Unsupported key algorithm: {reason}"
  | alreadyEncrypted => "Key is already encrypted"
  | notEncrypted label => s!"Key is not encrypted (found PEM label {label})"
  | encryption reason => s!"Encryption failed: {reason}"
  | decryption reason => s!"Decryption failed: {reason}"
  | keyGeneration reason => s!"Key generation error: {reason}"

/-- The name of the stage that failed. -/
def kind : Error → String
  | io .. => "Io"
  | pem _ => "Pem"
  | decoding _ => "Decoding"
  | encoding _ => "Encoding"
  | unsupportedLabel _ => "UnsupportedLabel"
  | unsupportedAlgorithm _ => "UnsupportedAlgorithm"
  | alreadyEncrypted => "AlreadyEncrypted"
  | notEncrypted _ => "NotEncrypted"
  | encryption _ => "Encryption"
  | decryption _ => "Decryption"
  | keyGeneration _ => "KeyGeneration"

/-- The error as a value: its stage and what it holds, with quoted strings. -/
def debug (error : Error) : String :=
  match error with
  | io path reason =>
    "Io \x7b path: " ++ quoted path ++ ", message: " ++ quoted reason ++ " \x7d"
  | alreadyEncrypted => error.kind
  | pem text | decoding text | encoding text | unsupportedLabel text
  | unsupportedAlgorithm text | notEncrypted text | encryption text | decryption text
  | keyGeneration text => s!"{error.kind}({quoted text})"

end Error

end SealedKey
