import SealedKey.Pkcs5.Scheme

/-!
# Reading encryption schemes

A scheme is read as an algorithm identifier, and its parameters by what the identifier
says.  Parameters are documents of their own: offsets in errors count from the
start of their contents.
-/

namespace SealedKey.Pkcs5

open Pkcs8 (AlgorithmIdentifier)

/-! ## Key derivation -/

/-- The function that an algorithm identifier with a null parameter names. -/
def Prf.ofIdentifier (algorithm : AlgorithmIdentifier) : Except Der.Error Prf :=
  match algorithm.parameters with
  | none => throw (.malformed .null)
  | some parameter =>
    if parameter ≠ Pkcs8.nullParameter then throw (.malformed parameter.tag)
    else
      match all.find? (·.oid = algorithm.oid) with
      | some prf => return prf
      | none => throw (.unknownOid algorithm.oid)

/-- Reads the parameters of PBKDF2. -/
def Pbkdf2.readFields : Der.Reader Pbkdf2 := do
  let salt ← Der.Reader.octets
  let iterations ← Der.Reader.unsigned 4
  let keyLength ← Der.Reader.optional .integer (Der.Reader.unsigned 2)
  let identifier ← Der.Reader.optional .sequence AlgorithmIdentifier.read
  let prf ← identifier.elim (return Prf.standard) fun algorithm => liftM (Prf.ofIdentifier algorithm)
  return ⟨salt, iterations, keyLength, prf⟩

/-- Reads the parameters of scrypt. -/
def Scrypt.readFields : Der.Reader Scrypt := do
  let salt ← Der.Reader.octets
  let n ← Der.Reader.unsigned 8
  let r ← Der.Reader.unsigned 2
  let p ← Der.Reader.unsigned 2
  let keyLength ← Der.Reader.optional .integer (Der.Reader.unsigned 2)
  return ⟨salt, ⟨n, r, p⟩, keyLength⟩

/-- The key derivation that an algorithm identifier names. -/
def Derivation.ofIdentifier (algorithm : AlgorithmIdentifier) : Except Der.Error Derivation :=
  match algorithm.parameters with
  | none => throw (.malformed .octetString)
  | some parameters =>
    if algorithm.oid = Pbkdf2.oid then
      return .pbkdf2 (← Der.Reader.ofSequence Pbkdf2.readFields parameters)
    else if algorithm.oid = Scrypt.oid then
      return .scrypt (← Der.Reader.ofSequence Scrypt.readFields parameters)
    else throw (.unknownOid algorithm.oid)

/-! ## Ciphers -/

/-- The cipher and the initialization vector that an algorithm identifier names. -/
def AesCbc.ofIdentifier (algorithm : AlgorithmIdentifier) : Except Der.Error (AesCbc × Bytes) :=
  match algorithm.parameters with
  | none => throw (.malformed .octetString)
  | some parameter =>
    if parameter.tag ≠ .octetString then throw (.unexpectedTag none parameter.tag)
    else
      match all.find? (·.oid = algorithm.oid) with
      | none => throw (.unknownOid algorithm.oid)
      | some cipher =>
        if parameter.contents.length = ivSize then return (cipher, parameter.contents)
        else throw (.malformed .octetString)

/-! ## Schemes -/

/-- Reads the parameters of a scheme of the second kind. -/
def Pbes2.readFields : Der.Reader Pbes2 := do
  let derivation ← AlgorithmIdentifier.read
  let cipher ← AlgorithmIdentifier.read
  let derivation ← liftM (Derivation.ofIdentifier derivation)
  let (cipher, iv) ← liftM (AesCbc.ofIdentifier cipher)
  return ⟨derivation, cipher, iv⟩

/-- Reads the parameters of a scheme of the first kind, which `oid` names. -/
def Pbes1.readFields (oid : Oid) : Der.Reader Pbes1 := do
  let salt ← Der.Reader.octets
  if salt.length ≠ saltSize then throw (.malformed .octetString)
  return ⟨oid, salt, ← Der.Reader.unsigned 2⟩

/-- The scheme that an algorithm identifier names. -/
def Scheme.ofIdentifier (algorithm : AlgorithmIdentifier) : Except Der.Error Scheme :=
  if algorithm.oid = Pbes2.oid then
    match algorithm.parameters with
    | none => throw (.malformed .octetString)
    | some parameters => return .pbes2 (← Der.Reader.ofSequence Pbes2.readFields parameters)
  else if algorithm.oid ∉ Pbes1.oids then throw (.malformed .objectIdentifier)
  else
    match algorithm.parameters with
    | none => throw (.malformed .octetString)
    | some parameters =>
      return .pbes1 (← Der.Reader.ofSequence (Pbes1.readFields algorithm.oid) parameters)

/-- Reads a scheme. -/
def Scheme.read : Der.Reader Scheme := do
  liftM (Scheme.ofIdentifier (← AlgorithmIdentifier.read))

end SealedKey.Pkcs5
