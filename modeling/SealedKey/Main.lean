import SealedKey.CommandLine.Program
import Std.Time

/-!
# The program on an operating system

The host of the program is the operating system: its files, its random bytes, and standard
error for the events that the log setting shows.  All decisions are made in
`SealedKey.CommandLine`.
-/

namespace SealedKey

/-- The operating system as a host, with a log filter. -/
abbrev SystemHost := ReaderT Log.Filter IO

namespace SystemHost

/-- The error number of a failed system call. -/
def errorNumber : IO.Error → UInt32
  | .alreadyExists _ number _ | .otherError number _ | .resourceBusy number _
  | .resourceVanished number _ | .unsupportedOperation number _ | .hardwareFault number _
  | .unsatisfiedConstraints number _ | .illegalOperation number _ | .protocolError number _
  | .timeExpired number _ | .interrupted _ number _ | .noFileOrDirectory _ number _
  | .invalidArgument _ number _ | .permissionDenied _ number _ | .resourceExhausted _ number _
  | .inappropriateType _ number _ | .noSuchThing _ number _ => number
  | .unexpectedEof | .userError _ => 0

/-- An error of the operating system.  Some system calls give its number with a minus sign. -/
def fileError (error : IO.Error) : FileError :=
  let number := (errorNumber error).toNat
  .system (if number < (1 <<< 31) then number else (1 <<< 32) - number)

/-- The result of an action on a file. -/
def onFile {α : Type} (path : String) (action : IO α) : IO (Except FileError α) := do
  if path.contains '\x00' then return .error .nulInPath
  try return .ok (← action)
  catch error => return .error (fileError error)

/-- The number of random bytes that an encryption draws. -/
def supplySize : Nat := PrivateKey.saltSize + Pkcs5.AesCbc.ivSize

/-- The time, to the microsecond. -/
def timestamp : IO String := do
  let now := Std.Time.DateTime.ofTimestamp (← Std.Time.Timestamp.now) .UTC
  return now.format "uuuu-MM-dd'T'HH:mm:ss.SSSSSS'Z'"

instance : Host SystemHost where
  readFile path := onFile path do
    return (← IO.FS.readBinFile path).data.toList
  writeFile path contents := onFile path do
    IO.FS.writeBinFile path ⟨contents.toArray⟩
  draw step := do
    let supply ← IO.getRandomBytes supplySize.toUSize
    return (step.run supply.data.toList).map Prod.fst
  record event := do
    if (← read).shows event then
      IO.eprintln (event.line (← timestamp))

end SystemHost

end SealedKey

/-- Runs the program on the operating system. -/
def main (arguments : List String) : IO UInt32 := do
  let setting ← IO.getEnv "RUST_LOG"
  let ending ← match SealedKey.Log.Filter.ofSetting? setting with
    | some filter =>
      let run : SealedKey.SystemHost SealedKey.CommandLine.Ending :=
        SealedKey.CommandLine.run arguments
      run.run filter
    | none => pure .aborted
  IO.print ending.output
  IO.eprint ending.complaint
  return ending.exitCode.toUInt32
