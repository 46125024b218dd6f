import SealedKey.Base64

/-!
# PEM blocks

A PEM block is a label and a byte string.  It is written as a BEGIN line, the
Base64 form of the bytes in lines of 64 characters, and an END line; a block
without bytes has no line between the two.

There are two writers.  `Block.toText` encodes all bytes and cuts the symbols into
lines; `Block.toTextByLines` encodes the bytes of each line by themselves.  Private keys are
written by the second one, and public keys by the first one.

Reading is in `SealedKey.Pem.Scan`.
-/

namespace SealedKey.Pem

/-- A labelled byte string. -/
structure Block where
  /-- The text between `BEGIN` and the dashes. -/
  label : String
  /-- What the Base64 lines stand for. -/
  contents : Bytes
deriving DecidableEq, Repr

/-- The opening of a BEGIN line. -/
def beginMarker : List Char := "-----BEGIN ".toList

/-- The opening of an END line. -/
def endMarker : List Char := "-----END ".toList

/-- What closes a BEGIN or END line. -/
def dashes : List Char := "-----".toList

/-- The number of characters of a full data line. -/
def lineWidth : Nat := 64

/-! ## Encoding before cutting -/

/-- The text in lines of `lineWidth` characters, each ended by a line feed. -/
def wrap (text : List Char) : List Char :=
  if text = [] then []
  else text.take lineWidth ++ '\n' :: wrap (text.drop lineWidth)
termination_by text.length
decreasing_by
  rename_i h
  have : 0 < text.length := List.length_pos_iff.2 h
  simp only [List.length_drop, lineWidth]
  omega

/-- The text of a block whose contents are encoded first. -/
def Block.toText (block : Block) : String :=
  String.ofList (
    beginMarker ++ block.label.toList ++ dashes ++ ['\n'] ++
    wrap (Base64.encode block.contents) ++
    endMarker ++ block.label.toList ++ dashes ++ ['\n'])

/-! ## Encoding line by line -/

/-- Lines one after the other, each ended by a line feed. -/
def unlines (lines : List (List Char)) : List Char :=
  lines.flatMap (· ++ ['\n'])

/-- The number of bytes on a full line. -/
def lineBytes : Nat := 48

/-- The lines of the contents of a block: the next 48 bytes are encoded by themselves. -/
def dataLines (bytes : Bytes) : List (List Char) :=
  if bytes = [] then []
  else Base64.encode (bytes.take lineBytes) :: dataLines (bytes.drop lineBytes)
termination_by bytes.length
decreasing_by
  rename_i h
  have : 0 < bytes.length := List.length_pos_iff.2 h
  simp only [List.length_drop, lineBytes]
  omega

/-- The text of a block with these data lines. -/
def blockText (label : String) (lines : List (List Char)) : String :=
  String.ofList (
    beginMarker ++ label.toList ++ dashes ++ ['\n'] ++ unlines lines ++
    endMarker ++ label.toList ++ dashes ++ ['\n'])

/-- The text of a block whose contents are encoded line by line. -/
def Block.toTextByLines (block : Block) : String :=
  blockText block.label (dataLines block.contents)

end SealedKey.Pem
