import SealedKey.Pem.Block
import SealedKey.Text.WhiteSpace

/-!
# Reading PEM

Blocks are found in any text by their markers.  The search is one pass: when
a character does not continue the marker, the search starts again behind that
character, which is not looked at a second time.

* `cut?` splits a text at a marker.
* `Frame` is the text of one block, not yet looked into; `frames` finds all of
  them.  A block that lacks one of its parts ends the scan.
* `Frame.block` checks the labels, decodes the data and checks the headers.
* `Block.ofText` reads all blocks of a text, and fails if any of them is bad.
-/

namespace SealedKey.Pem

/-! ## Cutting a text at a marker -/

/-- What stands before and after the first place where the one-pass search finds `marker`. -/
def cut? (marker text : List Char) : Option (List Char × List Char) :=
  go marker [] text
where
  /--
  Searches on, with `wanted` the part of the marker that is still to come and
  `seen` the characters read so far, last first.
  -/
  go (wanted seen : List Char) : List Char → Option (List Char × List Char)
    | [] => none
    | c :: rest =>
      match wanted with
      | [] => none
      | w :: ws =>
        if c = w then
          if ws = [] then some (((c :: seen).drop marker.length).reverse, rest)
          else go ws (c :: seen) rest
        else go marker (c :: seen) rest

theorem cut?.length_lt_of_go {marker wanted seen text front back : List Char}
    (h : cut?.go marker wanted seen text = some (front, back)) : back.length < text.length := by
  induction text generalizing wanted seen with
  | nil => simp [cut?.go] at h
  | cons c rest ih =>
    cases wanted with
    | nil => simp [cut?.go] at h
    | cons w ws =>
      simp only [cut?.go] at h
      split at h
      · split at h
        · simp only [Option.some.injEq, Prod.mk.injEq] at h
          simp [← h.2]
        · exact Nat.lt_succ_of_lt (ih h)
      · exact Nat.lt_succ_of_lt (ih h)

/-- What is left after a cut is shorter than the text. -/
theorem length_lt_of_cut? {marker text front back : List Char}
    (h : cut? marker text = some (front, back)) : back.length < text.length :=
  cut?.length_lt_of_go h

/-! ## Frames -/

/-- The text of one block between its markers. -/
structure Frame where
  /-- The label of the BEGIN line. -/
  opening : List Char
  /-- What stands between the two lines, without leading blanks. -/
  payload : List Char
  /-- The label of the END line. -/
  closing : List Char
deriving DecidableEq, Repr

/-- The characters that may stand between the parts of a block. -/
def isBlank (c : Char) : Bool :=
  c = ' ' || c = '\t' || c = '\r' || c = '\n'

/-- The first block of a text and what follows it. -/
def frame? (text : List Char) : Option (Frame × List Char) := do
  let (_, text) ← cut? beginMarker text
  let (opening, text) ← cut? dashes text
  let (payload, text) ← cut? endMarker (text.dropWhile isBlank)
  let (closing, text) ← cut? dashes text
  return (⟨opening, payload, closing⟩, text.dropWhile isBlank)

theorem length_dropWhile_le (p : Char → Bool) (text : List Char) :
    (text.dropWhile p).length ≤ text.length :=
  (List.dropWhile_sublist p).length_le

theorem length_lt_of_frame? {text rest : List Char} {frame : Frame}
    (h : frame? text = some (frame, rest)) : rest.length < text.length := by
  simp only [frame?, Option.bind_eq_bind, Option.bind_eq_some_iff, Prod.exists, Option.pure_def,
    Option.some.injEq, Prod.mk.injEq] at h
  obtain ⟨_, rest₁, h₁, _, rest₂, h₂, _, rest₃, h₃, _, rest₄, h₄, -, rfl⟩ := h
  have := length_lt_of_cut? h₁
  have := length_lt_of_cut? h₂
  have := length_lt_of_cut? h₃
  have := length_lt_of_cut? h₄
  have := length_dropWhile_le isBlank rest₂
  have := length_dropWhile_le isBlank rest₄
  omega

/-- All blocks of a text, up to the first one that lacks a part. -/
def frames (text : List Char) : List Frame :=
  match _h : frame? text with
  | some (frame, rest) => frame :: frames rest
  | none => []
termination_by text.length
decreasing_by exact length_lt_of_frame? _h

/-! ## Blocks -/

/-- Why a text is no sequence of PEM blocks. -/
inductive Error where
  /-- The BEGIN line has no label. -/
  | missingBegin
  /-- The END line has no label. -/
  | missingEnd
  /-- The two lines of a block have different labels. -/
  | mismatch (opening closing : String)
  /-- The data is no Base64. -/
  | data (cause : Base64.Error)
  /-- A header line has no colon. -/
  | header (line : String)
  /-- There is no block at all. -/
  | noBlock
deriving DecidableEq, Repr

/-- The text of a PEM error. -/
def Error.message : Error → String
  | .missingBegin => "missing BEGIN tag"
  | .missingEnd => "missing END tag"
  | .mismatch opening closing =>
    s!"mismatching BEGIN (\"{opening}\") and END (\"{closing}\") tags"
  | .data cause => s!"invalid data: {cause.message}"
  | .header line => s!"invalid header: {line}"
  | .noBlock => "no PEM block found"

/--
The headers and the data of a block.  An empty line ends the headers; the first
one written with two line feeds counts, or else the first one written with two
pairs of carriage return and line feed.  Without an empty line all is data.
-/
def Frame.parts (frame : Frame) : List Char × List Char :=
  match cut? "\n\n".toList frame.payload with
  | some parts => parts
  | none => (cut? "\r\n\r\n".toList frame.payload).getD ([], frame.payload)

/-- A line that was ended by a line feed, without a carriage return at its end. -/
def dropReturn (line : List Char) : List Char :=
  if line.getLast? = some '\r' then line.dropLast else line

/--
The lines of a text.  A line feed ends a line, with a carriage return before
it if there is one; nothing after the last line feed is no line.
-/
def lines (text : List Char) : List (List Char) :=
  let pieces := text.splitOn '\n'
  pieces.dropLast.map dropReturn ++ (pieces.getLast?.toList.filter (· ≠ []))

/-- The block that a frame holds: equal labels, strict Base64, headers with colons. -/
def Frame.block (frame : Frame) : Except Error Block := do
  if frame.opening = [] then throw .missingBegin
  if frame.closing = [] then throw .missingEnd
  if frame.opening ≠ frame.closing then
    throw (.mismatch (String.ofList frame.opening) (String.ofList frame.closing))
  let (headers, data) := frame.parts
  let contents ← (Base64.decode (Bytes.ofChars (data.filter (!Text.isWhiteSpace ·)))).mapError .data
  if let some line := (lines headers).find? (!·.contains ':') then
    throw (.header (String.ofList line))
  return ⟨String.ofList frame.opening, contents⟩

/-- All blocks of a text; the first bad one decides the error. -/
def Block.ofText (text : String) : Except Error (List Block) :=
  (frames text.toList).mapM Frame.block

end SealedKey.Pem
