import SealedKey.Proofs.Pem.RoundTrip

/-!
# Files of several blocks

A file can hold any number of blocks, with other text before, between and behind them.
`Block.ofText_file` says that the reader finds in such a file exactly its blocks, and
`privateKeyBlock_file` that it chooses the first of them that holds a private key.

The text between blocks may be anything without a BEGIN marker that ends with a whole line
(`IsFiller`).  The line feed matters: the search for a marker does not back up, so a dash right
before a BEGIN line would hide it.

* `dropWhile_isBlank_append`: behind a block, only the blanks of the text that follows are skipped,
  and never a part of the next block.
* `frames_fileChars` is the induction on the blocks.  It carries along what may stand before
  the first of them.
-/

namespace SealedKey.Pem

/-! ## Text beside blocks -/

/-- A text that can stand beside blocks: it has no BEGIN marker and ends with a whole line. -/
structure IsFiller (text : List Char) : Prop where
  not_infix : ¬ beginMarker <:+: text
  ends_line : text = [] ∨ text.getLast? = some '\n'

/-- A filler can stand before a BEGIN line. -/
theorem IsFiller.gap {text : List Char} (h : IsFiller text) : Gap beginMarker text where
  not_infix := h.not_infix
  getLast?_notMem c hc := by
    rcases h.ends_line with rfl | hline
    · simp at hc
    · rw [hline, Option.some.injEq] at hc
      rw [← hc]
      decide

/-- Without its leading blanks, a filler is a filler. -/
theorem IsFiller.dropWhile_isBlank {text : List Char} (h : IsFiller text) :
    IsFiller (text.dropWhile isBlank) where
  not_infix hpart := h.not_infix (hpart.trans (List.dropWhile_suffix isBlank).isInfix)
  ends_line := by
    by_cases hempty : text.dropWhile isBlank = []
    · exact .inl hempty
    · right
      have htext : text ≠ [] := by
        rintro rfl
        exact hempty rfl
      rw [← h.ends_line.resolve_left htext, List.getLast?_eq_some_getLast hempty,
        List.getLast?_eq_some_getLast htext, (List.dropWhile_suffix isBlank).getLast hempty]

theorem frame?_eq_none {text : List Char} (h : ¬ beginMarker <:+: text) : frame? text = none := by
  rw [frame?, cut?_eq_none h]
  rfl

theorem frames_eq_nil {text : List Char} (h : ¬ beginMarker <:+: text) : frames text = [] :=
  frames_of_none (frame?_eq_none h)

/-! ## Blocks and fillers in turn -/

/-- The characters of blocks that have a filler behind each of them. -/
def blockChars (parts : List (Block × String)) : List Char :=
  parts.flatMap fun part => part.1.toText.toList ++ part.2.toList

@[simp] theorem blockChars_cons (block : Block) (filler : String) (parts : List (Block × String)) :
    blockChars ((block, filler) :: parts) =
      block.toText.toList ++ (filler.toList ++ blockChars parts) := by
  simp [blockChars]

/-- Blocks begin with a dash, which is no blank. -/
theorem dropWhile_isBlank_blockChars (parts : List (Block × String)) :
    (blockChars parts).dropWhile isBlank = blockChars parts := by
  rcases parts with _ | ⟨⟨block, filler⟩, parts⟩
  · rfl
  · rw [blockChars_cons, toList_toText]
    rfl

/-- The blanks that are skipped behind a block are those of the filler. -/
theorem dropWhile_isBlank_append (filler : List Char) (parts : List (Block × String)) :
    ('\n' :: (filler ++ blockChars parts)).dropWhile isBlank =
      filler.dropWhile isBlank ++ blockChars parts := by
  rw [List.dropWhile_cons_of_pos (by decide), List.dropWhile_append, dropWhile_isBlank_blockChars]
  split
  · rename_i hblank
    rw [List.isEmpty_iff.1 hblank, List.nil_append]
  · rfl

/-- The frames of blocks between fillers are those of the blocks, in their order. -/
theorem frames_fileChars {front : List Char} {parts : List (Block × String)}
    (hfront : IsFiller front) (hlabel : ∀ part ∈ parts, IsLabel part.1.label.toList)
    (hfiller : ∀ part ∈ parts, IsFiller part.2.toList) :
    frames (front ++ blockChars parts) = parts.map fun part => part.1.frame := by
  induction parts generalizing front with
  | nil =>
    rw [blockChars, List.flatMap_nil, List.append_nil]
    exact frames_eq_nil hfront.not_infix
  | cons part parts ih =>
    obtain ⟨block, filler⟩ := part
    rw [List.forall_mem_cons] at hlabel hfiller
    rw [blockChars_cons, frames_of_some (frame?_append hfront.gap hlabel.1),
      dropWhile_isBlank_append, ih hfiller.1.dropWhile_isBlank hlabel.2 hfiller.2, List.map_cons]

/-! ## Files -/

/-- A file: blocks with other text before, between and behind them. -/
structure File where
  /-- The text before the first block. -/
  front : String
  /-- The blocks, each with the text that follows it. -/
  parts : List (Block × String)

namespace File

/-- The blocks of a file. -/
def blocks (file : File) : List Block :=
  file.parts.map Prod.fst

/-- The text of a file. -/
def toText (file : File) : String :=
  file.front ++ String.join (file.parts.map fun part => part.1.toText ++ part.2)

/-- A file whose labels can be written on BEGIN lines, and whose other texts are fillers. -/
structure WellFormed (file : File) : Prop where
  front : IsFiller file.front.toList
  isLabel : ∀ part ∈ file.parts, IsLabel part.1.label.toList
  isFiller : ∀ part ∈ file.parts, IsFiller part.2.toList

theorem toList_toText (file : File) :
    file.toText.toList = file.front.toList ++ blockChars file.parts := by
  simp [toText, blockChars, List.flatMap_def, Function.comp_def]

end File

/-- The frames of blocks hold the blocks. -/
theorem mapM_block_frame {blocks : List Block} (h : ∀ block ∈ blocks, block.label.toList ≠ []) :
    (blocks.map Block.frame).mapM Frame.block = .ok blocks := by
  induction blocks with
  | nil => rfl
  | cons block blocks ih =>
    rw [List.forall_mem_cons] at h
    rw [List.map_cons, List.mapM_cons, Frame.block_frame h.1, ih h.2]
    rfl

/-- The reader finds the blocks of a file. -/
theorem Block.ofText_file {file : File} (h : file.WellFormed) :
    ofText file.toText = .ok file.blocks := by
  have hframes : frames file.toText.toList = file.blocks.map Block.frame := by
    rw [file.toList_toText, frames_fileChars h.front h.isLabel h.isFiller, File.blocks,
      List.map_map]
    rfl
  rw [ofText, hframes]
  refine mapM_block_frame fun block hblock => ?_
  obtain ⟨part, hpart, rfl⟩ := List.mem_map.1 hblock
  exact (h.isLabel part hpart).ne_nil

/-- The private key block of a file is the first block with such a label.  Without one, the first
block is refused for its label, and a file without blocks is no PEM text. -/
theorem privateKeyBlock_file (file : File) (h : file.WellFormed) :
    (∀ (i : Nat) (block : Block), file.blocks[i]? = some block → block.isPrivateKey →
      (∀ j < i, ∀ other : Block, file.blocks[j]? = some other → ¬ other.isPrivateKey) →
        privateKeyBlock file.toText = .ok block) ∧
    (∀ first rest, file.blocks = first :: rest → (∀ block ∈ file.blocks, ¬ block.isPrivateKey) →
      privateKeyBlock file.toText = .error (.unsupportedLabel first.label)) ∧
    (file.blocks = [] → privateKeyBlock file.toText = .error (.pem "no PEM block found")) := by
  rw [privateKeyBlock, Block.ofText_file h, Except.mapError_ok, Except.bind_ok]
  refine ⟨fun i block hblock hprivate hfirst => ?_, fun first rest hblocks hnone => ?_,
    fun hblocks => ?_⟩
  · obtain ⟨hi, hget⟩ := List.getElem?_eq_some_iff.1 hblock
    have hfind : file.blocks.find? Block.isPrivateKey = some block := by
      refine List.find?_eq_some_iff_getElem.2 ⟨hprivate, i, hi, hget, fun j hj => ?_⟩
      have := hfirst j hj _ (List.getElem?_eq_getElem (Nat.lt_trans hj hi))
      simpa using this
    cases hblocks : file.blocks with
    | nil => simp [hblocks] at hi
    | cons first rest =>
      rw [hblocks] at hfind
      simp only [hfind]
      rfl
  · have hfind := List.find?_eq_none.2 hnone
    rw [hblocks] at hfind ⊢
    simp only [hfind]
    rfl
  · rw [hblocks]
    rfl

/-! ### A file as it is made with curve parameters -/

/-- Parameters, a key whose data is lost, and another key. -/
def File.withParameters : File where
  front := "made by hand\n"
  parts := [
    (⟨"EC PARAMETERS", [0x06, 0x03, 0x2B, 0x65, 0x70]⟩, "\n-----END-----\n"),
    (⟨"EC PRIVATE KEY", []⟩, ""),
    (⟨Label.privateKey, [0x30, 0x00]⟩, "-----BEGIN\n")]

theorem File.wellFormed_withParameters : withParameters.WellFormed where
  front := ⟨by decide, by decide⟩
  isLabel := by
    simp only [withParameters, List.forall_mem_cons]
    exact ⟨isLabel_of_notMem (by decide) (by decide), isLabel_of_notMem (by decide) (by decide),
      isLabel_of_notMem (by decide) (by decide), nofun⟩
  isFiller := by
    simp only [withParameters, List.forall_mem_cons]
    exact ⟨⟨by decide, by decide⟩, ⟨by decide, by decide⟩, ⟨by decide, by decide⟩, nofun⟩

/-- The key without data is the one that is found. -/
theorem privateKeyBlock_withParameters :
    File.withParameters.WellFormed ∧
      privateKeyBlock File.withParameters.toText = .ok ⟨"EC PRIVATE KEY", []⟩ := by
  have hwell := File.wellFormed_withParameters
  have hprivate : (Block.mk "EC PRIVATE KEY" []).isPrivateKey := by decide
  refine ⟨hwell, (privateKeyBlock_file _ hwell).1 1 _ rfl hprivate fun j hj other hother => ?_⟩
  obtain rfl : j = 0 := by omega
  cases hother
  decide

end SealedKey.Pem
