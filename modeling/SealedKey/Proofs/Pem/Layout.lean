import SealedKey.Proofs.Pem.RoundTrip

/-!
# The layout of a written block

`HasLayout` says how the text of a block looks line by line.  A block is written by encoding all of
its contents and cutting the symbols into lines (`Block.toText`), or by encoding the contents of
each line by itself, as `Block.toTextByLines` does.  Both texts have the layout, for contents of any
length, and the layout leaves no choice, so they are the same text
(`hasLayout_iff`, `Block.toTextByLines_eq`).

A line of 64 symbols holds 48 bytes.  Since these are whole groups of three, no line but the last has
padding, and since lines are only begun for bytes that are left, no line is empty.
-/

namespace SealedKey.Pem

/-! ## Lines -/

theorem unlines_cons (line : List Char) (lines : List (List Char)) :
    unlines (line :: lines) = line ++ '\n' :: unlines lines := by
  simp [unlines]

/-- All lines but the last are full, and the last is neither empty nor longer than a full one. -/
structure Filled (lines : List (List Char)) : Prop where
  full : ∀ line ∈ lines.dropLast, line.length = lineWidth
  last : ∀ line ∈ lines.getLast?, 1 ≤ line.length ∧ line.length ≤ lineWidth

theorem filled_singleton {line : List Char} :
    Filled [line] ↔ 1 ≤ line.length ∧ line.length ≤ lineWidth := by
  constructor
  · intro h
    exact h.last line rfl
  · intro h
    constructor
    · simp
    · intro line' hline
      cases hline
      exact h

theorem filled_cons {line : List Char} {lines : List (List Char)} (hlines : lines ≠ []) :
    Filled (line :: lines) ↔ line.length = lineWidth ∧ Filled lines := by
  constructor
  · intro h
    have hfull := h.full
    have hlast := h.last
    rw [List.dropLast_cons_of_ne_nil hlines, List.forall_mem_cons] at hfull
    rw [List.getLast?_cons_of_ne_nil hlines] at hlast
    exact ⟨hfull.1, hfull.2, hlast⟩
  · intro h
    constructor
    · rw [List.dropLast_cons_of_ne_nil hlines, List.forall_mem_cons]
      exact ⟨h.1, h.2.full⟩
    · rw [List.getLast?_cons_of_ne_nil hlines]
      exact h.2.last

/-- Lines that are filled are the lines into which their text is cut. -/
theorem unlines_eq_wrap {lines : List (List Char)} (h : Filled lines) :
    unlines lines = wrap lines.flatten := by
  induction lines with
  | nil => exact wrap_nil.symm
  | cons line lines ih =>
    by_cases hlines : lines = []
    · rw [hlines] at h ⊢
      obtain ⟨hpos, hle⟩ := filled_singleton.1 h
      have hne : line ≠ [] := List.length_pos_iff.1 hpos
      have hflatten : [line].flatten = line := by simp
      rw [hflatten, wrap_of_ne_nil hne, List.take_of_length_le hle, List.drop_of_length_le hle,
        wrap_nil, unlines_cons]
      rfl
    · obtain ⟨hfull, hrest⟩ := (filled_cons hlines).1 h
      have hne : line ++ lines.flatten ≠ [] := by
        intro hnil
        rw [(List.append_eq_nil_iff.1 hnil).1] at hfull
        exact absurd hfull (by decide)
      rw [List.flatten_cons, wrap_of_ne_nil hne, List.take_left' hfull, List.drop_left' hfull,
        unlines_cons, ih hrest]

/-! ## Contents line by line -/

theorem dataLines_nil : dataLines [] = [] := by
  rw [dataLines, if_pos rfl]

theorem dataLines_of_ne_nil {bytes : Bytes} (h : bytes ≠ []) : dataLines bytes =
    Base64.encode (bytes.take lineBytes) :: dataLines (bytes.drop lineBytes) := by
  rw [dataLines, if_neg h]

theorem dataLines_ne_nil {bytes : Bytes} (h : bytes ≠ []) : dataLines bytes ≠ [] := by
  rw [dataLines_of_ne_nil h]
  exact List.cons_ne_nil _ _

/-- Bytes that fit on one line. -/
theorem dataLines_of_length_le {bytes : Bytes} (h : bytes ≠ []) (hle : bytes.length ≤ lineBytes) :
    dataLines bytes = [Base64.encode bytes] := by
  rw [dataLines_of_ne_nil h, List.take_of_length_le hle, List.drop_of_length_le hle, dataLines_nil]

theorem flatten_dataLines (bytes : Bytes) : (dataLines bytes).flatten = Base64.encode bytes := by
  by_cases hle : bytes.length ≤ lineBytes
  · by_cases hempty : bytes = []
    · rw [hempty, dataLines_nil]
      rfl
    · rw [dataLines_of_length_le hempty hle, List.flatten_singleton]
  · have hne : bytes ≠ [] := by
      rintro rfl
      exact hle (Nat.zero_le _)
    have hwhole : (bytes.take lineBytes).length % 3 = 0 := by
      rw [List.length_take, Nat.min_eq_left (by omega), lineBytes]
    rw [dataLines_of_ne_nil hne, List.flatten_cons, flatten_dataLines (bytes.drop lineBytes),
      ← Base64.encode_append hwhole, List.take_append_drop]
termination_by bytes.length
decreasing_by
  rw [List.length_drop]
  simp only [lineBytes] at hle ⊢
  omega

theorem filled_dataLines {bytes : Bytes} (h : bytes ≠ []) : Filled (dataLines bytes) := by
  have hpos : 0 < bytes.length := List.length_pos_iff.2 h
  by_cases hle : bytes.length ≤ lineBytes
  · rw [dataLines_of_length_le h hle, filled_singleton, Base64.length_encode]
    simp only [lineBytes, lineWidth] at hle ⊢
    omega
  · have hdrop : 0 < (bytes.drop lineBytes).length := by
      rw [List.length_drop]
      omega
    have hrest : bytes.drop lineBytes ≠ [] := List.length_pos_iff.1 hdrop
    have htake : (bytes.take lineBytes).length = lineBytes := by
      rw [List.length_take]
      omega
    rw [dataLines_of_ne_nil h, filled_cons (dataLines_ne_nil hrest), Base64.length_encode, htake]
    exact ⟨rfl, filled_dataLines hrest⟩
termination_by bytes.length
decreasing_by
  rw [List.length_drop]
  simp only [lineBytes] at hle ⊢
  omega

/-! ## Texts -/

/-- A text in the strict layout with these data lines. -/
structure Layout (label : String) (contents : Bytes) (lines : List (List Char)) (text : String) :
    Prop where
  /-- The two lines with the label and the lines between them, and nothing else. -/
  text_eq : text = blockText label lines
  /-- There are data lines. -/
  ne_nil : lines ≠ []
  /-- All data lines but the last have the same length. -/
  filled : Filled lines
  /-- Symbols stand on the data lines, and at most two signs of padding at their end. -/
  padded : ∃ symbols count, lines.flatten = symbols ++ List.replicate count '=' ∧ count ≤ 2 ∧
    ∀ c ∈ symbols, Base64.IsSymbol c
  /-- The data lines stand for the contents. -/
  encodes : lines.flatten = Base64.encode contents

/-- A text in the strict layout. -/
def HasLayout (label : String) (contents : Bytes) (text : String) : Prop :=
  ∃ lines, Layout label contents lines text

theorem blockText_eq_toText {label : String} {lines : List (List Char)} {contents : Bytes}
    (hfilled : Filled lines) (hencodes : lines.flatten = Base64.encode contents) :
    blockText label lines = (Block.mk label contents).toText := by
  rw [blockText, unlines_eq_wrap hfilled, hencodes, Block.toText]

theorem layout_toTextByLines (label : String) {contents : Bytes} (h : contents ≠ []) :
    Layout label contents (dataLines contents) (Block.mk label contents).toTextByLines where
  text_eq := rfl
  ne_nil := dataLines_ne_nil h
  filled := filled_dataLines h
  padded := by
    rw [flatten_dataLines]
    exact Base64.exists_encode_eq_append contents
  encodes := flatten_dataLines contents

/-- It does not matter whether the contents are encoded first or cut first. -/
theorem Block.toTextByLines_eq (block : Block) : block.toTextByLines = block.toText := by
  by_cases hempty : block.contents = []
  · have hencode : Base64.encode [] = [] := by decide
    rw [toTextByLines, blockText, hempty, dataLines_nil, toText, hempty, hencode, wrap_nil]
    rfl
  · exact blockText_eq_toText (filled_dataLines hempty) (flatten_dataLines block.contents)

/-- There is one text in the strict layout for each label and contents. -/
theorem hasLayout_iff {label : String} {contents : Bytes} (h : contents ≠ []) {text : String} :
    HasLayout label contents text ↔ text = (Block.mk label contents).toText := by
  constructor
  · intro hlayout
    obtain ⟨lines, hlines⟩ := hlayout
    rw [hlines.text_eq, blockText_eq_toText hlines.filled hlines.encodes]
  · intro htext
    rw [htext, ← Block.toTextByLines_eq]
    exact ⟨dataLines contents, layout_toTextByLines label h⟩

/-- A text that is one block in the strict layout, and is read as this block. -/
structure IsBlock (label : String) (contents : Bytes) (text : String) : Prop where
  hasLayout : HasLayout label contents text
  ofText_eq : Block.ofText text = .ok [⟨label, contents⟩]

theorem isBlock_toText {label : String} (hne : label ≠ "") (hdash : '-' ∉ label.toList)
    {contents : Bytes} (h : contents ≠ []) :
    IsBlock label contents (Block.mk label contents).toText where
  hasLayout := (hasLayout_iff h).2 rfl
  ofText_eq := by
    apply Block.ofText_toText
    exact isLabel_of_notMem (fun hnil => hne (String.toList_inj.1 hnil)) hdash

end SealedKey.Pem
