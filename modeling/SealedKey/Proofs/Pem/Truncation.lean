import SealedKey.Proofs.Pem.RoundTrip

/-!
# Truncated blocks

The text of a block needs all of its characters up to the last dash: a text that is cut off before
it has no frame at all (`frames_of_truncates`), so it has no private key block.  Only the line
feed behind the END line can be missing (`Block.ofText_of_append_newline`).

A frame of a part of the text would be found at the same places in the whole text, since none of the
cuts that make it depends on what follows.  These places are known, and the last one is behind the
last dash.
-/

namespace SealedKey.Pem

/-- A text is a part of another one from its start, and lacks more than a line feed at the end. -/
def Truncates (front text : String) : Prop :=
  ∃ tail : String, front ++ tail = text ∧ tail ≠ "" ∧ tail ≠ "\n"

variable {block : Block} {front tail : List Char}

/-! ## Frames -/

theorem dropWhile_isBlank_append_of_ne_nil {text : List Char} (h : text.dropWhile isBlank ≠ []) :
    (text ++ tail).dropWhile isBlank = text.dropWhile isBlank ++ tail := by
  rw [List.dropWhile_append, if_neg (by simpa using h)]

/-- A part of a block's text that has a frame lacks at most the line feed at the end. -/
theorem tail_of_frame? (hlabel : IsLabel block.label.toList)
    (htext : front ++ tail = block.toText.toList) {frame : Frame} {rest : List Char}
    (hframe : frame? front = some (frame, rest)) : tail = [] ∨ tail = ['\n'] := by
  simp only [frame?, Option.bind_eq_bind, Option.bind_eq_some_iff, Prod.exists, Option.pure_def,
    Option.some.injEq, Prod.mk.injEq] at hframe
  obtain ⟨before, text₁, hbegin, opening, text₂, hopening, payload, text₃, hend, closing, text₄,
    hclosing, -, -⟩ := hframe
  have hdata : text₂.dropWhile isBlank ≠ [] := by
    intro hnil
    rw [hnil] at hend
    contradiction
  -- each cut leaves what is known to stand behind the marker in the whole text
  have hfront (rest : List Char) : cut? beginMarker (beginMarker ++ rest) = some ([], rest) :=
    cut?_append (by decide) (.nil (by decide))
  have hbegin := cut?_append_right tail hbegin
  rw [htext, toList_toText, hfront, Option.some.injEq, Prod.mk.injEq] at hbegin
  have hopening := cut?_append_right tail hopening
  rw [← hbegin.2, cut?_label hlabel, Option.some.injEq, Prod.mk.injEq] at hopening
  have hend := cut?_append_right tail hend
  rw [← dropWhile_isBlank_append_of_ne_nil hdata, ← hopening.2, dropWhile_isBlank_wrap, cut?_data,
    Option.some.injEq, Prod.mk.injEq] at hend
  have hclosing := cut?_append_right tail hclosing
  rw [← hend.2, cut?_label hlabel, Option.some.injEq, Prod.mk.injEq] at hclosing
  exact (List.append_eq_singleton_iff.1 hclosing.2.symm).elim (fun h => .inr h.2) fun h => .inl h.2

/-- A truncated block has no frame. -/
theorem frames_of_truncates (hlabel : IsLabel block.label.toList) {front : String}
    (h : Truncates front block.toText) : frames front.toList = [] := by
  obtain ⟨tail, htext, hne, hnewline⟩ := h
  have hlist : front.toList ++ tail.toList = block.toText.toList := by
    rw [← String.toList_append, htext]
  cases hframe : frame? front.toList with
  | none => exact frames_of_none hframe
  | some found =>
    rcases tail_of_frame? hlabel hlist hframe with hnil | hnil
    · exact absurd (String.toList_inj.1 hnil) hne
    · exact absurd (String.toList_inj.1 hnil) hnewline

/-! ## Blocks -/

/-- The private key block of a truncated block is missing. -/
theorem privateKeyBlock_of_truncates (hlabel : IsLabel block.label.toList) {front : String}
    (h : Truncates front block.toText) :
    privateKeyBlock front = .error (.pem Error.noBlock.message) := by
  rw [privateKeyBlock, Block.ofText, frames_of_truncates hlabel h]
  rfl

/-- A block is read without the line feed behind it as well. -/
theorem Block.ofText_of_append_newline (hlabel : IsLabel block.label.toList) {front : String}
    (h : front ++ "\n" = block.toText) : ofText front = .ok [block] := by
  have hchars : front.toList = block.chars := by
    have hlist := congrArg String.toList h
    rw [String.toList_append, toList_toText_eq] at hlist
    exact List.append_cancel_right hlist
  have hframe : frame? ([] ++ (block.chars ++ [])) = some (block.frame, [].dropWhile isBlank) :=
    frame?_chars_append (.nil (by decide)) hlabel
  rw [List.nil_append, List.append_nil, List.dropWhile_nil, ← hchars] at hframe
  rw [ofText, frames_of_some hframe, frames_nil]
  simp [Frame.block_frame hlabel.ne_nil, bind, Except.bind, pure, Except.pure]

/-- So the private key block of both texts is the same. -/
theorem privateKeyBlock_of_append_newline (hlabel : IsLabel block.label.toList) {front : String}
    (h : front ++ "\n" = block.toText) :
    privateKeyBlock front = privateKeyBlock block.toText := by
  rw [privateKeyBlock, privateKeyBlock, Block.ofText_of_append_newline hlabel h,
    Block.ofText_toText hlabel]

/-- The text of a block ends in a dash and a line feed. -/
theorem exists_append_dash (block : Block) :
    ∃ front : String, front ++ "-" ++ "\n" = block.toText := by
  obtain ⟨start, hstart⟩ : ∃ start, block.chars = start ++ ['-'] := by
    refine ⟨beginMarker ++ (block.label.toList ++ (dashes ++ ('\n' ::
      (wrap (Base64.encode block.contents) ++ (endMarker ++ (block.label.toList ++
        List.replicate 4 '-')))))), ?_⟩
    have hdashes : dashes = List.replicate 4 '-' ++ ['-'] := by decide
    simp [Block.chars, hdashes]
  refine ⟨String.ofList start, String.toList_inj.1 ?_⟩
  rw [toList_toText_eq, hstart]
  simp

end SealedKey.Pem
