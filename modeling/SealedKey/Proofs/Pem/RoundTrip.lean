import SealedKey.Key.Import
import SealedKey.Proofs.Base64
import SealedKey.Proofs.Except
import SealedKey.Proofs.Pem.Cut
import Mathlib.Data.List.Chain

/-!
# Reading back a PEM block

`Block.ofText_toText` says that the reader finds in the text of a block exactly this block, for
any contents and any label that a BEGIN line can hold (`IsLabel`), and
`privateKeyBlock_toText` says the same of the choice of the private key block.

* `frame?_append` finds the frame of a block behind a gap, whatever follows the block.
* `Frame.block_frame` decodes the frame.  Its data has no empty line (`isChain_wrap`), so all of
  it is data and none of it is headers.
-/

namespace SealedKey.Pem

/-! ## Lines -/

theorem wrap_nil : wrap [] = [] := by
  rw [wrap, if_pos rfl]

theorem wrap_of_ne_nil {text : List Char} (h : text ≠ []) :
    wrap text = text.take lineWidth ++ '\n' :: wrap (text.drop lineWidth) := by
  rw [wrap, if_neg h]

theorem length_drop_lineWidth_lt {text : List Char} (h : text ≠ []) :
    (text.drop lineWidth).length < text.length := by
  have : 0 < text.length := List.length_pos_iff.2 h
  simp only [List.length_drop, lineWidth]
  omega

/-- Without its blanks, a wrapped text is the text. -/
theorem filter_wrap {text : List Char} (h : ∀ c ∈ text, Text.isWhiteSpace c = false) :
    (wrap text).filter (!Text.isWhiteSpace ·) = text := by
  by_cases hempty : text = []
  · rw [hempty, wrap_nil]
    rfl
  · have htake : (text.take lineWidth).filter (!Text.isWhiteSpace ·) = text.take lineWidth := by
      rw [List.filter_eq_self]
      intro c hc
      simp [h c (List.mem_of_mem_take hc)]
    have hnewline : Text.isWhiteSpace '\n' = true := by decide
    have ih := filter_wrap (fun c hc => h c (List.mem_of_mem_drop (i := lineWidth) hc))
    rw [wrap_of_ne_nil hempty, List.filter_append, List.filter_cons_of_neg (by simp [hnewline]),
      ih, htake, List.take_append_drop]
termination_by text.length
decreasing_by exact length_drop_lineWidth_lt hempty

theorem mem_wrap {text : List Char} {c : Char} (h : c ∈ wrap text) : c ∈ text ∨ c = '\n' := by
  by_cases hempty : text = []
  · simp [hempty, wrap_nil] at h
  · rw [wrap_of_ne_nil hempty, List.mem_append, List.mem_cons] at h
    rcases h with h | rfl | h
    · exact .inl (List.mem_of_mem_take h)
    · exact .inr rfl
    · exact (mem_wrap h).imp_left List.mem_of_mem_drop
termination_by text.length
decreasing_by exact length_drop_lineWidth_lt hempty

theorem getLast?_wrap {text : List Char} {c : Char} (h : (wrap text).getLast? = some c) :
    c = '\n' := by
  by_cases hempty : text = []
  · simp [hempty, wrap_nil] at h
  · rw [wrap_of_ne_nil hempty] at h
    by_cases hrest : wrap (text.drop lineWidth) = []
    · simpa [hrest] using h.symm
    · rw [List.getLast?_append_of_ne_nil _ (List.cons_ne_nil _ _),
        List.getLast?_cons_of_ne_nil hrest] at h
      exact getLast?_wrap h
termination_by text.length
decreasing_by exact length_drop_lineWidth_lt hempty

theorem head?_wrap {text : List Char} {c : Char} (h : (wrap text).head? = some c) : c ∈ text := by
  by_cases hempty : text = []
  · simp [hempty, wrap_nil] at h
  · obtain ⟨first, rest, rfl⟩ := List.exists_cons_of_ne_nil hempty
    rw [wrap_of_ne_nil hempty, lineWidth, List.take_succ_cons, List.cons_append,
      List.head?_cons] at h
    rw [← Option.some.inj h]
    exact List.mem_cons_self

/-- No line of a wrapped text is empty. -/
theorem isChain_wrap {text : List Char} (h : '\n' ∉ text) :
    (wrap text).IsChain fun a b => a = '\n' → b ≠ '\n' := by
  by_cases hempty : text = []
  · rw [hempty, wrap_nil]
    exact .nil
  · have htake : '\n' ∉ text.take lineWidth := fun hmem => h (List.mem_of_mem_take hmem)
    have hdrop : '\n' ∉ text.drop lineWidth := fun hmem => h (List.mem_of_mem_drop hmem)
    rw [wrap_of_ne_nil hempty, List.isChain_append, List.isChain_cons]
    refine ⟨?_, ⟨?_, isChain_wrap hdrop⟩, ?_⟩
    · rw [List.isChain_iff_getElem]
      intro i hi hnewline
      exact absurd (hnewline ▸ List.getElem_mem _) htake
    · rintro c hc - rfl
      exact hdrop (head?_wrap hc)
    · rintro c hc d - rfl
      exact absurd (List.mem_of_getLast? hc) htake
termination_by text.length
decreasing_by exact length_drop_lineWidth_lt hempty

/-! ## Frames -/

/-- The labels that a BEGIN line can hold: the dashes behind the label are the first ones. -/
structure IsLabel (label : List Char) : Prop where
  ne_nil : label ≠ []
  gap : Gap dashes label

theorem isLabel_of_notMem {label : List Char} (hne : label ≠ []) (h : '-' ∉ label) :
    IsLabel label := by
  refine ⟨hne, .of_disjoint (by decide) fun c hc hdash => ?_⟩
  have hdashes : dashes = List.replicate 5 '-' := by decide
  rw [hdashes] at hdash
  obtain rfl := List.eq_of_mem_replicate hdash
  exact h hc

/-- The characters of a block. -/
theorem toList_toText (block : Block) :
    block.toText.toList = beginMarker ++ (block.label.toList ++ (dashes ++ ('\n' ::
      (wrap (Base64.encode block.contents) ++ (endMarker ++ (block.label.toList ++
        (dashes ++ ['\n']))))))) := by
  simp [Block.toText]

theorem newline_notMem_encode (bytes : Bytes) : '\n' ∉ Base64.encode bytes := by
  intro h
  have := Base64.isWhiteSpace_of_mem_encode h
  revert this
  decide

theorem dash_notMem_wrap_encode (bytes : Bytes) : '-' ∉ wrap (Base64.encode bytes) := by
  intro h
  rcases mem_wrap h with h | h
  · exact Base64.ne_dash_of_mem_encode h rfl
  · revert h
    decide

theorem return_notMem_wrap_encode (bytes : Bytes) : '\r' ∉ wrap (Base64.encode bytes) := by
  intro h
  rcases mem_wrap h with h | h
  · have := Base64.isWhiteSpace_of_mem_encode h
    revert this
    decide
  · revert h
    decide

theorem gap_endMarker (bytes : Bytes) : Gap endMarker (wrap (Base64.encode bytes)) where
  not_infix hpart :=
    dash_notMem_wrap_encode bytes (hpart.subset (by decide : '-' ∈ endMarker))
  getLast?_notMem c hc := by
    rw [getLast?_wrap hc]
    decide

theorem isBlank_of_mem_encode {c : Char} {bytes : Bytes} (h : c ∈ Base64.encode bytes) :
    isBlank c = false := by
  have hspace := Base64.isWhiteSpace_of_mem_encode h
  have hne (d : Char) (hd : Text.isWhiteSpace d = true) : c ≠ d := by
    rintro rfl
    simp [hspace] at hd
  simp [isBlank, hne ' ' (by decide), hne '\t' (by decide), hne '\r' (by decide),
    hne '\n' (by decide)]

/-- Behind the BEGIN line, only its line feed is dropped. -/
theorem dropWhile_isBlank_wrap (bytes : Bytes) (rest : List Char) :
    ('\n' :: (wrap (Base64.encode bytes) ++ (endMarker ++ rest))).dropWhile isBlank =
      wrap (Base64.encode bytes) ++ (endMarker ++ rest) := by
  rw [List.dropWhile_cons_of_pos (by decide)]
  cases hwrap : wrap (Base64.encode bytes) with
  | nil => rfl
  | cons c text =>
    have hc : c ∈ Base64.encode bytes := head?_wrap (by rw [hwrap, List.head?_cons])
    rw [List.cons_append, List.dropWhile_cons_of_neg (by simp [isBlank_of_mem_encode hc])]

/-- The frame of a block. -/
def Block.frame (block : Block) : Frame where
  opening := block.label.toList
  payload := wrap (Base64.encode block.contents)
  closing := block.label.toList

/-- Behind a label, the text is cut at the dashes of its line. -/
theorem cut?_label {label : List Char} (hlabel : IsLabel label) (rest : List Char) :
    cut? dashes (label ++ (dashes ++ rest)) = some (label, rest) := by
  rw [← List.append_assoc, cut?_append (by decide) hlabel.gap]

/-- Behind the data, the text is cut at the END line. -/
theorem cut?_data (bytes : Bytes) (rest : List Char) :
    cut? endMarker (wrap (Base64.encode bytes) ++ (endMarker ++ rest)) =
      some (wrap (Base64.encode bytes), rest) := by
  rw [← List.append_assoc, cut?_append (by decide) (gap_endMarker bytes)]

/-- The characters of a block without the line feed at its end. -/
def Block.chars (block : Block) : List Char :=
  beginMarker ++ (block.label.toList ++ (dashes ++ ('\n' ::
    (wrap (Base64.encode block.contents) ++ (endMarker ++ (block.label.toList ++ dashes))))))

theorem toList_toText_eq (block : Block) : block.toText.toList = block.chars ++ ['\n'] := by
  simp [toList_toText, Block.chars]

/-- A block is complete with its last dash. -/
theorem frame?_chars_append {before after : List Char} {block : Block}
    (hbefore : Gap beginMarker before) (hlabel : IsLabel block.label.toList) :
    frame? (before ++ (block.chars ++ after)) = some (block.frame, after.dropWhile isBlank) := by
  have hbegin (rest : List Char) :
      cut? beginMarker (before ++ (beginMarker ++ rest)) = some (before, rest) := by
    rw [← List.append_assoc, cut?_append (by decide) hbefore]
  simp only [Block.chars, List.append_assoc, List.cons_append, frame?, hbegin, cut?_label hlabel,
    dropWhile_isBlank_wrap, cut?_data, Option.bind_eq_bind, Option.bind_some]
  rfl

/-- The first frame of a text is that of its first block. -/
theorem frame?_append {before after : List Char} {block : Block}
    (hbefore : Gap beginMarker before) (hlabel : IsLabel block.label.toList) :
    frame? (before ++ (block.toText.toList ++ after)) =
      some (block.frame, ('\n' :: after).dropWhile isBlank) := by
  rw [toList_toText_eq, List.append_assoc, List.singleton_append]
  exact frame?_chars_append hbefore hlabel

/-! ## The block of a frame -/

theorem parts_wrap (label bytes) : Frame.parts ⟨label, wrap (Base64.encode bytes), label⟩ =
    ([], wrap (Base64.encode bytes)) := by
  have hempty : ¬ "\n\n".toList <:+: wrap (Base64.encode bytes) := by
    intro h
    have hchain := List.IsChain.infix (isChain_wrap (newline_notMem_encode bytes)) h
    exact List.isChain_pair.1 hchain rfl rfl
  have hemptyReturn : ¬ "\r\n\r\n".toList <:+: wrap (Base64.encode bytes) :=
    fun h => return_notMem_wrap_encode bytes (h.subset (by decide : '\r' ∈ "\r\n\r\n".toList))
  simp only [Frame.parts, cut?_eq_none hempty, cut?_eq_none hemptyReturn, Option.getD_none]

/-- The frame of a block holds the block. -/
theorem Frame.block_frame {block : Block} (hlabel : block.label.toList ≠ []) :
    block.frame.block = .ok block := by
  have hdata : (wrap (Base64.encode block.contents)).filter (!Text.isWhiteSpace ·) =
      Base64.encode block.contents :=
    filter_wrap fun c hc => Base64.isWhiteSpace_of_mem_encode hc
  have hlines : lines [] = [] := rfl
  simp only [Frame.block, Block.frame, parts_wrap, hdata, Base64.decode_encode, hlines, hlabel,
    Except.mapError_ok, Except.bind_ok]
  simp [pure, Except.pure]

/-! ## Texts -/

theorem frames_of_some {text rest : List Char} {frame : Frame}
    (h : frame? text = some (frame, rest)) : frames text = frame :: frames rest := by
  rw [frames]
  split
  · rename_i frame' rest' h'
    rw [h, Option.some.injEq, Prod.mk.injEq] at h'
    rw [h'.1, h'.2]
  · rename_i h'
    rw [h] at h'
    contradiction

theorem frames_of_none {text : List Char} (h : frame? text = none) : frames text = [] := by
  rw [frames]
  split
  · rename_i h'
    rw [h] at h'
    contradiction
  · rfl

theorem frames_nil : frames [] = [] :=
  frames_of_none rfl

/-- Reading the text of a block gives the block. -/
theorem Block.ofText_toText {block : Block} (hlabel : IsLabel block.label.toList) :
    ofText block.toText = .ok [block] := by
  have hframe : frame? ([] ++ (block.toText.toList ++ [])) =
      some (block.frame, ['\n'].dropWhile isBlank) :=
    frame?_append (.nil (by decide)) hlabel
  have hblank : ['\n'].dropWhile isBlank = [] := by decide
  rw [List.nil_append, List.append_nil, hblank] at hframe
  rw [ofText, frames_of_some hframe, frames_nil]
  simp [Frame.block_frame hlabel.ne_nil, bind, Except.bind, pure, Except.pure]

/-- The private key block of the text of a private key block is this block. -/
theorem privateKeyBlock_toText {block : Block} (hlabel : IsLabel block.label.toList)
    (hprivate : block.isPrivateKey) : privateKeyBlock block.toText = .ok block := by
  rw [privateKeyBlock, Block.ofText_toText hlabel, Except.mapError_ok, Except.bind_ok]
  simp [hprivate, pure, Except.pure]

/-- The private key block of a block of such a label that has no dash. -/
theorem privateKeyBlock_toText_of_notMem (label : String) (hdash : '-' ∉ label.toList)
    (hprivate : Label.privateKey.toList.isSuffixOf label.toList = true) (contents : Bytes) :
    privateKeyBlock (Block.mk label contents).toText = .ok ⟨label, contents⟩ := by
  have hne : label.toList ≠ [] := by
    intro hempty
    rw [hempty] at hprivate
    exact absurd hprivate (by decide)
  exact privateKeyBlock_toText (isLabel_of_notMem hne hdash) hprivate

end SealedKey.Pem
