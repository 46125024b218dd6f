import Mathlib.Data.List.Find
import SealedKey.Proofs.Pem.RoundTrip

/-!
# Line endings

The same text can be written with a line feed at the end of each line, or with a carriage return
before it.  `privateKeyBlock_withReturns` says that both have the same private key block, for any
text that has no other carriage returns: one with several blocks, with headers, with line breaks in
a label or with broken markers.

There are four groups.

* `withReturns` and what it keeps: the characters that are no line breaks, in their order.
* The search for a marker.  `cut?.go_withReturns` is the induction that keeps the two searches in
  step: they have found the same part of the marker.  When the line feed of one text does not
  fit, the other search fails at the carriage return and again at the line feed.
* Frames.  The parts of a frame are found with another marker in each of the texts, since an empty
  line is looked for in both of its forms.
* Blocks.  A label keeps its line breaks, so `Block.withReturns` has the label of the other text.
-/

namespace SealedKey.Pem

/-! ## Carriage returns -/

/-- The text with a carriage return before every line feed. -/
def withReturns (text : List Char) : List Char :=
  text.flatMap fun c => if c = '\n' then ['\r', '\n'] else [c]

@[simp] theorem withReturns_nil : withReturns [] = [] := rfl

theorem withReturns_newline (text : List Char) :
    withReturns ('\n' :: text) = '\r' :: '\n' :: withReturns text := rfl

theorem withReturns_cons {c : Char} (hc : c ≠ '\n') (text : List Char) :
    withReturns (c :: text) = c :: withReturns text := by
  rw [withReturns, List.flatMap_cons, if_neg hc]
  rfl

theorem withReturns_append (front back : List Char) :
    withReturns (front ++ back) = withReturns front ++ withReturns back :=
  List.flatMap_append

theorem withReturns_eq_nil_iff {text : List Char} : withReturns text = [] ↔ text = [] := by
  cases text with
  | nil => simp
  | cons c text =>
    by_cases hc : c = '\n'
    · rw [hc, withReturns_newline]
      simp
    · rw [withReturns_cons hc]
      simp

theorem withReturns_eq_self {text : List Char} (h : '\n' ∉ text) : withReturns text = text := by
  induction text with
  | nil => rfl
  | cons c text ih =>
    rw [List.mem_cons, not_or] at h
    rw [withReturns_cons (Ne.symm h.1), ih h.2]

/-- The text can be had back. -/
theorem filter_withReturns {text : List Char} (h : '\r' ∉ text) :
    (withReturns text).filter (· ≠ '\r') = text := by
  induction text with
  | nil => rfl
  | cons c text ih =>
    rw [List.mem_cons, not_or] at h
    by_cases hc : c = '\n'
    · rw [hc, withReturns_newline, List.filter_cons_of_neg (by decide),
        List.filter_cons_of_pos (by decide), ih h.2]
    · rw [withReturns_cons hc, List.filter_cons_of_pos (by simpa using Ne.symm h.1), ih h.2]

theorem withReturns_inj {text text' : List Char} (h : '\r' ∉ text) (h' : '\r' ∉ text') :
    withReturns text = withReturns text' ↔ text = text' := by
  constructor
  · intro heq
    rw [← filter_withReturns h, heq, filter_withReturns h']
  · intro heq
    rw [heq]

/-- A text without line feeds ends both texts or neither. -/
theorem suffix_withReturns_iff {text suffix : List Char} (h : '\r' ∉ text)
    (hnewline : '\n' ∉ suffix) (hreturn : '\r' ∉ suffix) :
    suffix <:+ withReturns text ↔ suffix <:+ text := by
  constructor
  · intro hsuffix
    have hkept := hsuffix.filter (· ≠ '\r')
    rwa [filter_withReturns h, ← withReturns_eq_self hnewline, filter_withReturns hreturn] at hkept
  · intro hsuffix
    obtain ⟨front, rfl⟩ := hsuffix
    rw [withReturns_append, withReturns_eq_self hnewline]
    exact List.suffix_append _ _

theorem dropWhile_isBlank_withReturns (text : List Char) :
    (withReturns text).dropWhile isBlank = withReturns (text.dropWhile isBlank) := by
  induction text with
  | nil => rfl
  | cons c text ih =>
    by_cases hc : c = '\n'
    · rw [hc, withReturns_newline, List.dropWhile_cons_of_pos (by decide),
        List.dropWhile_cons_of_pos (by decide), List.dropWhile_cons_of_pos (by decide), ih]
    · rw [withReturns_cons hc]
      by_cases hblank : isBlank c = true
      · rw [List.dropWhile_cons_of_pos hblank, List.dropWhile_cons_of_pos hblank, ih]
      · rw [List.dropWhile_cons_of_neg hblank, List.dropWhile_cons_of_neg hblank,
          withReturns_cons hc]

/-- Line breaks are white space with and without a carriage return. -/
theorem filter_isWhiteSpace_withReturns (text : List Char) :
    (withReturns text).filter (!Text.isWhiteSpace ·) = text.filter (!Text.isWhiteSpace ·) := by
  induction text with
  | nil => rfl
  | cons c text ih =>
    by_cases hc : c = '\n'
    · rw [hc, withReturns_newline, List.filter_cons_of_neg (by decide),
        List.filter_cons_of_neg (by decide), List.filter_cons_of_neg (by decide), ih]
    · rw [withReturns_cons hc, List.filter_cons, List.filter_cons, ih]

/-! ## Lines -/

theorem dropReturn_append_return (line : List Char) : dropReturn (line ++ ['\r']) = line := by
  simp [dropReturn]

theorem dropReturn_eq_self {line : List Char} (h : '\r' ∉ line) : dropReturn line = line := by
  unfold dropReturn
  split
  · rename_i hlast
    exact absurd (List.mem_of_getLast? hlast) h
  · rfl

/-- What stands before the first line feed is the first line. -/
theorem lines_append {line : List Char} (h : '\n' ∉ line) (rest : List Char) :
    lines (line ++ '\n' :: rest) = dropReturn line :: lines rest := by
  have hpieces : (line ++ '\n' :: rest).splitOn '\n' = line :: rest.splitOn '\n' := by
    apply List.splitOnP_append_cons_of_forall_mem
    · intro c hc
      exact beq_false_of_ne fun heq => h (heq ▸ hc)
    · rfl
  have hne : rest.splitOn '\n' ≠ [] := List.splitOnP_ne_nil _ _
  simp only [lines, hpieces, List.dropLast_cons_of_ne_nil hne, List.getLast?_cons_of_ne_nil hne,
    List.map_cons, List.cons_append]

/-- The lines of a text are the same ones with both line endings. -/
theorem lines_withReturns {text : List Char} (h : '\r' ∉ text) :
    lines (withReturns text) = lines text := by
  by_cases hnewline : '\n' ∈ text
  · obtain ⟨line, rest, htext, hline⟩ := List.eq_append_cons_of_mem hnewline
    rw [htext, List.mem_append, List.mem_cons, not_or, not_or] at h
    have hreturned : '\n' ∉ line ++ ['\r'] := by
      simpa using hline
    have hsplit : withReturns (line ++ '\n' :: rest) =
        (line ++ ['\r']) ++ '\n' :: withReturns rest := by
      rw [withReturns_append, withReturns_eq_self hline, withReturns_newline]
      simp
    rw [htext, hsplit, lines_append hreturned, lines_append hline, dropReturn_append_return,
      dropReturn_eq_self h.1, lines_withReturns h.2.2]
  · rw [withReturns_eq_self hnewline]
termination_by text.length
decreasing_by
  rw [htext, List.length_append, List.length_cons]
  omega

/-! ## The search for a marker -/

section Cut

variable {marker : List Char}

theorem cut?.go_cons_of_ne {wanted seen rest : List Char} {c w : Char} (h : c ≠ w) :
    cut?.go marker (w :: wanted) seen (c :: rest) = cut?.go marker marker (c :: seen) rest := by
  simp only [cut?.go, if_neg h]

theorem cut?.go_cons_self {wanted seen rest : List Char} {c : Char} (h : wanted ≠ []) :
    cut?.go marker (c :: wanted) seen (c :: rest) = cut?.go marker wanted (c :: seen) rest := by
  simp only [cut?.go, if_true, if_neg h]

/-- The last character of the marker. -/
theorem cut?.go_last {older found rest : List Char} {c : Char} (hmarker : marker = found ++ [c]) :
    cut?.go marker [c] (older ++ found).reverse (c :: rest) = some (older, rest) := by
  have hseen : c :: (older ++ found).reverse = marker.reverse ++ older.reverse := by
    simp [hmarker]
  simp only [cut?.go, if_true, hseen]
  rw [List.drop_left' List.length_reverse, List.reverse_reverse]

/-- Where a character does not fit, the search of the other text starts again behind it, too. -/
theorem cut?.go_withReturns_of_ne (hreturn : '\r' ∉ marker) (hmarker : marker ≠ []) {c w : Char}
    (hc : c ≠ '\r') (hw : w ≠ '\r') (hne : c ≠ w) (wanted seen rest : List Char) :
    cut?.go (withReturns marker) (withReturns (w :: wanted)) (withReturns seen).reverse
        (withReturns (c :: rest)) =
      cut?.go (withReturns marker) (withReturns marker) (withReturns (seen ++ [c])).reverse
        (withReturns rest) := by
  by_cases hnewline : c = '\n'
  · obtain ⟨m, ms, rfl⟩ := List.exists_cons_of_ne_nil hmarker
    subst hnewline
    have hm : m ≠ '\r' := fun h => hreturn (by simp [h])
    have hseen : (withReturns (seen ++ ['\n'])).reverse =
        '\n' :: '\r' :: (withReturns seen).reverse := by
      rw [withReturns_append, withReturns_newline]
      simp
    rw [withReturns_newline, withReturns_cons hne.symm, go_cons_of_ne hw.symm, hseen]
    -- the search stands at the line feed, with the whole marker to come
    by_cases hmNewline : m = '\n'
    · rw [hmNewline, withReturns_newline, go_cons_of_ne (by decide)]
    · rw [withReturns_cons hmNewline, go_cons_of_ne (Ne.symm hmNewline)]
  · have hseen : (withReturns (seen ++ [c])).reverse = c :: (withReturns seen).reverse := by
      rw [withReturns_append, withReturns_cons hnewline]
      simp
    rw [withReturns_cons hnewline, hseen]
    by_cases hwNewline : w = '\n'
    · rw [hwNewline, withReturns_newline, go_cons_of_ne hc]
    · rw [withReturns_cons hwNewline, go_cons_of_ne hne]

/-- Where a character fits and more is to come, it fits in the other text. -/
theorem cut?.go_withReturns_self {c : Char} {wanted : List Char} (hwanted : wanted ≠ [])
    (seen rest : List Char) :
    cut?.go (withReturns marker) (withReturns (c :: wanted)) (withReturns seen).reverse
        (withReturns (c :: rest)) =
      cut?.go (withReturns marker) (withReturns wanted) (withReturns (seen ++ [c])).reverse
        (withReturns rest) := by
  have hwanted' : withReturns wanted ≠ [] := mt withReturns_eq_nil_iff.1 hwanted
  by_cases hnewline : c = '\n'
  · rw [hnewline, withReturns_newline, withReturns_newline, go_cons_self (List.cons_ne_nil _ _),
      go_cons_self hwanted', withReturns_append, withReturns_newline]
    simp
  · rw [withReturns_cons hnewline, withReturns_cons hnewline, go_cons_self hwanted',
      withReturns_append, withReturns_cons hnewline]
    simp

/-- Where the marker is complete, it is complete in the other text. -/
theorem cut?.go_withReturns_last {older found rest : List Char} {c : Char}
    (hmarker : marker = found ++ [c]) :
    cut?.go (withReturns marker) (withReturns [c]) (withReturns (older ++ found)).reverse
        (withReturns (c :: rest)) = some (withReturns older, withReturns rest) := by
  have hreturned : withReturns marker = withReturns found ++ withReturns [c] := by
    rw [hmarker, withReturns_append]
  by_cases hnewline : c = '\n'
  · subst hnewline
    have hseen : '\r' :: (withReturns older ++ withReturns found).reverse =
        (withReturns older ++ (withReturns found ++ ['\r'])).reverse := by
      simp
    rw [withReturns_newline, withReturns_newline, withReturns_append,
      go_cons_self (List.cons_ne_nil _ _), hseen]
    apply go_last
    rw [hreturned, withReturns_newline]
    simp
  · rw [withReturns_cons hnewline, withReturns_cons hnewline, withReturns_append]
    apply go_last
    rw [hreturned, withReturns_cons hnewline]
    rfl

/-- The two searches stay in step: they have read the same, and the same of the marker is to come. -/
theorem cut?.go_withReturns (hreturn : '\r' ∉ marker) (older : List Char)
    {found wanted text : List Char} (hmarker : marker = found ++ wanted) (hwanted : wanted ≠ [])
    (htext : '\r' ∉ text) :
    cut?.go (withReturns marker) (withReturns wanted) (withReturns (older ++ found)).reverse
        (withReturns text) =
      (cut?.go marker wanted (older ++ found).reverse text).map
        (Prod.map withReturns withReturns) := by
  have hne : marker ≠ [] := by
    rw [hmarker]
    exact List.append_ne_nil_of_right_ne_nil _ hwanted
  induction text generalizing older found wanted with
  | nil => rfl
  | cons c rest ih =>
    obtain ⟨w, ws, rfl⟩ := List.exists_cons_of_ne_nil hwanted
    rw [List.mem_cons, not_or] at htext
    have hw : w ≠ '\r' := by
      rintro rfl
      exact hreturn (by simp [hmarker])
    by_cases hc : c = w
    · subst hc
      by_cases hws : ws = []
      · subst hws
        rw [go_withReturns_last hmarker, go_last hmarker]
        rfl
      · have hfound : marker = (found ++ [c]) ++ ws := by
          simp [hmarker]
        have hseen : c :: (older ++ found).reverse = (older ++ (found ++ [c])).reverse := by
          simp
        rw [go_withReturns_self hws, go_cons_self hws, hseen, ← ih older hfound hws htext.2,
          List.append_assoc]
    · have hseen : c :: (older ++ found).reverse = (older ++ found ++ [c] ++ []).reverse := by
        simp
      rw [go_withReturns_of_ne hreturn hne (Ne.symm htext.1) hw hc, go_cons_of_ne hc, hseen,
        ← ih _ (List.nil_append marker).symm hne htext.2, List.append_nil]

/-- The other text is cut at the same place. -/
theorem cut?_withReturns (hreturn : '\r' ∉ marker) (hmarker : marker ≠ []) {text : List Char}
    (htext : '\r' ∉ text) : cut? (withReturns marker) (withReturns text) =
      (cut? marker text).map (Prod.map withReturns withReturns) :=
  cut?.go_withReturns hreturn [] (List.nil_append marker).symm hmarker htext

end Cut

/-! ## Frames -/

/-- The frame of the other text. -/
def Frame.withReturns (frame : Frame) : Frame where
  opening := Pem.withReturns frame.opening
  payload := Pem.withReturns frame.payload
  closing := Pem.withReturns frame.closing

/-- A frame of a text without carriage returns. -/
structure Frame.NoReturns (frame : Frame) : Prop where
  opening : '\r' ∉ frame.opening
  payload : '\r' ∉ frame.payload
  closing : '\r' ∉ frame.closing

theorem notMem_of_cut? {marker text front back : List Char} {c : Char} (h : c ∉ text)
    (hcut : cut? marker text = some (front, back)) : c ∉ front ∧ c ∉ back := by
  rw [eq_append_of_cut? hcut, List.mem_append, List.mem_append, not_or, not_or] at h
  exact ⟨h.1.1, h.2⟩

/-- A step of the search for a block goes on in both texts behind the same marker. -/
theorem bind_cut?_withReturns {α : Type} {f : α → α} {marker text : List Char}
    (hmarker : marker ∈ [beginMarker, dashes, endMarker]) (htext : '\r' ∉ text)
    {next next' : List Char × List Char → Option α}
    (hnext : ∀ front back, '\r' ∉ back →
      next' (withReturns front, withReturns back) = (next (front, back)).map f) :
    (cut? marker (withReturns text) >>= next') = (cut? marker text >>= next).map f := by
  have hplain : ∀ marker ∈ [beginMarker, dashes, endMarker],
      marker ≠ [] ∧ '\n' ∉ marker ∧ '\r' ∉ marker := by decide
  obtain ⟨hne, hnewline, hreturn⟩ := hplain marker hmarker
  have hcut := cut?_withReturns hreturn hne htext
  rw [withReturns_eq_self hnewline] at hcut
  rw [hcut]
  cases h : cut? marker text with
  | none => rfl
  | some parts => exact hnext parts.1 parts.2 (notMem_of_cut? htext h).2

theorem noReturns_of_frame? {text rest : List Char} {frame : Frame} (htext : '\r' ∉ text)
    (h : frame? text = some (frame, rest)) : frame.NoReturns ∧ '\r' ∉ rest := by
  simp only [frame?, Option.bind_eq_bind, Option.bind_eq_some_iff, Prod.exists, Option.pure_def,
    Option.some.injEq, Prod.mk.injEq] at h
  obtain ⟨_, rest₁, h₁, opening, rest₂, h₂, payload, rest₃, h₃, closing, rest₄, h₄, rfl, rfl⟩ := h
  obtain ⟨-, hrest₁⟩ := notMem_of_cut? htext h₁
  obtain ⟨hopening, hrest₂⟩ := notMem_of_cut? hrest₁ h₂
  have hblank : '\r' ∉ rest₂.dropWhile isBlank :=
    fun hmem => hrest₂ ((List.dropWhile_sublist isBlank).mem hmem)
  obtain ⟨hpayload, hrest₃⟩ := notMem_of_cut? hblank h₃
  obtain ⟨hclosing, hrest₄⟩ := notMem_of_cut? hrest₃ h₄
  refine ⟨⟨hopening, hpayload, hclosing⟩, ?_⟩
  exact fun hmem => hrest₄ ((List.dropWhile_sublist isBlank).mem hmem)

/-- The first frames of the two texts are found in step. -/
theorem frame?_withReturns {text : List Char} (htext : '\r' ∉ text) :
    frame? (withReturns text) = (frame? text).map (Prod.map Frame.withReturns withReturns) := by
  unfold frame?
  apply bind_cut?_withReturns (by simp) htext
  intro _ text htext
  apply bind_cut?_withReturns (by simp) htext
  intro opening text htext
  have hblank : '\r' ∉ text.dropWhile isBlank :=
    fun hmem => htext ((List.dropWhile_sublist isBlank).mem hmem)
  simp only [dropWhile_isBlank_withReturns]
  apply bind_cut?_withReturns (by simp) hblank
  intro payload text htext
  apply bind_cut?_withReturns (by simp) htext
  intro closing text htext
  simp only [dropWhile_isBlank_withReturns]
  rfl

/-- The frames of the other text are those of the text. -/
theorem frames_withReturns {text : List Char} (htext : '\r' ∉ text) :
    frames (withReturns text) = (frames text).map Frame.withReturns ∧
      ∀ frame ∈ frames text, frame.NoReturns := by
  have hframe := frame?_withReturns htext
  cases h : frame? text with
  | none =>
    rw [h] at hframe
    rw [frames_of_none hframe, frames_of_none h]
    simp
  | some parts =>
    obtain ⟨frame, rest⟩ := parts
    obtain ⟨hplain, hrest⟩ := noReturns_of_frame? htext h
    obtain ⟨hframes, hall⟩ := frames_withReturns hrest
    rw [h] at hframe
    rw [frames_of_some hframe, frames_of_some h, hframes]
    exact ⟨rfl, List.forall_mem_cons.2 ⟨hplain, hall⟩⟩
termination_by text.length
decreasing_by exact length_lt_of_frame? h

/-! ## Headers and data -/

/-- In the other text, a line feed always stands behind a carriage return. -/
theorem isChain_withReturns (text : List Char) :
    (withReturns text).IsChain fun a b => b = '\n' → a = '\r' := by
  induction text with
  | nil => exact .nil
  | cons c text ih =>
    have hhead : ∀ d ∈ (withReturns text).head?, d ≠ '\n' := by
      cases text with
      | nil => simp
      | cons d text =>
        by_cases hd : d = '\n'
        · rw [hd, withReturns_newline]
          simp
        · rw [withReturns_cons hd]
          simpa using hd
    have htail : ∀ a, ∀ d ∈ (withReturns text).head?, d = '\n' → a = '\r' :=
      fun _ d hd hnewline => absurd hnewline (hhead d hd)
    by_cases hc : c = '\n'
    · rw [hc, withReturns_newline, List.isChain_cons, List.isChain_cons]
      exact ⟨fun _ _ _ => rfl, htail _, ih⟩
    · rw [withReturns_cons hc, List.isChain_cons]
      exact ⟨htail c, ih⟩

/-- The headers of the other text end at the empty line of the other form. -/
theorem parts_withReturns {frame : Frame} (h : '\r' ∉ frame.payload) :
    frame.withReturns.parts = Prod.map withReturns withReturns frame.parts := by
  have hplain : cut? "\r\n\r\n".toList frame.payload = none :=
    cut?_eq_none fun hpart => h (hpart.subset (by decide))
  have hreturned : cut? "\n\n".toList (withReturns frame.payload) = none := by
    apply cut?_eq_none
    intro hpart
    have hchain := List.IsChain.infix (isChain_withReturns frame.payload) hpart
    exact absurd (List.isChain_pair.1 hchain rfl) (by decide)
  have hempty : withReturns "\n\n".toList = "\r\n\r\n".toList := rfl
  have hcut : cut? "\r\n\r\n".toList (withReturns frame.payload) =
      (cut? "\n\n".toList frame.payload).map (Prod.map withReturns withReturns) := by
    rw [← hempty]
    exact cut?_withReturns (by decide) (by decide) h
  simp only [Frame.parts, Frame.withReturns, hplain, hreturned, hcut, Option.getD_none]
  cases cut? "\n\n".toList frame.payload with
  | none => rfl
  | some parts => rfl

theorem notMem_of_parts {frame : Frame} {c : Char} (h : c ∉ frame.payload) :
    c ∉ frame.parts.1 ∧ c ∉ frame.parts.2 := by
  unfold Frame.parts
  split
  · rename_i parts hparts
    exact notMem_of_cut? h hparts
  · cases hparts : cut? "\r\n\r\n".toList frame.payload with
    | none => exact ⟨List.not_mem_nil, h⟩
    | some parts => exact notMem_of_cut? h hparts

/-- When a frame holds a block. -/
theorem Frame.block_eq_ok_iff {frame : Frame} {block : Block} :
    frame.block = .ok block ↔
      frame.opening ≠ [] ∧ frame.closing ≠ [] ∧ frame.opening = frame.closing ∧
      Base64.decode (Bytes.ofChars (frame.parts.2.filter (!Text.isWhiteSpace ·))) =
        .ok block.contents ∧
      (∀ line ∈ lines frame.parts.1, ':' ∈ line) ∧ String.ofList frame.opening = block.label := by
  have hheaders : (lines frame.parts.1).find? (!·.contains ':') = none ↔
      ∀ line ∈ lines frame.parts.1, ':' ∈ line := by
    simp [List.find?_eq_none]
  obtain ⟨label, contents⟩ := block
  rw [← hheaders]
  simp only [Frame.block, Except.guard_bind_eq_ok_iff, Except.bind_eq_ok_iff,
    Except.mapError_eq_ok_iff]
  cases (lines frame.parts.1).find? (!·.contains ':') with
  | none => simp [Except.pure_eq_ok_iff]
  | some line =>
    apply iff_of_false
    · rintro ⟨-, -, -, _, -, ⟨⟩⟩
    · rintro ⟨-, -, -, -, ⟨⟩, -⟩

/-! ## Blocks -/

/-- The block with the label of the other text. -/
def Block.withReturns (block : Block) : Block where
  label := String.ofList (Pem.withReturns block.label.toList)
  contents := block.contents

/-- The frame of the other text holds the same block, but for the line breaks in its label. -/
theorem block_withReturns_eq_ok_iff {frame : Frame} (h : frame.NoReturns) {block' : Block} :
    frame.withReturns.block = .ok block' ↔
      ∃ block, frame.block = .ok block ∧ block.withReturns = block' := by
  have hparts := notMem_of_parts h.payload
  have hsame : withReturns frame.opening = withReturns frame.closing ↔
      frame.opening = frame.closing := withReturns_inj h.opening h.closing
  obtain ⟨label', contents'⟩ := block'
  rw [Frame.block_eq_ok_iff, parts_withReturns h.payload, Prod.map_fst, Prod.map_snd,
    filter_isWhiteSpace_withReturns, lines_withReturns hparts.1]
  simp only [Frame.withReturns, ne_eq, withReturns_eq_nil_iff, hsame, Frame.block_eq_ok_iff]
  constructor
  · rintro ⟨hopening, hclosing, heq, hdata, hheaders, rfl⟩
    have hblock : Block.withReturns ⟨String.ofList frame.opening, contents'⟩ =
        ⟨String.ofList (withReturns frame.opening), contents'⟩ := by
      rw [Block.withReturns, String.toList_ofList]
    exact ⟨_, ⟨hopening, hclosing, heq, hdata, hheaders, rfl⟩, hblock⟩
  · rintro ⟨⟨label, contents⟩, ⟨hopening, hclosing, heq, hdata, hheaders, rfl⟩, hblock⟩
    rw [Block.withReturns, Block.mk.injEq, String.toList_ofList] at hblock
    obtain ⟨rfl, rfl⟩ := hblock
    exact ⟨hopening, hclosing, heq, hdata, hheaders, rfl⟩

theorem mapM_block_withReturns_eq_ok_iff {frames : List Frame}
    (h : ∀ frame ∈ frames, frame.NoReturns) {blocks' : List Block} :
    (frames.map Frame.withReturns).mapM Frame.block = .ok blocks' ↔
      ∃ blocks, frames.mapM Frame.block = .ok blocks ∧ blocks.map Block.withReturns = blocks' := by
  induction frames generalizing blocks' with
  | nil => simp [Except.pure_eq_ok_iff]
  | cons frame frames ih =>
    rw [List.forall_mem_cons] at h
    simp only [List.map_cons, List.mapM_cons, Except.bind_eq_ok_iff, Except.pure_eq_ok_iff,
      block_withReturns_eq_ok_iff h.1, ih h.2]
    constructor
    · rintro ⟨_, ⟨block, hblock, rfl⟩, _, ⟨blocks, hblocks, rfl⟩, rfl⟩
      exact ⟨block :: blocks, ⟨block, hblock, blocks, hblocks, rfl⟩, rfl⟩
    · rintro ⟨_, ⟨block, hblock, blocks, hblocks, rfl⟩, rfl⟩
      exact ⟨_, ⟨block, hblock, rfl⟩, _, ⟨blocks, hblocks, rfl⟩, rfl⟩

theorem notMem_label_of_mapM {frames : List Frame}
    (h : ∀ frame ∈ frames, frame.NoReturns) {blocks : List Block}
    (hblocks : frames.mapM Frame.block = .ok blocks) :
    ∀ block ∈ blocks, '\r' ∉ block.label.toList := by
  induction frames generalizing blocks with
  | nil =>
    rw [List.mapM_nil, Except.pure_eq_ok_iff] at hblocks
    simp [← hblocks]
  | cons frame frames ih =>
    rw [List.forall_mem_cons] at h
    simp only [List.mapM_cons, Except.bind_eq_ok_iff, Except.pure_eq_ok_iff] at hblocks
    obtain ⟨block, hblock, rest, hrest, rfl⟩ := hblocks
    obtain ⟨-, -, -, -, -, hlabel⟩ := Frame.block_eq_ok_iff.1 hblock
    rw [List.forall_mem_cons, ← hlabel, String.toList_ofList]
    exact ⟨h.1.opening, ih h.2 hrest⟩

/-- The line breaks in a label do not matter for its end. -/
theorem isPrivateKey_withReturns {block : Block} (h : '\r' ∉ block.label.toList) :
    block.withReturns.isPrivateKey = block.isPrivateKey := by
  rw [Bool.eq_iff_iff, Block.isPrivateKey, Block.isPrivateKey, List.isSuffixOf_iff_suffix,
    List.isSuffixOf_iff_suffix, Block.withReturns, String.toList_ofList]
  exact suffix_withReturns_iff h (by decide) (by decide)

/-! ## Texts -/

/-- The text with a carriage return before every line feed. -/
def textWithReturns (text : String) : String :=
  String.ofList (withReturns text.toList)

variable {text : String}

/-- No label has a carriage return if the text has none. -/
theorem notMem_label_of_ofText (h : '\r' ∉ text.toList) {blocks : List Block}
    (hblocks : Block.ofText text = .ok blocks) : ∀ block ∈ blocks, '\r' ∉ block.label.toList :=
  notMem_label_of_mapM (frames_withReturns h).2 hblocks

theorem ofText_withReturns_eq_ok_iff (h : '\r' ∉ text.toList) {blocks' : List Block} :
    Block.ofText (textWithReturns text) = .ok blocks' ↔
      ∃ blocks, Block.ofText text = .ok blocks ∧ blocks.map Block.withReturns = blocks' := by
  obtain ⟨hframes, hplain⟩ := frames_withReturns h
  rw [Block.ofText, textWithReturns, String.toList_ofList, hframes]
  exact mapM_block_withReturns_eq_ok_iff hplain

theorem privateKeyBlock_eq_ok_iff {block : Block} : privateKeyBlock text = .ok block ↔
    ∃ blocks, Block.ofText text = .ok blocks ∧ blocks.find? Block.isPrivateKey = some block := by
  rw [privateKeyBlock, Except.bind_eq_ok_iff]
  apply exists_congr
  intro blocks
  rw [Except.mapError_eq_ok_iff]
  apply and_congr_right
  intro _
  cases blocks with
  | nil =>
    apply iff_of_false Except.throw_ne_ok
    rintro ⟨⟩
  | cons first rest =>
    cases (first :: rest).find? Block.isPrivateKey with
    | none =>
      apply iff_of_false Except.throw_ne_ok
      rintro ⟨⟩
    | some found => simp [Except.pure_eq_ok_iff]

/-- The private key block of the other text is that of the text, but for the line breaks in its
label. -/
theorem privateKeyBlock_withReturns_eq_ok_iff (h : '\r' ∉ text.toList) {block' : Block} :
    privateKeyBlock (textWithReturns text) = .ok block' ↔
      ∃ block, privateKeyBlock text = .ok block ∧ block.withReturns = block' := by
  simp only [privateKeyBlock_eq_ok_iff, ofText_withReturns_eq_ok_iff h]
  have hfind {blocks : List Block} (hblocks : Block.ofText text = .ok blocks) :
      (blocks.map Block.withReturns).find? Block.isPrivateKey =
        (blocks.find? Block.isPrivateKey).map Block.withReturns := by
    have hlabels := notMem_label_of_ofText h hblocks
    have hsame : ∀ block ∈ blocks,
        (Block.isPrivateKey ∘ Block.withReturns) block = block.isPrivateKey := by
      intro block hmem
      rw [Function.comp_apply, isPrivateKey_withReturns (hlabels block hmem)]
    rw [List.find?_map, List.find?_congr hsame]
  constructor
  · rintro ⟨_, ⟨blocks, hblocks, rfl⟩, hblock⟩
    rw [hfind hblocks, Option.map_eq_some_iff] at hblock
    obtain ⟨block, hblock, rfl⟩ := hblock
    exact ⟨block, ⟨blocks, hblocks, hblock⟩, rfl⟩
  · rintro ⟨block, ⟨blocks, hblocks, hblock⟩, rfl⟩
    refine ⟨blocks.map Block.withReturns, ⟨blocks, hblocks, rfl⟩, ?_⟩
    rw [hfind hblocks, hblock]
    rfl

/-- With a label that has no line breaks, both texts have the same private key block. -/
theorem privateKeyBlock_withReturns (h : '\r' ∉ text.toList) {label : String}
    (hnewline : '\n' ∉ label.toList) (hreturn : '\r' ∉ label.toList) {contents : Bytes} :
    privateKeyBlock (textWithReturns text) = .ok ⟨label, contents⟩ ↔
      privateKeyBlock text = .ok ⟨label, contents⟩ := by
  have hself := withReturns_eq_self hnewline
  rw [privateKeyBlock_withReturns_eq_ok_iff h]
  constructor
  · rintro ⟨⟨label', contents'⟩, hblock, heq⟩
    rw [Block.withReturns, Block.mk.injEq] at heq
    obtain ⟨hlabel, rfl⟩ := heq
    obtain ⟨blocks, hblocks, hfind⟩ := privateKeyBlock_eq_ok_iff.1 hblock
    have hreturn' : '\r' ∉ label'.toList :=
      notMem_label_of_ofText h hblocks _ (List.mem_of_find?_eq_some hfind)
    have hchars : withReturns label'.toList = withReturns label.toList := by
      rw [hself, ← hlabel, String.toList_ofList]
    rw [withReturns_inj hreturn' hreturn, String.toList_inj] at hchars
    rw [hblock, hchars]
  · intro hblock
    refine ⟨⟨label, contents⟩, hblock, ?_⟩
    rw [Block.withReturns, hself, String.ofList_toList]

/-! ## The text of a block -/

theorem return_notMem_toText (block : Block) (h : '\r' ∉ block.label.toList) :
    '\r' ∉ block.toText.toList := by
  have hbegin : '\r' ∉ beginMarker := by decide
  have hend : '\r' ∉ endMarker := by decide
  have hdashes : '\r' ∉ dashes := by decide
  rw [toList_toText]
  simp [hbegin, hend, hdashes, h, return_notMem_wrap_encode]

/-- The text of a block has line feeds, so the other text is another one. -/
theorem textWithReturns_toText_ne (block : Block) (h : '\r' ∉ block.label.toList) :
    textWithReturns block.toText ≠ block.toText := by
  have hnewline : '\n' ∈ block.toText.toList := by
    simp [toList_toText]
  have hreturn : '\r' ∈ withReturns block.toText.toList :=
    List.mem_flatMap.2 ⟨'\n', hnewline, by decide⟩
  intro hsame
  rw [← String.toList_ofList (l := withReturns block.toText.toList)] at hreturn
  exact return_notMem_toText block h (hsame ▸ hreturn)

end SealedKey.Pem
