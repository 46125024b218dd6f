import SealedKey.Pem.Scan
import Mathlib.Data.List.Infix

/-!
# Cutting a text at a marker

The one-pass search for a marker starts again behind a character that does not fit, so it can
miss a marker that begins inside a broken one.  It cannot miss one behind a character that
stands nowhere in the marker: `cut?_append` says that a text is cut at the first marker if what
stands before it ends in such a character, or is empty.  `eq_append_of_cut?` is the other direction:
the search only finds what is there.  A text that goes on is cut at the same place
(`cut?_append_right`).
-/

namespace SealedKey.Pem

/-- What may stand before a marker that the search is to find: no marker, and no beginning of
one at the end. -/
structure Gap (marker front : List Char) : Prop where
  not_infix : ¬ marker <:+: front
  getLast?_notMem : ∀ c, front.getLast? = some c → c ∉ marker

theorem Gap.nil {marker : List Char} (h : marker ≠ []) : Gap marker [] where
  not_infix hpart := h (List.infix_nil.1 hpart)
  getLast?_notMem := by simp

/-- A text that has no character of the marker is a gap. -/
theorem Gap.of_disjoint {marker front : List Char} (hmarker : marker ≠ [])
    (h : ∀ c ∈ front, c ∉ marker) : Gap marker front where
  not_infix hpart := by
    obtain ⟨c, rest, rfl⟩ := List.exists_cons_of_ne_nil hmarker
    exact h c (hpart.subset List.mem_cons_self) List.mem_cons_self
  getLast?_notMem c hc := h c (List.mem_of_getLast? hc)

/-! ## The search -/

/-- The state of the search: some of the marker, `found`, is read last, and `wanted` is to come. -/
theorem cut?.go_append (found : List Char) {marker wanted seen front rest : List Char}
    (hmarker : marker = found ++ wanted) (hseen : ∃ older, seen = found.reverse ++ older)
    (hwanted : wanted ≠ []) (hpart : ¬ marker <:+: seen.reverse ++ front)
    (hlast : ∀ c, front.getLast? = some c → c ∉ marker) :
    cut?.go marker wanted seen (front ++ rest) =
      cut?.go marker (if front = [] then wanted else marker) (front.reverse ++ seen) rest := by
  induction front generalizing found wanted seen with
  | nil => rfl
  | cons c front ih =>
    obtain ⟨w, ws, rfl⟩ := List.exists_cons_of_ne_nil hwanted
    have hmarkerNe : marker ≠ [] := by
      rw [hmarker]
      simp
    have hpart' : ¬ marker <:+: (c :: seen).reverse ++ front := by
      simpa using hpart
    have hlast' : ∀ d, front.getLast? = some d → d ∉ marker := by
      intro d hd
      apply hlast d
      rw [List.getLast?_cons, hd]
      rfl
    have hreset : cut?.go marker marker (c :: seen) (front ++ rest) =
        cut?.go marker (if c :: front = [] then w :: ws else marker)
          ((c :: front).reverse ++ seen) rest := by
      have := ih [] (List.nil_append marker).symm ⟨c :: seen, rfl⟩ hmarkerNe hpart' hlast'
      simpa using this
    obtain ⟨older, hseen⟩ := hseen
    simp only [List.cons_append, cut?.go]
    by_cases hc : c = w
    · subst hc
      rw [if_pos rfl]
      by_cases hws : ws = []
      · -- the marker would be complete
        refine absurd ?_ hpart
        subst hws
        refine ⟨older.reverse, front, ?_⟩
        simp [hmarker, hseen]
      · rw [if_neg hws]
        by_cases hfront : front = []
        · -- the last character is not in the marker
          refine absurd ?_ (hlast c (by simp [hfront]))
          simp [hmarker]
        · have := ih (found ++ [c]) (by simp [hmarker]) ⟨older, by simp [hseen]⟩ hws hpart' hlast'
          simpa [hfront] using this
    · rw [if_neg hc]
      exact hreset

theorem cut?.go_wanted {marker wanted seen back : List Char} (h : wanted ≠ []) :
    cut?.go marker wanted seen (wanted ++ back) =
      some (((wanted.reverse ++ seen).drop marker.length).reverse, back) := by
  induction wanted generalizing seen with
  | nil => exact absurd rfl h
  | cons w ws ih =>
    simp only [List.cons_append, cut?.go, if_true]
    by_cases hws : ws = []
    · simp [hws]
    · rw [if_neg hws, ih hws]
      simp

/-- A text is cut at its first marker. -/
theorem cut?_append {marker front back : List Char} (hmarker : marker ≠ [])
    (h : Gap marker front) : cut? marker (front ++ marker ++ back) = some (front, back) := by
  have hgo : cut?.go marker marker [] (front ++ (marker ++ back)) =
      cut?.go marker (if front = [] then marker else marker) (front.reverse ++ [])
        (marker ++ back) :=
    cut?.go_append [] (List.nil_append marker).symm ⟨[], rfl⟩ hmarker
      (by simpa using h.not_infix) h.getLast?_notMem
  rw [cut?, List.append_assoc, hgo, ite_self, List.append_nil, cut?.go_wanted hmarker,
    List.drop_left' (List.length_reverse), List.reverse_reverse]

theorem cut?.eq_append_of_go (found : List Char) {marker wanted seen text front back : List Char}
    (hmarker : marker = found ++ wanted) (hseen : ∃ older, seen = found.reverse ++ older)
    (h : cut?.go marker wanted seen text = some (front, back)) :
    seen.reverse ++ text = front ++ marker ++ back := by
  induction text generalizing found wanted seen with
  | nil => simp [cut?.go] at h
  | cons c rest ih =>
    cases wanted with
    | nil => simp [cut?.go] at h
    | cons w ws =>
      obtain ⟨older, hseen⟩ := hseen
      simp only [cut?.go] at h
      split at h
      · rename_i hc
        split at h
        · rename_i hws
          have hlength : marker.length = (c :: found.reverse).length := by
            simp [hmarker, hws]
          rw [Option.some.injEq, Prod.mk.injEq, hseen, ← List.cons_append,
            List.drop_left' hlength.symm] at h
          simp [← h.1, ← h.2, hmarker, hseen, hc, hws]
        · have := ih (found ++ [c]) (by simp [hmarker, hc]) ⟨older, by simp [hseen]⟩ h
          simpa using this
      · have := ih [] (List.nil_append marker).symm ⟨c :: seen, rfl⟩ h
        simpa using this

/-- What is cut is the marker. -/
theorem eq_append_of_cut? {marker text front back : List Char}
    (h : cut? marker text = some (front, back)) : text = front ++ marker ++ back := by
  have := cut?.eq_append_of_go [] (List.nil_append marker).symm ⟨[], rfl⟩ h
  simpa using this

/-- The search finds only what is there. -/
theorem infix_of_cut? {marker text front back : List Char}
    (h : cut? marker text = some (front, back)) : marker <:+: text :=
  ⟨front, back, (eq_append_of_cut? h).symm⟩

theorem cut?_eq_none {marker text : List Char} (h : ¬ marker <:+: text) :
    cut? marker text = none := by
  cases hcut : cut? marker text with
  | none => rfl
  | some parts => exact absurd (infix_of_cut? hcut) h

/-! ## Texts that go on -/

theorem cut?.go_append_right {marker wanted seen text front back : List Char} (rest : List Char)
    (h : cut?.go marker wanted seen text = some (front, back)) :
    cut?.go marker wanted seen (text ++ rest) = some (front, back ++ rest) := by
  induction text generalizing wanted seen with
  | nil => simp [cut?.go] at h
  | cons c text ih =>
    cases wanted with
    | nil => simp [cut?.go] at h
    | cons w ws =>
      simp only [List.cons_append, cut?.go] at h ⊢
      split at h
      · rename_i hc
        rw [if_pos hc]
        split at h
        · rename_i hws
          rw [Option.some.injEq, Prod.mk.injEq] at h
          rw [if_pos hws, h.1, h.2]
        · rename_i hws
          rw [if_neg hws]
          exact ih h
      · rename_i hc
        rw [if_neg hc]
        exact ih h

/-- Where a text is cut does not depend on what follows it. -/
theorem cut?_append_right {marker text front back : List Char} (rest : List Char)
    (h : cut? marker text = some (front, back)) :
    cut? marker (text ++ rest) = some (front, back ++ rest) :=
  cut?.go_append_right rest h

end SealedKey.Pem
