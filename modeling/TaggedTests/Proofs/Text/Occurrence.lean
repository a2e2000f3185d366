import Mathlib.Data.List.Infix
import TaggedTests.Text.Lines

/-! Where patterns occur in a text that is put together from parts or whose line ends are made
uniform. -/

namespace TaggedTests.Text

/-- A pattern at the front of a text ends before a character that it does not hold. -/
theorem prefix_append_cons_iff {pattern front rest : Text} {c : Char} (foreign : c ∉ pattern) :
    pattern <+: front ++ c :: rest ↔ pattern <+: front := by
  -- Pattern and front are consumed together; the pattern cannot reach the foreign character.
  induction pattern generalizing front with
  | nil => simp
  | cons p ps ih =>
    have later : c ∉ ps := fun inside => foreign (List.mem_cons_of_mem p inside)
    rcases front with _ | ⟨d, front⟩
    · have differ : p ≠ c := fun same => foreign (same ▸ List.mem_cons_self ..)
      simp [List.cons_prefix_cons, differ]
    · simp only [List.cons_append, List.cons_prefix_cons, ih later]

/-- No text starts with a pattern that does not hold the first character of the text. -/
theorem not_prefix_cons {pattern rest : Text} {c : Char} (foreign : c ∉ pattern)
    (solid : pattern ≠ []) : ¬ pattern <+: c :: rest := by
  intro starts
  -- Only the empty text begins before a foreign character.
  have front : pattern <+: [] := (prefix_append_cons_iff foreign).1 (by simpa using starts)
  exact solid (List.prefix_nil.1 front)

/-- A character that a pattern does not hold separates its occurrences. -/
theorem infix_append_cons_iff {pattern front rest : Text} {c : Char} (foreign : c ∉ pattern)
    (solid : pattern ≠ []) :
    pattern <:+: front ++ c :: rest ↔ pattern <:+: front ∨ pattern <:+: rest := by
  -- An occurrence starts in the front, at the foreign character, or behind it.
  induction front with
  | nil => simp [List.infix_cons_iff, not_prefix_cons foreign solid, solid]
  | cons d front ih =>
    have same : pattern <+: d :: front ++ c :: rest ↔ pattern <+: d :: front :=
      prefix_append_cons_iff foreign
    rw [List.cons_append] at same
    simp only [List.cons_append, List.infix_cons_iff, same, ih, or_assoc]

/-- Two characters occur in joined parts inside one of them or across the seam. -/
theorem pair_infix_append_iff {p q : Char} {front rest : Text} :
    [p, q] <:+: front ++ rest ↔
      [p, q] <:+: front ∨ [p, q] <:+: rest ∨ front.getLast? = some p ∧ rest.head? = some q := by
  -- Only the last character of the front can pair up with the first one of the rest.
  induction front with
  | nil => simp
  | cons c front ih =>
    rcases front with _ | ⟨d, front⟩
    · rcases rest with _ | ⟨d, rest⟩
      · simp
      · simp only [List.singleton_append, List.infix_cons_iff, List.cons_prefix_cons,
          List.nil_prefix]
        grind
    · simp only [List.cons_append, List.infix_cons_iff, List.cons_prefix_cons] at ih ⊢
      grind

/-- A pattern without line ends starts the same texts before and after they are made uniform. -/
theorem prefix_normalizeLines_iff {pattern text : Text} (noNewline : '\n' ∉ pattern)
    (noReturn : '\r' ∉ pattern) : pattern <+: normalizeLines text ↔ pattern <+: text := by
  -- Other characters are kept, and a pattern that meets a line end starts neither text.
  fun_induction normalizeLines text generalizing pattern with
  | case1 => rfl
  | case2 rest ih =>
    rcases pattern with _ | ⟨p, ps⟩
    · simp
    · grind
  | case3 c rest _ ih =>
    rcases pattern with _ | ⟨p, ps⟩
    · simp
    · grind

/-- A pattern without line ends occurs in the same texts before and after they are made uniform. -/
theorem infix_normalizeLines_iff {pattern text : Text} (noNewline : '\n' ∉ pattern)
    (noReturn : '\r' ∉ pattern) (solid : pattern ≠ []) :
    pattern <:+: normalizeLines text ↔ pattern <:+: text := by
  -- A line end may lose its first character, at which the pattern does not start.
  fun_induction normalizeLines text with
  | case1 => rfl
  | case2 rest ih =>
    simp [List.infix_cons_iff, not_prefix_cons noNewline solid, not_prefix_cons noReturn solid, ih]
  | case3 c rest plain ih =>
    have starts : pattern <+: normalizeLines (c :: rest) ↔ pattern <+: c :: rest :=
      prefix_normalizeLines_iff noNewline noReturn
    rw [normalizeLines.eq_3 c rest plain] at starts
    rw [List.infix_cons_iff, List.infix_cons_iff, starts]
    exact or_congr Iff.rfl ih

/-- A text without carriage returns has uniform line ends already. -/
theorem normalizeLines_eq_self {text : Text} (clean : '\r' ∉ text) :
    normalizeLines text = text := by
  -- Without a return every character is kept.
  fun_induction normalizeLines text with
  | case1 => rfl
  | case2 => simp at clean
  | case3 c rest _ ih => grind

/-- A character other than a carriage return stays in front of what follows it. -/
theorem normalizeLines_cons {c : Char} (kept : c ≠ '\r') (rest : Text) :
    normalizeLines (c :: rest) = c :: normalizeLines rest := by
  rw [normalizeLines.eq_3 c rest fun _ returned => absurd returned kept, if_neg kept]

/-- Line ends of joined parts are made uniform part by part if none lies across the seam. -/
theorem normalizeLines_append {front rest : Text} (seam : rest.head? ≠ some '\n') :
    normalizeLines (front ++ rest) = normalizeLines front ++ normalizeLines rest := by
  -- A carriage return at the end of the front has no newline to join with.
  fun_induction normalizeLines front with
  | case1 => rfl
  | case2 front ih => simp [normalizeLines, ih]
  | case3 c front plain ih =>
    have alone : ∀ after, c = '\r' → front ++ rest = '\n' :: after → False := by
      intro after returned same
      rcases front with _ | ⟨d, front⟩
      · simp_all
      · exact plain front returned (by simp_all)
    rw [List.cons_append, normalizeLines.eq_3 c _ alone, ih, List.cons_append]

end TaggedTests.Text
