import TaggedTests.Proofs.Text.Occurrence
import TaggedTests.Proofs.Text.Replacement

/-! Where a text is cut and split: at the first occurrences of a pattern, which are found again in a
text that is put together around them. -/

namespace TaggedTests.Text

variable {pattern text front before rest : Text} {c d p : Char} {ps : Text}

/-- A text can be cut at a pattern exactly when the pattern occurs in it. -/
theorem cut?_eq_none_iff : cut? pattern text = none ↔ ¬ pattern <:+: text := by
  refine ⟨fun missing occurs => ?_, cut?_of_absent⟩
  obtain ⟨before, rest, rfl⟩ := occurs
  -- The pattern is found where it occurs, if it was not found before.
  induction before with
  | nil =>
    rw [List.nil_append] at missing
    -- Here the pattern starts the text.
    cases whole : pattern ++ rest with
    | nil =>
      obtain ⟨rfl, rfl⟩ := List.append_eq_nil_iff.1 whole
      simp [cut?, after?] at missing
    | cons c cs =>
      have starts : after? pattern (c :: cs) = some rest := after?_eq_some_iff.2 whole.symm
      simp [whole, cut?, starts] at missing
  | cons c before ih =>
    simp only [List.cons_append, cut?] at missing
    split at missing
    · cases missing
    · exact ih (Option.map_eq_none_iff.1 missing)

/-- In front of where a text is cut, the pattern does not occur. -/
theorem not_infix_of_cut? (solid : pattern ≠ []) (cut : cut? pattern text = some (before, rest)) :
    ¬ pattern <:+: before := by
  induction text generalizing before with
  | nil =>
    simp only [cut?, Option.map_eq_some_iff, Prod.mk.injEq] at cut
    obtain ⟨_, -, rfl, -⟩ := cut
    simpa using solid
  | cons c cs ih =>
    -- If the pattern does not begin here, it is cut at behind the first character.
    have whole := eq_of_cut? cut
    simp only [cut?] at cut
    split at cut
    · cases cut
      simpa using solid
    · next absent =>
      obtain ⟨⟨first, behind⟩, later, same⟩ := Option.map_eq_some_iff.1 cut
      cases same
      rw [List.infix_cons_iff, not_or]
      -- At the front it would begin in the whole text as well.
      refine ⟨fun starts => after?_eq_none_iff.1 absent ?_, ih later⟩
      rw [whole]
      exact starts.trans (List.prefix_append ..)

/-- A pattern at the front of a text ends before a further character that it can only begin
with. -/
theorem prefix_cons_append_cons_iff (alone : c ∉ pattern.tail) :
    pattern <+: d :: (front ++ c :: rest) ↔ pattern <+: d :: front := by
  rcases pattern with _ | ⟨p, ps⟩
  · simp
  · -- Behind its first character the pattern cannot get past the foreign one.
    have foreign : c ∉ ps := alone
    rw [List.cons_prefix_cons, List.cons_prefix_cons, prefix_append_cons_iff foreign]

/-- A pattern does not occur across a character that it can only begin with. -/
theorem infix_append_cons_iff_of_tail (alone : c ∉ pattern.tail) (solid : pattern ≠ []) :
    pattern <:+: front ++ c :: rest ↔ pattern <:+: front ∨ pattern <:+: c :: rest := by
  -- An occurrence starts in the front and ends there, or it starts behind the front.
  induction front with
  | nil => simp [solid]
  | cons d front ih =>
    rw [List.cons_append, List.infix_cons_iff, List.infix_cons_iff,
      prefix_cons_append_cons_iff alone, ih, or_assoc]

/-- A pattern does not begin in a part that does not hold its first character. -/
theorem infix_append_iff_of_head (foreign : p ∉ front) :
    p :: ps <:+: front ++ rest ↔ p :: ps <:+: rest := by
  induction front with
  | nil => rfl
  | cons d front ih =>
    -- The pattern does not begin with the first character, and so it stands behind it.
    rw [List.mem_cons, not_or] at foreign
    rw [List.cons_append, List.infix_cons_iff, List.cons_prefix_cons, ih foreign.2]
    simp [foreign.1]

/-- A text is cut at a pattern that begins with a character of its own, where the front is without
the pattern. -/
theorem cut?_append (alone : p ∉ ps) (absent : ¬ p :: ps <:+: front) (rest : Text) :
    cut? (p :: ps) (front ++ (p :: ps ++ rest)) = some (front, rest) := by
  induction front with
  | nil =>
    have starts : after? (p :: ps) (p :: (ps ++ rest)) = some rest := after?_eq_some_iff.2 rfl
    simp [cut?, starts]
  | cons d front ih =>
    rw [List.infix_cons_iff, not_or] at absent
    -- The pattern does not start here, not even with what follows the front.
    have here : after? (p :: ps) (d :: (front ++ p :: (ps ++ rest))) = none := by
      rw [after?_eq_none_iff, prefix_cons_append_cons_iff (show p ∉ (p :: ps).tail from alone)]
      exact absent.1
    have later := ih absent.2
    rw [List.cons_append] at later ⊢
    rw [List.cons_append, cut?, here, later]
    rfl

/-- The pieces of a text make it up again with the pattern between them, which is in no piece. -/
theorem exists_splitAtEach (solid : pattern ≠ []) (text : Text) :
    ∃ first others, splitAtEach pattern text = first :: others ∧
      text = first ++ others.flatMap (pattern ++ ·) ∧
      ∀ piece ∈ first :: others, ¬ pattern <:+: piece := by
  -- The first piece lies in front of the pattern, and the rest behind it is split in turn.
  fun_induction splitAtEach pattern text with
  | case1 => contradiction
  | case2 text _ missing =>
    have absent := cut?_eq_none_iff.1 missing
    exact ⟨text, [], rfl, by simp, by simpa using absent⟩
  | case3 text _ before rest cut ih =>
    obtain ⟨first, others, split, whole, free⟩ := ih
    refine ⟨before, first :: others, by rw [split], ?_,
      List.forall_mem_cons.2 ⟨not_infix_of_cut? solid cut, free⟩⟩
    calc text = before ++ (pattern ++ rest) := eq_of_cut? cut
      _ = before ++ (first :: others).flatMap (pattern ++ ·) := by
        rw [whole, List.flatMap_cons, List.append_assoc]

/-- Pieces without a pattern that begins with a character of its own are found again between its
occurrences. -/
theorem splitAtEach_of_free (alone : p ∉ ps) {first : Text} {others : List Text}
    (free : ∀ piece ∈ first :: others, ¬ p :: ps <:+: piece) :
    splitAtEach (p :: ps) (first ++ others.flatMap (p :: ps ++ ·)) = first :: others := by
  induction others generalizing first with
  | nil =>
    rw [List.flatMap_nil, List.append_nil]
    exact splitAtEach_of_none (cut?_of_absent (free first (List.mem_singleton_self _)))
  | cons next others ih =>
    -- The first cut is at the first pattern, behind which the others follow.
    obtain ⟨own, later⟩ := List.forall_mem_cons.1 free
    rw [List.flatMap_cons, List.append_assoc,
      splitAtEach_of_some (List.cons_ne_nil p ps) (cut?_append alone own _), ih later]

end TaggedTests.Text
