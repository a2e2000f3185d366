import Mathlib.Data.List.Infix
import TaggedTests.Text.Basic

/-! What replacing a pattern leaves of that pattern and of others. -/

namespace TaggedTests.Text

variable {old new text pattern : Text}

/-- A text starts with a pattern exactly when something is left behind the pattern. -/
theorem after?_eq_none_iff : after? pattern text = none ↔ ¬ pattern <+: text := by
  rw [Option.eq_none_iff_forall_ne_some]
  -- There is a rest behind the pattern exactly if the text begins with it.
  constructor
  · rintro none ⟨rest, rfl⟩
    exact none rest (after?_eq_some_iff.2 rfl)
  · intro none rest found
    exact none ⟨rest, (after?_eq_some_iff.1 found).symm⟩

/-- A text without the pattern is one piece. -/
theorem splitAtEach_of_none (missing : cut? old text = none) : splitAtEach old text = [text] := by
  -- An empty pattern is never cut at, and another one is not found.
  rw [splitAtEach]
  split
  · rfl
  · split
    · rfl
    · next found => simp [missing] at found

/-- A text is cut at the first pattern, and what follows it is split in turn. -/
theorem splitAtEach_of_some {before rest : Text} (solid : old ≠ [])
    (cut : cut? old text = some (before, rest)) :
    splitAtEach old text = before :: splitAtEach old rest := by
  -- The cut that is found is the one that is known.
  rw [splitAtEach, dif_neg solid]
  split
  · next missing => simp [cut] at missing
  · next found =>
    cases cut.symm.trans found
    rfl

/-- A text has at least one piece. -/
theorem splitAtEach_ne_nil : splitAtEach old text ≠ [] := by
  -- Even where nothing is cut there is one piece.
  rw [splitAtEach]
  split
  · simp
  · split <;> simp

/-- Nothing can be replaced in an empty text. -/
theorem replace_nil (solid : old ≠ []) : replace old new [] = [] := by
  have missing : after? old [] = none := after?_eq_none_iff.2 (by simpa using solid)
  rw [replace, splitAtEach_of_none (by simp [cut?, missing]), List.intercalate_singleton]

/-- A text in which a pattern does not occur is not cut at it. -/
theorem cut?_of_absent (absent : ¬ pattern <:+: text) : cut? pattern text = none := by
  -- The pattern starts at no character of the text.
  induction text with
  | nil => simpa [cut?, after?_eq_none_iff] using absent
  | cons c rest ih =>
    rw [List.infix_cons_iff, not_or] at absent
    simp [cut?, after?_eq_none_iff.2 absent.1, ih absent.2]

/-- A text in which a pattern does not occur is kept when the pattern is replaced. -/
theorem replace_of_absent (new : Text) (absent : ¬ old <:+: text) :
    replace old new text = text := by
  rw [replace, splitAtEach_of_none (cut?_of_absent absent), List.intercalate_singleton]

/-- A pattern at the front of a text is replaced, and then what follows it. -/
theorem replace_append (solid : old ≠ []) (rest : Text) :
    replace old new (old ++ rest) = new ++ replace old new rest := by
  -- The cut lies at the front, so that the first piece is empty.
  obtain ⟨c, cs, split⟩ := List.exists_cons_of_ne_nil (List.append_ne_nil_of_left_ne_nil solid rest)
  have cut : cut? old (old ++ rest) = some ([], rest) := by
    have starts := after?_eq_some_iff.2 (Eq.refl (old ++ rest))
    rw [split] at starts ⊢
    simp [cut?, starts]
  rw [replace, splitAtEach_of_some solid cut, List.intercalate_cons_of_ne_nil splitAtEach_ne_nil]
  rfl

/-- A character at which the pattern does not start is kept. -/
theorem replace_cons (solid : old ≠ []) {c : Char} {rest : Text} (absent : ¬ old <+: c :: rest) :
    replace old new (c :: rest) = c :: replace old new rest := by
  -- The first piece of the whole text is that of the rest behind the character.
  have later : cut? old (c :: rest) =
      (cut? old rest).map fun found => (c :: found.1, found.2) := by
    simp [cut?, after?_eq_none_iff.2 absent]
  unfold replace
  cases cut : cut? old rest with
  | none =>
    rw [cut, Option.map_none] at later
    simp [splitAtEach_of_none later, splitAtEach_of_none cut]
  | some parts =>
    rw [cut, Option.map_some] at later
    rw [splitAtEach_of_some solid later, splitAtEach_of_some solid cut,
      List.intercalate_cons_cons_left]

/-- Every text is empty, starts with the pattern, or starts with a character that is kept. -/
@[elab_as_elim]
theorem replace_induction {motive : Text → Prop} (solid : old ≠ []) (nil : motive [])
    (found : ∀ rest, motive rest → motive (old ++ rest))
    (kept : ∀ c rest, ¬ old <+: c :: rest → motive rest → motive (c :: rest)) (text : Text) :
    motive text := by
  -- What is left of the text gets shorter, by the pattern or by one character.
  induction size : text.length using Nat.strong_induction_on generalizing text with
  | _ n shorter =>
    by_cases starts : old <+: text
    · obtain ⟨rest, rfl⟩ := starts
      have positive := List.length_pos_iff.2 solid
      simp only [List.length_append] at size
      exact found rest (shorter rest.length (by omega) rest rfl)
    · rcases text with _ | ⟨c, rest⟩
      · exact nil
      · simp only [List.length_cons] at size
        exact kept c rest starts (shorter rest.length (by omega) rest rfl)

/-- What a new text shares with the old one character by character, a replacement keeps. -/
theorem map_replace {α : Type} {view : Char → α} (solid : old ≠ [])
    (same : new.map view = old.map view) (text : Text) :
    (replace old new text).map view = text.map view := by
  -- Seen this way, each occurrence is put as itself.
  induction text using replace_induction solid with
  | nil => rw [replace_nil solid]
  | found rest ih => rw [replace_append solid, List.map_append, List.map_append, same, ih]
  | kept c rest absent ih => rw [replace_cons solid absent, List.map_cons, List.map_cons, ih]

/--
A replacement that brings in no occurrence of a word.

The word is not inside the new text and cannot run into it from the left. Where it could begin at
the end of the new text, it could begin so at the end of the old one.
-/
def Neutral (old new word : Text) : Prop :=
  new ≠ [] ∧ (∀ c ∈ new.take 1, c ∉ word.tail) ∧ ¬ word <:+: new ∧
    ∀ k < word.length, 0 < k → word.take k <:+ new → word.take k <:+ old

instance (old new word : Text) : Decidable (Neutral old new word) :=
  -- Only the characters at hand are tried, not every character that there is.
  have : Decidable (∀ c ∈ new.take 1, c ∉ word.tail) := List.decidableBAll _ _
  inferInstanceAs (Decidable (_ ∧ _))

/-- No word begins at the end of a text that shares only its first character, but not there. -/
theorem not_take_suffix_of_foreign {word : Text} (long : word.tail ≠ [])
    (foreign : ∀ c ∈ new, c ∉ word.tail) (edge : new.getLast? ≠ word.head?) {k : Nat}
    (positive : 0 < k) : ¬ word.take k <:+ new := by
  -- One character would be the last one of the new text, and two would lie inside it.
  intro final
  rcases word with _ | ⟨w, _ | ⟨v, ws⟩⟩
  · simp at long
  · simp at long
  · rcases k with _ | _ | k
    · omega
    · obtain ⟨before, rfl⟩ := final
      simp at edge
    · exact foreign v (final.subset (by simp)) (by simp)

/-- A text that shares only its first character with a word, and not as the last, is neutral. -/
theorem neutral_of_foreign {word : Text} (filled : new ≠ []) (long : word.tail ≠ [])
    (foreign : ∀ c ∈ new, c ∉ word.tail) (edge : new.getLast? ≠ word.head?) :
    Neutral old new word := by
  refine ⟨filled, fun c first => foreign c (List.mem_of_mem_take first), fun inside => ?_,
    fun k _ positive final => absurd final (not_take_suffix_of_foreign long foreign edge positive)⟩
  -- The word has a second character, and the new text does not hold it.
  obtain ⟨c, member⟩ := List.exists_mem_of_ne_nil word.tail long
  exact foreign c (inside.subset (List.mem_of_mem_tail member)) member

/-- A pattern that the new text does not start in starts the original text with the result. -/
theorem prefix_of_prefix_replace (solid : old ≠ []) (filled : new ≠ [])
    (apart : ∀ c ∈ new.take 1, c ∉ pattern) (starts : pattern <+: replace old new text) :
    pattern <+: text := by
  -- The pattern is consumed with the text until a replacement comes, which it cannot enter.
  induction text using replace_induction solid generalizing pattern with
  | nil => simpa [replace_nil solid] using starts
  | found rest _ =>
    rcases pattern with _ | ⟨p, ps⟩
    · simp
    · -- The replacement would begin with a character of the pattern.
      obtain ⟨n, ns, rfl⟩ := List.exists_cons_of_ne_nil filled
      rw [replace_append solid, List.cons_append, List.cons_prefix_cons] at starts
      exact absurd (starts.1 ▸ List.mem_cons_self ..) (apart n (by simp))
  | kept c rest absent ih =>
    rcases pattern with _ | ⟨p, ps⟩
    · simp
    · rw [replace_cons solid absent, List.cons_prefix_cons] at starts
      have later := ih (fun d first => mt (List.mem_cons_of_mem p) (apart d first)) starts.2
      exact List.cons_prefix_cons.2 ⟨starts.1, later⟩

/-- An occurrence in a new text and a rest lies in the rest or begins at the end of the new text. -/
theorem Neutral.infix_append {word rest : Text} (neutral : Neutral old new word)
    (occurs : word <:+: new ++ rest) :
    word <:+: rest ∨ ∃ k < word.length, 0 < k ∧ word.take k <:+ new ∧ word.drop k <+: rest := by
  -- The word stands in the new text, or behind it, or across its end.
  rcases List.infix_append_iff_ne_nil.1 occurs with inside | behind | across
  · exact absurd inside neutral.2.2.1
  · exact Or.inl behind
  · obtain ⟨front, back, some, more, rfl, final, starts⟩ := across
    have := List.length_pos_iff.2 some
    have := List.length_pos_iff.2 more
    exact Or.inr ⟨front.length, by simp; omega, by omega, by simpa using final,
      by simpa using starts⟩

/-- The part of a word behind its beginning starts a text when it starts the result. -/
theorem Neutral.prefix_drop {word : Text} (neutral : Neutral old new word) (solid : old ≠ [])
    {k : Nat} (positive : 0 < k) (starts : word.drop k <+: replace old new text) :
    word.drop k <+: text := by
  refine prefix_of_prefix_replace solid neutral.1 (fun c first inside => ?_) starts
  -- The first character of the new text is not one of those behind the front of the word.
  refine neutral.2.1 c first (List.mem_of_mem_drop (i := k - 1) ?_)
  rwa [List.drop_tail, Nat.sub_add_cancel positive]

/-- A word that starts a kept character and the result behind it starts the text there. -/
theorem Neutral.prefix_cons {word : Text} (neutral : Neutral old new word) (solid : old ≠ [])
    (starts : word <+: c :: replace old new text) : word <+: c :: text := by
  rcases word with _ | ⟨w, ws⟩
  · exact List.nil_prefix
  · -- All but the first character of the word stands behind the one that is kept.
    rw [List.cons_prefix_cons] at starts ⊢
    exact ⟨starts.1, neutral.prefix_drop solid Nat.one_pos starts.2⟩

/-- A neutral replacement makes no new occurrence of a word. -/
theorem Neutral.infix_of_replace {word : Text} (neutral : Neutral old new word) (solid : old ≠ [])
    (occurs : word <:+: replace old new text) : word <:+: text := by
  -- An occurrence that begins at the end of a replacement began at the end of the old text.
  induction text using replace_induction solid with
  | nil =>
    rw [replace_nil solid, List.infix_nil] at occurs
    simp [occurs]
  | found rest ih =>
    rw [replace_append solid] at occurs
    rcases neutral.infix_append occurs with behind | ⟨k, shorter, positive, final, starts⟩
    · exact List.infix_append_of_infix_right (ih behind)
    · -- What the replacement ends with, the old text ended with too.
      obtain ⟨before, same⟩ := neutral.2.2.2 k shorter positive final
      obtain ⟨tail, behind⟩ := neutral.prefix_drop solid positive starts
      refine ⟨before, tail, ?_⟩
      calc before ++ word ++ tail
          = before ++ (word.take k ++ word.drop k) ++ tail := by rw [List.take_append_drop]
        _ = old ++ rest := by simp only [← same, ← behind, List.append_assoc]
  | kept c rest absent ih =>
    rw [replace_cons solid absent, List.infix_cons_iff] at occurs
    rcases occurs with here | behind
    · exact (neutral.prefix_cons solid here).isInfix
    · exact List.infix_cons (ih behind)

/-- No occurrence of the old text is left when none can begin at the end of the new one. -/
theorem Neutral.not_infix_replace_self (neutral : Neutral old new old) (solid : old ≠ [])
    (bare : ∀ k < old.length, 0 < k → ¬ old.take k <:+ new) :
    ¬ old <:+: replace old new text := by
  -- What is kept between replacements holds no occurrence, and none reaches into a replacement.
  induction text using replace_induction solid with
  | nil => rwa [replace_nil solid, List.infix_nil]
  | found rest ih =>
    rw [replace_append solid]
    intro occurs
    rcases neutral.infix_append occurs with behind | ⟨k, shorter, positive, final, -⟩
    · exact ih behind
    · exact bare k shorter positive final
  | kept c rest absent ih =>
    rw [replace_cons solid absent, List.infix_cons_iff]
    rintro (here | behind)
    · exact absent (neutral.prefix_cons solid here)
    · exact ih behind

end TaggedTests.Text
