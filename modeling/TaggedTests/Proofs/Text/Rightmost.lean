import TaggedTests.Proofs.Text.Mentions

/-! Which tag a prose asks for: the one whose keyword starts furthest to the right. -/

namespace TaggedTests

namespace Tag

/-- No keyword of a tag begins that of another one. -/
theorem eq_of_keyword_begins {first second : Tag} (begins : first.keyword <+: second.keyword) :
    first = second := by
  -- The vocabulary is finite, so each pair of keywords is compared.
  have each : ∀ one ∈ all, ∀ other ∈ all, one.keyword <+: other.keyword → one = other := by decide
  exact each first (mem_all first) second (mem_all second) begins

/-- A text starts with the keyword of one tag at most. -/
theorem eq_of_starts {first second : Tag} {text : Text} (one : first.keyword <+: text)
    (other : second.keyword <+: text) : first = second :=
  Text.eq_of_starts eq_of_keyword_begins one other

/-- No keyword is empty. -/
theorem keyword_ne_nil (tag : Tag) : tag.keyword ≠ [] := by
  cases tag <;> decide

/-- The keyword that a text starts with is found among all of them. -/
theorem find?_isPrefixOf_eq_some_iff {tag : Tag} {text : Text} :
    all.find? (fun other => other.keyword.isPrefixOf text) = some tag ↔ tag.keyword <+: text := by
  constructor
  · exact fun found => List.isPrefixOf_iff_prefix.1 (List.find?_eq_some_iff_append.1 found).1
  · intro starts
    -- One is found, and what is found starts the text as well.
    cases found : all.find? (fun other => other.keyword.isPrefixOf text) with
    | none =>
      have missed := List.find?_eq_none.1 found tag (mem_all tag)
      exact absurd (List.isPrefixOf_iff_prefix.2 starts) missed
    | some other =>
      have again := List.isPrefixOf_iff_prefix.1 (List.find?_eq_some_iff_append.1 found).1
      rw [eq_of_starts again starts]

end Tag

namespace Text

variable {text rest : Text} {c : Char} {tag other : Tag} {place elsewhere : Nat}

/-- The keyword of a tag starts at a place of a text, and from this place on no keyword of any tag
starts but this one. -/
def RightmostAt (tag : Tag) (text : Text) (place : Nat) : Prop :=
  tag.keyword <+: text.drop place ∧ ∀ (other : Tag) (later : Nat), place ≤ later →
    other.keyword <+: text.drop later → other = tag ∧ later = place

/-- Behind the first character, the keyword that starts furthest to the right is that of the
rest. -/
theorem RightmostAt.cons (rightmost : RightmostAt tag rest place) (c : Char) :
    RightmostAt tag (c :: rest) (place + 1) := by
  refine ⟨rightmost.1, fun other later behind starts => ?_⟩
  -- Later places lie in the rest, each one place further to the left there.
  cases later with
  | zero => omega
  | succ later =>
    obtain ⟨same, rfl⟩ := rightmost.2 other later (by omega) starts
    exact ⟨same, rfl⟩

/-- A keyword that starts at the first character is the rightmost one if none occurs behind it. -/
theorem rightmostAt_zero (starts : tag.keyword <+: c :: rest)
    (none : ∀ other : Tag, ¬ other.keyword <:+: rest) : RightmostAt tag (c :: rest) 0 := by
  refine ⟨starts, fun other later _ again => ?_⟩
  -- Here only one keyword can start, and further on there is none.
  cases later with
  | zero => exact ⟨Tag.eq_of_starts again starts, rfl⟩
  | succ later =>
    have occurs : other.keyword <:+: rest := infix_of_prefix_drop again
    exact absurd occurs (none other)

/-- Only the keyword of one tag can be the rightmost one. -/
theorem RightmostAt.unique (one : RightmostAt tag text place)
    (further : RightmostAt other text elsewhere) : tag = other := by
  -- The one that starts further to the right is seen from the place of the other.
  rcases Nat.le_total place elsewhere with before | behind
  · exact (one.2 other elsewhere before further.1).1.symm
  · exact (further.2 tag place behind one.1).1

/-- What is asked for is what the rest asks for or, failing that, the keyword at the front. -/
theorem lastTag?_cons (c : Char) (rest : Text) : lastTag? (c :: rest) =
    (lastTag? rest).or (Tag.all.find? fun tag => tag.keyword.isPrefixOf (c :: rest)) := by
  rw [lastTag?]
  cases lastTag? rest <;> rfl

/-- No tag is asked for exactly where no keyword of a tag occurs. -/
theorem lastTag?_eq_none_iff : lastTag? text = none ↔ ∀ tag : Tag, ¬ tag.keyword <:+: text := by
  induction text with
  | nil => simp [lastTag?, Tag.keyword_ne_nil]
  | cons c rest ih =>
    -- A keyword starts at the first character, or it occurs in the rest.
    simp only [lastTag?_cons, Option.or_eq_none_iff, ih, List.find?_eq_none, Tag.mem_all,
      true_imp_iff, List.isPrefixOf_iff_prefix, List.infix_cons_iff, not_or, forall_and]
    exact and_comm

/-- The tag that is asked for has the rightmost keyword. -/
theorem exists_rightmostAt (asked : lastTag? text = some tag) :
    ∃ place, RightmostAt tag text place := by
  induction text with
  | nil => cases asked
  | cons c rest ih =>
    rw [lastTag?_cons, Option.or_eq_some_iff, Tag.find?_isPrefixOf_eq_some_iff] at asked
    -- The rest decides, and only without an answer does the first character.
    rcases asked with later | ⟨none, starts⟩
    · obtain ⟨place, rightmost⟩ := ih later
      exact ⟨place + 1, rightmost.cons c⟩
    · exact ⟨0, rightmostAt_zero starts (lastTag?_eq_none_iff.1 none)⟩

/-- A tag is asked for exactly where its keyword is the rightmost one. -/
theorem lastTag?_eq_some_iff : lastTag? text = some tag ↔ ∃ place, RightmostAt tag text place := by
  refine ⟨exists_rightmostAt, fun ⟨place, rightmost⟩ => ?_⟩
  -- Some tag is asked for, as one is mentioned, and there is a single rightmost one.
  cases asked : lastTag? text with
  | none =>
    exact absurd (infix_of_prefix_drop rightmost.1) (lastTag?_eq_none_iff.1 asked tag)
  | some found =>
    obtain ⟨elsewhere, further⟩ := exists_rightmostAt asked
    rw [further.unique rightmost]

/-- A tag that is asked for is so behind any other text. -/
theorem lastTag?_append_of_some (asked : lastTag? text = some tag) (front : Text) :
    lastTag? (front ++ text) = some tag := by
  -- A longer front is never looked at, since what lies behind it has an answer.
  induction front with
  | nil => exact asked
  | cons c front ih => rw [List.cons_append, lastTag?_cons, ih, Option.some_or]

/-- No modifier is mentioned twice, and each is mentioned before those whose keywords occur last
further to the right. -/
theorem pairwise_lastAt_mentionedModifiers (text : Text) :
    (mentionedModifiers text).Pairwise fun former later => former ≠ later ∧
      ∃ place further, LastAt former.keyword text place ∧ LastAt later.keyword text further ∧
        place < further := by
  -- Each modifier that is mentioned has a place at which its keyword occurs last.
  have placed {modifier : Modifier} (member : modifier ∈ mentionedModifiers text) :=
    exists_lastAt modifier.keyword_ne_nil (mem_mentionedModifiers.1 member)
  refine (pairwise_mentionedModifiers text).imp_of_mem fun {former later} one other before => ?_
  obtain ⟨place, last⟩ := placed one
  obtain ⟨further, lasts⟩ := placed other
  refine ⟨?_, place, further, last, lasts, before place further last lasts⟩
  rintro rfl
  exact Nat.lt_irrefl _ (before place place last last)

/--
A prose asks for the tag whose keyword starts furthest to the right.

It asks for none exactly if no keyword of a tag occurs in it. Two keywords never start at one place,
so that there is no tie. What a prose asks for stays the same behind any other text, whatever
keywords lie across the seam. The modifiers that are mentioned are those whose keywords occur, each
once and in the order of the places where their keywords occur last.
-/
theorem lastTag?_rightmost (text : Text) :
    (lastTag? text = none ↔ ∀ tag : Tag, ¬ tag.keyword <:+: text) ∧
    (∀ tag, lastTag? text = some tag ↔ ∃ place, RightmostAt tag text place) ∧
    (∀ (one other : Tag) (place : Nat), one.keyword <+: text.drop place →
      other.keyword <+: text.drop place → one = other) ∧
    (∀ front tag, lastTag? text = some tag → lastTag? (front ++ text) = some tag) ∧
    (∀ modifier : Modifier, modifier ∈ mentionedModifiers text ↔ modifier.keyword <:+: text) ∧
    (mentionedModifiers text).Pairwise fun former later => former ≠ later ∧
      ∃ place further, LastAt former.keyword text place ∧ LastAt later.keyword text further ∧
        place < further :=
  -- A rightmost mention is the only one of its kind, and a front adds mentions further to the left.
  ⟨lastTag?_eq_none_iff, fun _ => lastTag?_eq_some_iff, fun _ _ _ => Tag.eq_of_starts,
    fun front _ asked => lastTag?_append_of_some asked front, fun _ => mem_mentionedModifiers,
    pairwise_lastAt_mentionedModifiers text⟩

/-- Keywords that overlap, also across the seam, and modifiers of which one is mentioned again. -/
theorem lastTag?_rightmost_overlapping :
    let front : Text := "mENDNONE INPU".toList
    let text : Text := "TIMEOUTPUT mENDNL mSHUFFLED mENDNL".toList
    lastTag? text = some .output ∧ (∃ place, RightmostAt .output text place) ∧
      lastTag? (front ++ text) = some .output ∧ Tag.input.keyword <:+: front ++ text ∧
      Tag.timeout.keyword <+: text.drop 0 ∧
      (∀ tag : Tag, tag.keyword <+: text.drop 0 → Tag.timeout = tag) ∧
      mentionedModifiers text = [.shuffled, .endNewline] ∧
      Modifier.endNewline.keyword <:+: text := by
  intro front text
  obtain ⟨-, asks, single, behind, mentions, -⟩ := lastTag?_rightmost text
  have asked : lastTag? text = some .output := by decide +kernel
  -- Two keywords overlap in the text, and the one that begins later counts.
  have starts : Tag.timeout.keyword <+: text.drop 0 := by decide +kernel
  -- A modifier that is mentioned twice is listed once, where it stands last.
  have listed : mentionedModifiers text = [.shuffled, .endNewline] := by decide +kernel
  exact ⟨asked, (asks .output).1 asked, behind front .output asked, by decide +kernel, starts,
    fun tag => single .timeout tag 0 starts, listed, (mentions .endNewline).1 (by simp [listed])⟩

end Text

end TaggedTests
