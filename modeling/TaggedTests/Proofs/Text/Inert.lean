import TaggedTests.Proofs.Text.Occurrence
import TaggedTests.Proofs.Text.Rightmost

/-! Keywords in prose: which tag and modifiers a prose asks for when it is put together from parts,
and prose that asks for nothing. -/

namespace TaggedTests

/-- Every text that has a meaning in a test file: brackets and keywords. -/
def reserved : List Text := [Block.opening, Block.closing] ++ keywords

/-- No reserved word holds a blank or a character of a line end. -/
theorem blank_not_mem_reserved : ∀ word ∈ reserved,
    word ≠ [] ∧ ' ' ∉ word ∧ '\n' ∉ word ∧ '\r' ∉ word := by
  decide

/-- The keyword of a tag is reserved. -/
theorem Tag.keyword_mem_reserved (tag : Tag) : tag.keyword ∈ reserved :=
  List.mem_append_right _ (List.mem_append_left _ (List.mem_map_of_mem (Tag.mem_all tag)))

/-- The keyword of a modifier is reserved. -/
theorem Modifier.keyword_mem_reserved (modifier : Modifier) : modifier.keyword ∈ reserved :=
  List.mem_append_right _
    (List.mem_append_right _ (List.mem_map_of_mem (Modifier.mem_all modifier)))

namespace Text

/-- A character that is in no reserved word, so that it separates whatever stands around it. -/
def Separates (c : Char) : Prop := ∀ word ∈ reserved, c ∉ word

/-- Blanks separate words. -/
theorem separates_blank : Separates ' ' :=
  fun word member => (blank_not_mem_reserved word member).2.1

/-- Newlines separate words. -/
theorem separates_newline : Separates '\n' :=
  fun word member => (blank_not_mem_reserved word member).2.2.1

/-- Carriage returns separate words. -/
theorem separates_return : Separates '\r' :=
  fun word member => (blank_not_mem_reserved word member).2.2.2

variable {c : Char}

/-- Words that start a text behind which a separating character follows start the text alone. -/
theorem Separates.isPrefixOf_append (separates : Separates c) {word : Text}
    (member : word ∈ reserved) (front rest : Text) :
    word.isPrefixOf (front ++ c :: rest) = word.isPrefixOf front := by
  rw [Bool.eq_iff_iff, List.isPrefixOf_iff_prefix, List.isPrefixOf_iff_prefix]
  exact prefix_append_cons_iff (separates word member)

/-- The last tag of a text is that of its rest behind a separating character or, failing that, that
of its front. -/
theorem lastTag?_append (separates : Separates c) (front rest : Text) :
    lastTag? (front ++ c :: rest) = (lastTag? rest <|> lastTag? front) := by
  -- No keyword of the front reaches past the separating character, and none starts at it.
  induction front with
  | nil =>
    have here (tag : Tag) : tag.keyword.isPrefixOf (c :: rest) = tag.keyword.isPrefixOf [] :=
      separates.isPrefixOf_append tag.keyword_mem_reserved [] rest
    simp only [List.nil_append, lastTag?, here]
    rfl
  | cons d front ih =>
    have here (tag : Tag) : tag.keyword.isPrefixOf (d :: (front ++ c :: rest)) =
        tag.keyword.isPrefixOf (d :: front) :=
      separates.isPrefixOf_append tag.keyword_mem_reserved (d :: front) rest
    simp only [List.cons_append, lastTag?, ih, here]
    cases lastTag? rest <;> rfl

/-- A text mentions the modifiers of its rest behind a separating character last, and before them
those of its front that are not mentioned again. -/
theorem mentionedModifiers_append (separates : Separates c) (front rest : Text) :
    mentionedModifiers (front ++ c :: rest) =
      (mentionedModifiers front).filter (!(mentionedModifiers rest).contains ·) ++
        mentionedModifiers rest := by
  -- A modifier of the front counts when neither its own rest nor the other part mentions it.
  induction front with
  | nil =>
    have here (modifier : Modifier) : modifier.keyword.isPrefixOf (c :: rest) =
        modifier.keyword.isPrefixOf [] :=
      separates.isPrefixOf_append modifier.keyword_mem_reserved [] rest
    simp only [List.nil_append, mentionedModifiers, here]
    rfl
  | cons d front ih =>
    have here (modifier : Modifier) : modifier.keyword.isPrefixOf (d :: (front ++ c :: rest)) =
        modifier.keyword.isPrefixOf (d :: front) :=
      separates.isPrefixOf_append modifier.keyword_mem_reserved (d :: front) rest
    simp only [List.cons_append, mentionedModifiers, ih, here, List.filter_append,
      List.filter_filter, List.append_assoc]
    congr 1
    -- What is left is a question of three memberships.
    refine List.filter_congr fun modifier _ => ?_
    rw [Bool.eq_iff_iff]
    simp
    grind

/-- A text without keywords mentions no modifier. -/
theorem mentionedModifiers_eq_nil {text : Text}
    (none : ∀ modifier : Modifier, ¬ modifier.keyword <:+: text) :
    mentionedModifiers text = [] :=
  List.eq_nil_iff_forall_not_mem.2 fun modifier mentioned =>
    none modifier (mem_mentionedModifiers.1 mentioned)

/-- Line ends do not matter for the tag that a text asks for. -/
@[simp] theorem lastTag?_normalizeLines (text : Text) :
    lastTag? (normalizeLines text) = lastTag? text := by
  -- Keywords start at the same characters, and at no line end.
  fun_induction normalizeLines text with
  | case1 => rfl
  | case2 rest ih =>
    -- Both characters of the line end are passed over, and so is the newline that stands for them.
    have passNewline (rest : Text) := lastTag?_append separates_newline [] rest
    have passReturn (rest : Text) := lastTag?_append separates_return [] rest
    simp only [List.nil_append] at passNewline passReturn
    simp only [passNewline, passReturn, ih]
    cases lastTag? rest <;> rfl
  | case3 c rest plain ih =>
    -- No keyword holds a character of a line end.
    have here (tag : Tag) : tag.keyword.isPrefixOf (normalizeLines (c :: rest)) =
        tag.keyword.isPrefixOf (c :: rest) := by
      obtain ⟨-, -, noNewline, noReturn⟩ := blank_not_mem_reserved _ tag.keyword_mem_reserved
      rw [Bool.eq_iff_iff, List.isPrefixOf_iff_prefix, List.isPrefixOf_iff_prefix]
      exact prefix_normalizeLines_iff noNewline noReturn
    rw [normalizeLines.eq_3 c rest plain] at here
    simp only [lastTag?, here, ih]

/-- Line ends do not matter for the modifiers that a text mentions. -/
@[simp] theorem mentionedModifiers_normalizeLines (text : Text) :
    mentionedModifiers (normalizeLines text) = mentionedModifiers text := by
  -- As for tags, each character of a line end is passed over.
  fun_induction normalizeLines text with
  | case1 => rfl
  | case2 rest ih =>
    have passNewline (rest : Text) := mentionedModifiers_append separates_newline [] rest
    have passReturn (rest : Text) := mentionedModifiers_append separates_return [] rest
    simp only [List.nil_append] at passNewline passReturn
    simp only [passNewline, passReturn, ih]
    rfl
  | case3 c rest plain ih =>
    have here (modifier : Modifier) : modifier.keyword.isPrefixOf (normalizeLines (c :: rest)) =
        modifier.keyword.isPrefixOf (c :: rest) := by
      obtain ⟨-, -, noNewline, noReturn⟩ := blank_not_mem_reserved _ modifier.keyword_mem_reserved
      rw [Bool.eq_iff_iff, List.isPrefixOf_iff_prefix, List.isPrefixOf_iff_prefix]
      exact prefix_normalizeLines_iff noNewline noReturn
    rw [normalizeLines.eq_3 c rest plain] at here
    simp only [mentionedModifiers, here, ih]

/-- A text without keywords and brackets, which means nothing in prose. -/
def Inert (text : Text) : Prop := ∀ word ∈ reserved, ¬ word <:+: text

instance (text : Text) : Decidable text.Inert := inferInstanceAs (Decidable (∀ _ ∈ _, _))

/-- An inert text asks for no tag. -/
theorem Inert.lastTag?_eq_none {text : Text} (inert : text.Inert) : lastTag? text = none :=
  lastTag?_eq_none_iff.2 fun tag => inert _ tag.keyword_mem_reserved

/-- An inert text mentions no modifier. -/
theorem Inert.mentionedModifiers_eq_nil {text : Text} (inert : text.Inert) :
    mentionedModifiers text = [] :=
  Text.mentionedModifiers_eq_nil fun modifier => inert _ modifier.keyword_mem_reserved

/-- Inert parts around a separating character make up an inert text, and only they do. -/
theorem inert_append_cons_iff (separates : Separates c) {front rest : Text} :
    (front ++ c :: rest).Inert ↔ front.Inert ∧ rest.Inert := by
  -- Each reserved word occurs in one of the parts if it occurs at all.
  have each (word : Text) (member : word ∈ reserved) :
      word <:+: front ++ c :: rest ↔ word <:+: front ∨ word <:+: rest :=
    infix_append_cons_iff (separates word member) (blank_not_mem_reserved word member).1
  constructor
  · intro inert
    exact ⟨fun word member inside => inert word member ((each word member).2 (Or.inl inside)),
      fun word member inside => inert word member ((each word member).2 (Or.inr inside))⟩
  · rintro ⟨before, behind⟩ word member inside
    exact ((each word member).1 inside).elim (before word member) (behind word member)

end Text

end TaggedTests
