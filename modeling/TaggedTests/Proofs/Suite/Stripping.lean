import TaggedTests.Proofs.Suite.Tidy

/-! Dropping words from the flags of a suite leaves one that can be written and read back. -/

namespace TaggedTests

namespace Text

variable {text : Text}

/-- The pieces between separating characters are parts of the text. -/
theorem infix_of_mem_splitOnP {separates : Char → Bool} {piece : Text}
    (member : piece ∈ text.splitOnP separates) : piece <:+: text := by
  -- The first piece is where the text starts, so that a further character can join it.
  have parts : ∃ first others, text.splitOnP separates = first :: others ∧ first <+: text ∧
      ∀ other ∈ others, other <:+: text := by
    clear member
    induction text with
    | nil => exact ⟨[], [], List.splitOnP_nil, List.prefix_rfl, by simp⟩
    | cons c rest ih =>
      obtain ⟨first, others, split, front, inside⟩ := ih
      have behind : rest <:+: c :: rest := (List.suffix_cons c rest).isInfix
      rw [List.splitOnP_cons_eq_if_modifyHead, split]
      split
      · -- A separator ends the first piece, and any other character extends it.
        exact ⟨[], first :: others, rfl, List.nil_prefix, List.forall_mem_cons.2
          ⟨front.isInfix.trans behind, fun other member => (inside other member).trans behind⟩⟩
      · exact ⟨c :: first, others, rfl, (List.prefix_cons_inj c).2 front,
          fun other member => (inside other member).trans behind⟩
  obtain ⟨first, others, split, front, inside⟩ := parts
  rw [split] at member
  rcases List.mem_cons.1 member with rfl | later
  · exact front.isInfix
  · exact inside piece later

/-- The words of a text are parts of it. -/
theorem infix_of_mem_words {word : Text} (member : word ∈ words text) : word <:+: text :=
  infix_of_mem_splitOnP (List.mem_of_mem_filter member)

/-- A pattern occurs in joined parts exactly when it occurs in one of them, unless it holds what
joins them. -/
theorem infix_intercalate_iff {pattern : Text} {c : Char} (foreign : c ∉ pattern)
    (solid : pattern ≠ []) {parts : List Text} :
    pattern <:+: [c].intercalate parts ↔ ∃ part ∈ parts, pattern <:+: part := by
  -- An occurrence ends before the character that joins the first part to the others.
  induction parts with
  | nil => simp [solid]
  | cons part rest ih =>
    cases rest with
    | nil => simp
    | cons next rest =>
      rw [List.intercalate_cons_cons, List.append_assoc, List.singleton_append,
        infix_append_cons_iff foreign solid, ih]
      simp

/-- Parts of a text that may stand between brackets may do so when they are joined by blanks. -/
theorem Plain.joined (plain : text.Plain) {parts : List Text}
    (inside : ∀ part ∈ parts, part <:+: text) : Plain ([' '].intercalate parts) := by
  -- Neither a bracket nor a carriage return holds a blank.
  have absent {pattern : Text} (foreign : ' ' ∉ pattern) (solid : pattern ≠ [])
      (free : ¬ pattern <:+: text) : ¬ pattern <:+: [' '].intercalate parts := fun occurs => by
    obtain ⟨part, member, within⟩ := (infix_intercalate_iff foreign solid).1 occurs
    exact free (within.trans (inside part member))
  exact ⟨absent (by decide) (by decide) plain.opening, absent (by decide) (by decide) plain.closing,
    mt (List.singleton_infix_iff ..).2 (absent (by decide) (by decide)
      (mt (List.singleton_infix_iff ..).1 plain.noReturn))⟩

end Text

namespace Suite

variable {suite : Suite}

/-- Dropping sanitizers changes nothing but the features of the file. -/
theorem stripSanitizers_eq (suite : Suite) :
    suite.stripSanitizers = { suite with globals := suite.stripSanitizers.globals } := by
  unfold stripSanitizers
  split <;> rfl

/-- Without flags there is nothing to drop; otherwise a single block holds the words that are
kept. -/
theorem globals_stripSanitizers (suite : Suite) :
    suite.stripSanitizers.globals = suite.flags.elim suite.globals fun flags =>
      suite.globals.replace (suite.registry.featureOf .flags
        [[' '].intercalate ((Text.words flags).filter (!asksForSanitizers ·))]) := by
  unfold stripSanitizers
  cases suite.flags <;> rfl

/-- A suite that can be written and read back can be so without its sanitizers. -/
theorem Legible.stripSanitizers (legible : suite.Legible) : suite.stripSanitizers.Legible := by
  have globals := suite.globals_stripSanitizers
  cases given : suite.flags with
  | none =>
    -- Nothing is dropped.
    rw [stripSanitizers_eq, globals, given]
    exact legible
  | some flags =>
    obtain ⟨feature, found, joined⟩ := Option.map_eq_some_iff.1 given
    rw [given, Option.elim_some] at globals
    rw [stripSanitizers_eq, globals]
    exact {
      madeGlobals := legible.madeGlobals.replace (suite.registry.made_featureOf .flags _)
      madeTests := legible.madeTests
      plainGlobals := by
        -- The words that are kept are parts of the former flags.
        intro tag other global located
        rcases Features.cases_of_get?_replace located with ⟨-, rfl⟩ | ⟨-, former⟩
        · rw [suite.registry.merged_featureOf]
          have plain := legible.plainGlobals .flags feature rfl found
          rw [joined] at plain
          exact plain.joined fun word kept =>
            Text.infix_of_mem_words (List.mem_of_mem_filter kept)
        · exact legible.plainGlobals tag other global former
      plainTests := legible.plainTests
      bare := fun none => by
        -- A file without tests has no flags.
        have empty := legible.bare none
        rw [Suite.flags, empty, Features.merged?, Features.get?_empty] at given
        cases given }

/-- Dropping sanitizers keeps a suite tidy. -/
theorem Tidy.stripSanitizers (tidy : suite.Tidy) : suite.stripSanitizers.Tidy := by
  rw [stripSanitizers_eq]
  exact tidy

end Suite

end TaggedTests
