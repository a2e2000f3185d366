import TaggedTests.Proofs.Features
import TaggedTests.Proofs.Text.Pieces
import TaggedTests.Test

/-!
Arguments and hook lines are the pieces of joined blocks.

Where blocks are joined by the character that stands between pieces, it cannot be seen how the text
was divided into blocks.
-/

namespace TaggedTests

/-- The blocks of a tag, if it has a feature, are joined by a character. -/
def Features.JoinedBy (features : Features) (tag : Tag) (c : Char) : Prop :=
  ∀ feature, features.get? tag = some feature → feature.separator = [c]

namespace Test

variable {test : Test} {tag : Tag} {c : Char}

/-- Where blocks are joined by a separating character, the pieces of the joined text are those of
the blocks. -/
theorem pieces_merged {separates : Char → Bool} (ends : separates c = true)
    (joined : test.features.JoinedBy tag c) :
    Text.pieces separates (test.merged tag) =
      (test.features.contentsOf tag).flatMap (Text.pieces separates) := by
  unfold merged Features.merged? Features.contentsOf
  -- Joined at a character that separates, the blocks fall apart into their own pieces.
  cases present : test.features.get? tag with
  | none => rfl
  | some feature =>
    rw [Option.map_some, Option.getD_some, Feature.merged, joined feature present,
      Text.pieces_intercalate ends, Option.map_some, Option.getD_some]

/-- Pieces between occurrences of a character are not empty and do not hold it. -/
theorem not_mem_of_mem_pieces {text piece : Text} (member : piece ∈ Text.pieces (· == c) text) :
    piece ≠ [] ∧ c ∉ piece := by
  obtain ⟨some, solid⟩ := Text.solid_of_mem_pieces member
  exact ⟨some, fun inside => by simpa using solid c inside⟩

/-- Pieces between occurrences of a character are found again where it joins them. -/
theorem pieces_intercalate_pieces (text : Text) :
    Text.pieces (· == c) ([c].intercalate (Text.pieces (· == c) text)) =
      Text.pieces (· == c) text :=
  Text.pieces_intercalate_of_solid (beq_self_eq_true c) fun _ member =>
    Text.solid_of_mem_pieces member

/--
How arguments and hook lines are divided into blocks cannot be seen.

Where the blocks of the command line are joined by blanks, the arguments are the pieces between
blanks of one block after the other; where the blocks of a hook are joined by newlines, its lines
are the pieces between newlines of one block after the other. Whatever joins the blocks, no argument
is empty or holds a blank, no line of a hook is empty or holds a newline, and both are found again
in the text that joins them by single blanks or newlines.
-/
theorem pieces_of_blocks (test : Test) :
    (test.features.JoinedBy .cmd ' ' →
      test.args = (test.features.contentsOf .cmd).flatMap (Text.pieces (· == ' '))) ∧
    (test.features.JoinedBy .startup '\n' →
      test.startup = (test.features.contentsOf .startup).flatMap (Text.pieces (· == '\n'))) ∧
    (test.features.JoinedBy .cleanup '\n' →
      test.cleanup = (test.features.contentsOf .cleanup).flatMap (Text.pieces (· == '\n'))) ∧
    (∀ argument ∈ test.args, argument ≠ [] ∧ ' ' ∉ argument) ∧
    (∀ line ∈ test.startup ++ test.cleanup, line ≠ [] ∧ '\n' ∉ line) ∧
    Text.pieces (· == ' ') ([' '].intercalate test.args) = test.args ∧
    Text.pieces (· == '\n') (['\n'].intercalate test.startup) = test.startup ∧
    Text.pieces (· == '\n') (['\n'].intercalate test.cleanup) = test.cleanup := by
  -- Arguments and lines are the pieces of the joined text of their tag.
  have args : test.args = Text.pieces (· == ' ') (test.merged .cmd) := rfl
  have startup : test.startup = Text.pieces (· == '\n') (test.merged .startup) := rfl
  have cleanup : test.cleanup = Text.pieces (· == '\n') (test.merged .cleanup) := rfl
  rw [args, startup, cleanup]
  refine ⟨pieces_merged rfl, pieces_merged rfl, pieces_merged rfl,
    fun argument member => not_mem_of_mem_pieces member, fun line member => ?_,
    pieces_intercalate_pieces _, pieces_intercalate_pieces _, pieces_intercalate_pieces _⟩
  exact (List.mem_append.1 member).elim not_mem_of_mem_pieces not_mem_of_mem_pieces

/-- Blocks that are empty, hold runs of the separator, or begin or end with it. -/
theorem pieces_of_blocks_ragged :
    let test := (((Test.empty "Test 1".toList).add
        (Registry.builtin.featureOf .cmd ["  -a  b".toList, [], "c ".toList])).add
      (Registry.builtin.featureOf .startup ["\ntouch a\n\n".toList, "mkdir b".toList])).add
        (Registry.builtin.featureOf .cleanup [[], "rm a".toList, "\n".toList])
    test.features.JoinedBy .cmd ' ' ∧ test.features.JoinedBy .startup '\n' ∧
      test.features.JoinedBy .cleanup '\n' ∧
      test.args = ["-a".toList, "b".toList, "c".toList] ∧
      test.startup = ["touch a".toList, "mkdir b".toList] ∧ test.cleanup = ["rm a".toList] := by
  intro test
  have blanks : test.features.JoinedBy .cmd ' ' := by
    rintro feature ⟨⟩
    rfl
  have before : test.features.JoinedBy .startup '\n' := by
    rintro feature ⟨⟩
    rfl
  have after : test.features.JoinedBy .cleanup '\n' := by
    rintro feature ⟨⟩
    rfl
  -- The pieces are counted block by block, before anything is joined.
  obtain ⟨args, startup, cleanup, -⟩ := pieces_of_blocks test
  rw [args blanks, startup before, cleanup after]
  exact ⟨blanks, before, after, by decide, by decide, by decide⟩

end Test

end TaggedTests
