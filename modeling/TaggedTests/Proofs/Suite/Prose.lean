import TaggedTests.Proofs.Block.Written
import TaggedTests.Proofs.Suite.Grouping

/-! Prose between blocks: it is ignored but for the tag and the modifiers that it asks for. -/

namespace TaggedTests

namespace Block

/--
Blocks that can be told apart when they are written one behind the other, and text behind the last.

Neither prose nor content holds a bracket, and no prose makes one with the brackets around it. The
first prose has no bracket before it, and the text behind the last block has none after it.
-/
structure Apart (blocks : List Block) (trail : Text) : Prop where
  some : blocks ≠ []
  proses : ∀ text ∈ blocks.map prose ++ [trail], text.Plain
  contents : ∀ block ∈ blocks, block.content.Plain
  starts : ∀ text ∈ (blocks.map prose ++ [trail]).tail, text.head? ≠ Option.some '\x7b'
  ends : ∀ block ∈ blocks, block.prose.getLast? ≠ Option.some '\x7d'

variable {block : Block} {blocks : List Block} {trail : Text}

/-- The first block is solid, those behind it are writable, and the text behind the last makes no
bracket. -/
theorem Apart.parts (apart : Apart (block :: blocks) trail) :
    block.Solid ∧ (∀ other ∈ blocks, other.Writable) ∧ ¬ opening <:+: '/' :: trail ∧
      trail.Plain := by
  obtain ⟨-, proses, contents, starts, ends⟩ := apart
  have first : block.prose.Plain := proses _ (by simp)
  have last : trail.Plain := proses _ (by simp)
  refine ⟨?_, fun other member => ?_, ?_, last⟩
  · -- The first block is the only one with a prose at the start of the file.
    have stop := ends block (List.mem_cons_self ..)
    exact ⟨first.opening, not_closing_infix_concat_iff.2 ⟨first.closing, stop⟩,
      contents block (List.mem_cons_self ..)⟩
  · -- Every prose but the first one stands behind a closing bracket.
    have own : other.prose ∈ blocks.map prose := List.mem_map_of_mem member
    have plain : other.prose.Plain := proses _ (by simp [own])
    have inside : other ∈ block :: blocks := List.mem_cons_of_mem block member
    exact writable_of_free plain.opening plain.closing (starts _ (List.mem_append_left _ own))
      (ends other inside) (contents other inside)
  · exact not_opening_infix_cons_iff.2 ⟨starts _ (by simp), last.opening⟩

/-- Blocks that can be told apart make a text with balanced brackets, which is read as them. -/
theorem Apart.ofText (apart : Apart blocks trail) :
    Balanced (blocks.flatMap write ++ trail) ∧
      Block.ofText (blocks.flatMap write ++ trail) = blocks := by
  obtain ⟨block, rest, rfl⟩ := List.exists_cons_of_ne_nil apart.some
  obtain ⟨solid, writable, start, plain⟩ := apart.parts
  -- The first block stands at the front, and the others are written behind it.
  rw [List.flatMap_cons, List.append_assoc]
  exact ⟨balanced_write_append solid writable start plain.closing,
    ofText_write_append solid writable start⟩

/-- Line ends are uniform in a text of blocks that can be told apart. -/
theorem Apart.normalizeLines (apart : Apart blocks trail) :
    Text.normalizeLines (blocks.flatMap write ++ trail) = blocks.flatMap write ++ trail := by
  -- No part of the text holds a carriage return, and neither do the brackets.
  refine Text.normalizeLines_eq_self fun inside => ?_
  rcases List.mem_append.1 inside with written | behind
  · obtain ⟨block, member, own⟩ := List.mem_flatMap.1 written
    have prose := (apart.proses block.prose (by simp [List.mem_map_of_mem member])).noReturn
    have content := (apart.contents block member).noReturn
    simp [write, opening, closing, prose, content] at own
  · exact (apart.proses trail (by simp)).noReturn behind

end Block

namespace Suite

/-- Blocks that are read alike one by one make the same suite. -/
theorem ofBlocks_of_alike {blocks others : List Block}
    (alike : List.Forall₂ Block.Alike blocks others) (registry : Registry) :
    ofBlocks registry others = ofBlocks registry blocks := by
  rw [ofBlocks, ofBlocks, Progress.takeAll, Progress.takeAll, Progress.foldl_take_of_alike alike]

/--
Of a bracketed text nothing matters but its blocks, and of their prose only what it asks for.

Blocks that can be told apart are read from what is written of them, whatever their contents and
whatever prose stands between them. Other prose that asks for the same tags and modifiers, in the
same order of their last mention, makes the same suite, and so does other text behind the last
block.
-/
theorem read_ignores_prose (registry : Registry) (options : ReadOptions)
    (bracketed : options.format = .bracketed) (blocks : List Block) (trail : Text)
    (apart : Block.Apart blocks trail) :
    let text := blocks.flatMap Block.write ++ trail
    Block.ofText (Text.normalizeLines text) = blocks ∧
      read registry options text = .ok (ofBlocks registry blocks) ∧
      ∀ (others : List Block) (rest : Text), Block.Apart others rest →
        List.Forall₂ Block.Alike blocks others →
          read registry options (others.flatMap Block.write ++ rest) =
            read registry options text := by
  intro text
  -- What is read of such a text are its blocks.
  have reads {blocks : List Block} {trail : Text} (apart : Block.Apart blocks trail) :
      read registry options (blocks.flatMap Block.write ++ trail) =
        .ok (ofBlocks registry blocks) := by
    obtain ⟨balanced, found⟩ := apart.ofText
    rw [read_of_balanced bracketed balanced, ← Block.ofText_eq_ranked balanced.normalizeLines,
      apart.normalizeLines, found]
  refine ⟨?_, reads apart, fun others rest likewise alike => ?_⟩
  · rw [apart.normalizeLines, apart.ofText.2]
  · -- Blocks alike make the same suite.
    rw [reads apart, reads likewise, ofBlocks_of_alike alike]

/-- Halves of brackets at the ends of prose and contents, and keywords that are overruled. -/
theorem read_ignores_prose_halves :
    let blocks : List Block := [⟨"\x7b OUTPUT? INPUT/".toList, "\x7d\x7b/".toList⟩,
      ⟨"/\x7d mENDNL mSHUFFLED ".toList, "/".toList⟩]
    let others : List Block := [⟨"INPUT".toList, "\x7d\x7b/".toList⟩,
      ⟨"mENDNL+mSHUFFLED".toList, "/".toList⟩]
    Block.ofText (Text.normalizeLines (blocks.flatMap Block.write ++ "\x7d OUTPUT /".toList)) =
        blocks ∧
      read .builtin {} (blocks.flatMap Block.write ++ "\x7d OUTPUT /".toList) =
        .ok (ofBlocks .builtin blocks) ∧
      read .builtin {} (others.flatMap Block.write ++ []) =
        read .builtin {} (blocks.flatMap Block.write ++ "\x7d OUTPUT /".toList) := by
  intro blocks others
  -- Halves of brackets at the seams do not come together.
  have apart : Block.Apart blocks "\x7d OUTPUT /".toList :=
    ⟨by decide, by decide, by decide, by decide, by decide⟩
  have likewise : Block.Apart others [] :=
    ⟨by decide, by decide, by decide, by decide, by decide⟩
  have alike : List.Forall₂ Block.Alike blocks others :=
    .cons ⟨by decide, by decide, rfl⟩ (.cons ⟨by decide, by decide, rfl⟩ .nil)
  obtain ⟨found, reads, replaced⟩ := read_ignores_prose .builtin {} rfl blocks _ apart
  exact ⟨found, reads, replaced others [] likewise alike⟩

end Suite

end TaggedTests
