import TaggedTests.Proofs.Suite.Accumulation

/-! Where the content of blocks goes: none is lost, and only the file keeps the last of each tag. -/

namespace TaggedTests

/-- The contents of the blocks that go to a tag, in reading order. -/
def contentsFor (tag : Tag) (entries : List Entry) : List Text :=
  (entries.filter fun entry => entry.tag = tag).map fun entry => entry.block.content

/-- Blocks of a tag in joined lists are those of the first and then those of the second. -/
@[simp] theorem contentsFor_append (tag : Tag) (first second : List Entry) :
    contentsFor tag (first ++ second) = contentsFor tag first ++ contentsFor tag second := by
  simp [contentsFor]

/-- Blocks of a tag in a list of groups are those of each group in turn. -/
theorem contentsFor_flatten (tag : Tag) (groups : List (List Entry)) :
    contentsFor tag groups.flatten = (groups.map (contentsFor tag)).flatten := by
  induction groups with
  | nil => rfl
  -- The first group comes before the others.
  | cons group groups ih => simp [ih]

/-- A tag has contents exactly when some block goes to it. -/
theorem contentsFor_ne_nil_iff {tag : Tag} {entries : List Entry} :
    contentsFor tag entries ≠ [] ↔ ∃ entry ∈ entries, entry.tag = tag := by
  simp [contentsFor]

/-- The contents for a tag are those of its blocks. -/
theorem contentsFor_eq (tag : Tag) (entries : List Entry) :
    contentsFor tag entries = (blocksFor tag entries).map Block.content := by
  simp [contentsFor, blocksFor]

namespace Test

/-- The features of a group of blocks are kept under their own tags. -/
theorem keyed_ofGroup (registry : Registry) (title : Text) (group : List Entry) :
    (ofGroup registry title group).features.Keyed := by
  -- Features only get in by being added, which keeps them under their tags.
  induction group using List.reverseRecOn with
  | nil => exact Features.keyed_empty
  | append_singleton group entry ih =>
    rw [ofGroup_concat]
    split
    · exact ih.add _
    · exact ih

/-- A test holds for each of its tags exactly the contents that its group has for it. -/
theorem contentsOf_ofGroup (registry : Registry) (title : Text) (group : List Entry) {tag : Tag}
    (perTest : tag.scope = .perTest) :
    (ofGroup registry title group).features.contentsOf tag = contentsFor tag group := by
  rw [Features.contentsOf, get?_ofGroup perTest, contentsFor_eq]
  -- A tag without a block has no feature, and otherwise the blocks are its contents.
  split
  · next none => simp [none]
  · simp [Feature.ofBlocks, Feature.withContents, perTest]

end Test

namespace Features

/-- The file holds for each of its tags exactly the last content that there is for it. -/
theorem contents_ofEntries (registry : Registry) (entries : List Entry) {tag : Tag}
    (global : tag.scope = .global) :
    ((ofEntries registry entries).get? tag).map Feature.contents =
      (contentsFor tag entries).getLast?.map fun content => [content] := by
  rw [get?_ofEntries global, contentsFor_eq, List.getLast?_map]
  split
  · next none => simp [none]
  · next some =>
    -- There is a last block then, and its content alone is kept.
    obtain ⟨block, last⟩ := Option.ne_none_iff_exists'.1 (mt List.getLast?_eq_none_iff.1 some)
    simp [Feature.ofBlocks, Feature.withContents, global, last]

end Features

/-- The tests hold for each of their tags exactly the contents that there are for it. -/
theorem Divided.flatMap_contentsOf {registry : Registry} {entries : List Entry}
    {groups : List (List Entry)} {tests : List Test}
    (divided : Divided registry entries groups tests) {tag : Tag} (perTest : tag.scope = .perTest) :
    tests.flatMap (fun test => test.features.contentsOf tag) = contentsFor tag entries := by
  -- Test by test the contents are those of its group, and the groups are the whole file.
  have each : tests.map (fun test => test.features.contentsOf tag) =
      groups.map (contentsFor tag) := by
    rw [divided.tests]
    refine List.ext_getElem (by simp) fun place _ _ => ?_
    simp [Test.contentsOf_ofGroup registry _ _ perTest]
  rw [List.flatMap_def, each, ← contentsFor_flatten, divided.whole]

namespace Suite

/--
Reading a bracketed text loses and duplicates no block.

The tests hold for each of their tags exactly the contents of the blocks that go to it, in reading
order. The file has a feature of each of its tags to which some block goes, and of no other, and
that feature holds the content of the last such block alone.
-/
theorem read_keeps_contents (registry : Registry) (options : ReadOptions) (raw : Text)
    (bracketed : options.format = .bracketed) (balanced : Block.Balanced raw) :
    let entries := Block.entries (Block.ranked (Text.normalizeLines raw))
    ∃ suite, read registry options raw = .ok suite ∧
      (∀ tag, tag.scope = .perTest →
        suite.tests.flatMap (fun test => test.features.contentsOf tag) = contentsFor tag entries) ∧
      ∀ tag, tag.scope = .global →
        (suite.globals.contains tag = true ↔ ∃ entry ∈ entries, entry.tag = tag) ∧
        ∀ feature, suite.globals.get? tag = some feature →
          ∃ content, (contentsFor tag entries).getLast? = some content ∧
            feature.contents = [content] := by
  intro entries
  -- The tests follow the groups of blocks, and the file follows all of its blocks in order.
  obtain ⟨groups, _, divided⟩ :=
    exists_divided_ofBlocks registry (Block.ranked (Text.normalizeLines raw))
  refine ⟨_, read_of_balanced bracketed balanced, fun tag perTest => ?_, fun tag global => ?_⟩
  · exact divided.flatMap_contentsOf perTest
  · have held := Features.contents_ofEntries registry entries global
    rw [globals_ofBlocks, ← contentsFor_ne_nil_iff, Features.contains]
    -- The file has a feature of those tags that have a block, and it holds the last one.
    constructor
    · rw [← List.getLast?_isSome, ← Option.isSome_map, held, Option.isSome_map]
    · intro feature found
      rw [found, Option.map_some] at held
      obtain ⟨content, last, same⟩ := Option.map_eq_some_iff.1 held.symm
      exact ⟨content, last, same.symm⟩

/-- A tag of the file that comes twice, and blocks that continue a tag with brackets inside. -/
theorem read_keeps_nested :
    let raw : Text :=
      "TIMEOUT /\x7b1\x7d/ \x7d/ INPUT /\x7b /\x7ba /\x7bb\x7d/ c\x7d/ TIMEOUT /\x7b2\x7d/".toList
    let entries := Block.entries (Block.ranked (Text.normalizeLines raw))
    ∃ suite, read .builtin {} raw = .ok suite ∧
      (∀ tag, tag.scope = .perTest →
        suite.tests.flatMap (fun test => test.features.contentsOf tag) = contentsFor tag entries) ∧
      (suite.globals.contains .timeout = true ↔ ∃ entry ∈ entries, entry.tag = .timeout) := by
  intro raw entries
  have balanced : Block.Balanced raw := ⟨by decide +kernel, by decide +kernel⟩
  -- There are as many opening as closing brackets, though some of them are out of order.
  obtain ⟨suite, read, kept, last⟩ := read_keeps_contents .builtin {} raw rfl balanced
  exact ⟨suite, read, kept, (last .timeout rfl).1⟩

end Suite

end TaggedTests
