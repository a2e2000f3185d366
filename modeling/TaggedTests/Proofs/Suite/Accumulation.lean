import TaggedTests.Proofs.Feature.Merging
import TaggedTests.Proofs.Suite.Grouping

/-!
What the blocks of a tag add up to.

Blocks are added to a test or to the file one after the other. Under each tag this leaves what the
blocks of the tag make together, whatever other blocks stand between them.
-/

namespace TaggedTests

/-- The blocks that go to a tag, in reading order. -/
def blocksFor (tag : Tag) (entries : List Entry) : List Block :=
  (entries.filter fun entry => entry.tag = tag).map Entry.block

/-- A further block belongs to its own tag only. -/
theorem blocksFor_concat (tag : Tag) (entries : List Entry) (entry : Entry) :
    blocksFor tag (entries ++ [entry]) =
      blocksFor tag entries ++ if entry.tag = tag then [entry.block] else [] := by
  by_cases own : entry.tag = tag <;> simp [blocksFor, List.filter_append, own]

/-- Blocks of other tags can be left out. -/
theorem blocksFor_filter {tag : Tag} {keep : Entry → Bool}
    (kept : ∀ entry, entry.tag = tag → keep entry = true) (entries : List Entry) :
    blocksFor tag (entries.filter keep) = blocksFor tag entries := by
  rw [blocksFor, List.filter_filter, blocksFor]
  refine congrArg (List.map Entry.block) (List.filter_congr fun entry _ => ?_)
  -- No entry of the tag is left out, and others are left out anyway.
  by_cases own : entry.tag = tag <;> simp [own, kept]

/-- No block of a tag is left if all of them are left out. -/
theorem blocksFor_filter_eq_nil {tag : Tag} {keep : Entry → Bool}
    (dropped : ∀ entry, entry.tag = tag → keep entry = false) (entries : List Entry) :
    blocksFor tag (entries.filter keep) = [] := by
  rw [blocksFor, List.filter_filter, List.map_eq_nil_iff, List.filter_eq_nil_iff]
  intro entry _
  -- An entry of the tag is not kept, and a kept one is not of the tag.
  by_cases own : entry.tag = tag <;> simp [own, dropped]

namespace Feature

/-- The feature of a tag that blocks make: their modifiers are recorded in order, and their contents
are kept or, for a tag of the file, the last of them alone. -/
def ofBlocks (registry : Registry) (tag : Tag) (blocks : List Block) : Feature :=
  ((registry.feature tag).applyAll (blocks.flatMap Block.modifiers)).withContents
    (match tag.scope with
      | .perTest => blocks.map Block.content
      | .global => (blocks.getLast?.map Block.content).toList)

variable {registry : Registry}

/-- The feature that one block makes. -/
theorem ofBlocks_singleton (entry : Entry) :
    ofBlocks registry entry.tag [entry.block] = entry.feature registry := by
  -- In either scope a single block is all that there is.
  have contents : (match entry.tag.scope with
      | .perTest => [entry.block].map Block.content
      | .global => ([entry.block].getLast?.map Block.content).toList) =
        [entry.block.content] := by
    cases entry.tag.scope <;> rfl
  rw [ofBlocks, contents, List.flatMap_singleton, Entry.feature, Progress.featureOf,
    Registry.featureOf, applyAll_withContents]

/-- A further block is merged into the feature of those before it. -/
theorem ofBlocks_concat (blocks : List Block) (entry : Entry) :
    ofBlocks registry entry.tag (blocks ++ [entry.block]) =
      (ofBlocks registry entry.tag blocks).merge (entry.feature registry) := by
  -- The modifiers of the block are recorded after those before it.
  have recorded : (registry.feature entry.tag).applyAll
      ((blocks ++ [entry.block]).flatMap Block.modifiers) =
        ((registry.feature entry.tag).applyAll (blocks.flatMap Block.modifiers)).applyAll
          entry.block.modifiers := by
    rw [List.flatMap_append, List.flatMap_singleton, applyAll, List.foldl_append]
    rfl
  have tagged : (ofBlocks registry entry.tag blocks).tag = entry.tag :=
    tag_applyAll (registry.feature entry.tag) _
  rw [Entry.feature, Progress.featureOf, merge_applyAll _ rfl, ofBlocks, recorded, ofBlocks,
    applyAll_withContents]
  -- In the file the new block replaces the others; in a test it is put behind them.
  cases scope : entry.tag.scope <;>
    simp [withContents, merge, scope, Registry.featureOf, Registry.feature, empty]

end Feature

namespace Features

/-- Adding blocks one by one leaves under a tag what the blocks of that tag make. -/
theorem get?_foldl_feature (registry : Registry) (entries : List Entry) (tag : Tag) :
    (entries.foldl (fun features entry => features.add (entry.feature registry)) empty).get? tag =
      if blocksFor tag entries = [] then none
      else some (Feature.ofBlocks registry tag (blocksFor tag entries)) := by
  -- From the end, as the last block is merged into what those before it have left.
  induction entries using List.reverseRecOn with
  | nil => simp [blocksFor]
  | append_singleton entries entry ih =>
    rw [List.foldl_concat, blocksFor_concat]
    by_cases own : entry.tag = tag
    · -- The block joins the feature that is there, or is the first of its tag.
      subst own
      have added := get?_add_self
        (entries.foldl (fun features entry => features.add (entry.feature registry)) empty)
        (entry.feature registry)
      rw [Entry.tag_feature, ih] at added
      by_cases first : blocksFor entry.tag entries = []
      · simp [added, first, Feature.ofBlocks_singleton]
      · simp [added, first, Feature.ofBlocks_concat]
    · rw [get?_add_of_ne _ (by simpa using Ne.symm own), ih]
      simp [own]

end Features

namespace Test

variable {registry : Registry} {title : Text} {group : List Entry} {tag : Tag}

/-- The features of a test are those that the blocks of its group leave. -/
theorem features_ofGroup (registry : Registry) (title : Text) (group : List Entry) :
    (ofGroup registry title group).features =
      (group.filter Entry.perTest).foldl
        (fun features entry => features.add (entry.feature registry)) .empty := by
  rw [ofGroup]
  generalize group.filter Entry.perTest = entries
  -- Entries are added to the test in their order, the last one last.
  induction entries using List.reverseRecOn with
  | nil => rfl
  | append_singleton entries entry ih =>
    rw [List.foldl_concat, List.foldl_concat, ← ih]
    rfl

/-- A test has for each of its tags what the blocks of the tag make in its group. -/
theorem get?_ofGroup (perTest : tag.scope = .perTest) :
    (ofGroup registry title group).features.get? tag =
      if blocksFor tag group = [] then none
      else some (Feature.ofBlocks registry tag (blocksFor tag group)) := by
  -- A test keeps the entries of all tags of tests.
  have kept : ∀ entry : Entry, entry.tag = tag → entry.perTest = true := by
    rintro entry rfl
    simp [Entry.perTest, perTest]
  rw [features_ofGroup, Features.get?_foldl_feature, blocksFor_filter kept]

/-- A test has no feature of a tag of the file. -/
theorem get?_ofGroup_of_global (global : tag.scope = .global) :
    (ofGroup registry title group).features.get? tag = none := by
  -- A test keeps no entry of a global tag.
  have dropped : ∀ entry : Entry, entry.tag = tag → entry.perTest = false := by
    rintro entry rfl
    exact Entry.perTest_eq_false.2 global
  rw [features_ofGroup, Features.get?_foldl_feature, blocksFor_filter_eq_nil dropped]
  rfl

end Test

namespace Features

variable {registry : Registry} {entries : List Entry} {tag : Tag}

/-- The file has for each of its tags what the blocks of the tag make. -/
theorem get?_ofEntries (global : tag.scope = .global) :
    (ofEntries registry entries).get? tag =
      if blocksFor tag entries = [] then none
      else some (Feature.ofBlocks registry tag (blocksFor tag entries)) := by
  -- A suite keeps the entries of all global tags.
  have kept : ∀ entry : Entry, entry.tag = tag → (!entry.perTest) = true := by
    rintro entry rfl
    simp [Entry.perTest, global]
  rw [ofEntries, get?_foldl_feature, blocksFor_filter kept]

/-- The file has no feature of a tag of a test. -/
theorem get?_ofEntries_of_perTest (perTest : tag.scope = .perTest) :
    (ofEntries registry entries).get? tag = none := by
  -- A suite keeps no entry of a tag of tests.
  have dropped : ∀ entry : Entry, entry.tag = tag → (!entry.perTest) = false := by
    rintro entry rfl
    simp [Entry.perTest, perTest]
  rw [ofEntries, get?_foldl_feature, blocksFor_filter_eq_nil dropped]
  rfl

end Features

end TaggedTests
