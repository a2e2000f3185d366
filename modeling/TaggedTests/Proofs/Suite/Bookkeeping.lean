import Mathlib.Data.List.Induction
import Mathlib.Data.List.Nodup
import TaggedTests.Proofs.Features
import TaggedTests.Proofs.Suite.Progress

/-!
What a reader keeps track of agrees with what it has read.

The tags asked for in the current test are the tags of its features, and the tag asked for last is
one of them unless it is a tag of the file. Therefore a block that continues a tag of a test finds
the feature that it is to extend.
-/

namespace TaggedTests

namespace Progress

/-- The books of a reader agree with the features that it has collected. -/
structure Consistent (progress : Progress) : Prop where
  currentKeyed : progress.current.features.Keyed
  globalsKeyed : progress.globals.Keyed
  /-- The tags asked for in the current test are those of its features. -/
  explicit : ∀ tag, tag ∈ progress.explicit ↔ tag ∈ progress.current.features.tags
  /-- No tag is asked for twice in a test. -/
  once : progress.explicit.Nodup
  /-- The tag asked for last is one of them, unless it is a tag of the file. -/
  previous : progress.previous.scope = .perTest → progress.previous ∈ progress.explicit
  /-- Every complete test has a feature. -/
  done : ∀ test ∈ progress.done, test.features.tags ≠ []
  /-- The file has features of its own tags only. -/
  globals : ∀ tag ∈ progress.globals.tags, tag.scope = .global

/--
What a block does that goes on with a feature of the current test.

The feature is there before the block, whose content comes to stand at its end. No other feature
changes, none is created, and everything outside the current test stays as it was.
-/
structure Extended (block : Block) (before after : Progress) : Prop where
  feature : ∃ former longer, before.current.features.get? before.previous = some former ∧
    after.current.features.get? before.previous = some longer ∧
    longer.contents = former.contents ++ [block.content]
  others : ∀ tag, tag ≠ before.previous →
    after.current.features.get? tag = before.current.features.get? tag
  tags : after.current.features.tags = before.current.features.tags
  rest : after = { before with current := after.current }

variable {progress : Progress}

/-- Before any block there is nothing to keep track of. -/
theorem consistent_start : start.Consistent where
  -- No tag was mentioned yet, and no feature is there.
  currentKeyed := Features.keyed_empty
  globalsKeyed := Features.keyed_empty
  explicit tag := by simp [start, Test.empty]
  once := List.nodup_nil
  previous perTest := by simp [start, Tag.scope] at perTest
  done test member := by simp [start] at member
  globals tag member := by simp [start] at member

/-- The tag asked for last, if it is one of a test, has a feature in the current test. -/
theorem Consistent.previous_mem_tags (consistent : progress.Consistent)
    (perTest : progress.previous.scope = .perTest) :
    progress.previous ∈ progress.current.features.tags :=
  (consistent.explicit _).1 (consistent.previous perTest)

/-- Taking one more block leaves the books in agreement. -/
theorem Consistent.take (consistent : progress.Consistent) (registry : Registry) (block : Block) :
    (progress.take registry block).Consistent := by
  have step := taken registry progress block
  generalize progress.take registry block = after at step ⊢
  cases step with
  | toFile _ global =>
    -- The current test and its tags stay, and the tag asked for last is not one of a test.
    refine { consistent with
      globalsKeyed := consistent.globalsKeyed.add _
      previous := fun perTest => absurd (global.symm.trans perTest) (by decide)
      globals := ?_ }
    intro tag member
    rcases consistent.globalsKeyed.mem_tags_add_iff.1 member with before | added
    · exact consistent.globals tag before
    · rwa [added, tag_featureOf]
  | continuation _ perTest =>
    -- The feature is there already, so that the tags of the test stay the same ones.
    have present := consistent.previous_mem_tags perTest
    rw [← tag_featureOf registry progress.previous block] at present
    have same := consistent.currentKeyed.tags_add present
    refine { consistent with
      currentKeyed := consistent.currentKeyed.add _
      explicit := ?_ }
    intro tag
    show tag ∈ progress.explicit ↔ tag ∈ (progress.current.features.add _).tags
    rw [same, consistent.explicit]
  | @fresh tag _ _ new =>
    -- The tag joins the tags asked for as its feature joins the test.
    refine { consistent with
      currentKeyed := consistent.currentKeyed.add _
      explicit := ?_
      once := by simpa using consistent.once.concat new
      previous := fun _ => List.mem_append_right _ (List.mem_singleton_self tag) }
    intro other
    rw [Test.features_add, consistent.currentKeyed.mem_tags_add_iff, tag_featureOf,
      ← consistent.explicit, List.mem_append, List.mem_singleton]
  | @again tag _ _ old =>
    -- What was asked for is forgotten, and the new test begins with the feature of the tag.
    have unused : (Test.empty (Test.titleAt (progress.done.length + 1))).features.Keyed :=
      Features.keyed_empty
    refine { consistent with
      currentKeyed := unused.add _
      explicit := ?_
      once := List.nodup_singleton tag
      previous := fun _ => List.mem_singleton_self tag
      done := ?_ }
    · intro other
      rw [Test.features_add, unused.mem_tags_add_iff, tag_featureOf, List.mem_singleton]
      simp [Test.empty]
    · intro test member
      rcases List.mem_append.1 member with before | completed
      · exact consistent.done test before
      · -- The test that is now complete has a feature of the tag that was asked for again.
        rw [List.mem_singleton.1 completed]
        exact List.ne_nil_of_mem ((consistent.explicit tag).1 old)

/-- However many blocks are taken, the books agree. -/
theorem consistent_takeAll (registry : Registry) (blocks : List Block) :
    (takeAll registry blocks).Consistent := by
  -- The induction adds blocks at the end, as reading does.
  induction blocks using List.reverseRecOn with
  | nil => exact consistent_start
  | append_singleton blocks block ih =>
    rw [takeAll_concat]
    exact ih.take registry block

/-- A block that continues the tag of a test extends a feature that is there. -/
theorem Consistent.extended (consistent : progress.Consistent) (registry : Registry)
    {block : Block} (unasked : block.tag? = none) (perTest : progress.previous.scope = .perTest) :
    progress.Extended block (progress.take registry block) := by
  rw [take_continuation unasked perTest]
  have keyed := consistent.currentKeyed
  have present := consistent.previous_mem_tags perTest
  obtain ⟨former, found⟩ := Option.ne_none_iff_exists'.1 (keyed.mem_tags_iff.1 present)
  have tagged : former.tag = progress.previous := keyed _ former found
  -- The feature of the block is merged into the one that was found.
  have merged := Features.get?_add_self progress.current.features
    (featureOf registry progress.previous block)
  rw [tag_featureOf, found, Option.map_some, Option.getD_some] at merged
  -- Adding replaces the feature of this one tag.
  exact {
    feature := ⟨former, _, found, merged, by simp [Feature.merge, tagged, perTest]⟩
    others := fun tag other =>
      Features.get?_add_of_ne _ (by rwa [tag_featureOf])
    tags := keyed.tags_add (by rwa [tag_featureOf])
    rest := rfl }

/--
The books of a reader agree with what it has collected after any blocks whatever.

The tags asked for in the current test are exactly the tags of its features. The tag asked for last
is one of them unless it is a tag of the file. So a block that continues a tag of a test extends a
feature of the current test and never creates one, and one that continues a tag of the file leaves
the tests alone. Every complete test has a feature, and the file has features of its own tags only.
-/
theorem takeAll_keeps_books (registry : Registry) (blocks : List Block) :
    let progress := takeAll registry blocks
    progress.Consistent ∧ ∀ block : Block, block.tag? = none →
      (progress.previous.scope = .perTest →
        progress.Extended block (progress.take registry block)) ∧
      (progress.previous.scope = .global →
        (progress.take registry block).tests = progress.tests) := by
  intro progress
  have consistent : progress.Consistent := consistent_takeAll registry blocks
  refine ⟨consistent, fun block unasked => ⟨consistent.extended registry unasked, ?_⟩⟩
  intro global
  -- The block goes to the tag that was asked for last.
  have resolved : block.tag?.getD progress.previous = progress.previous := by
    rw [unasked, Option.getD_none]
  rw [take_global resolved global]
  rfl

/-- A tag asked for again behind blocks of the file, and then a block that continues it. -/
theorem takeAll_keeps_books_interleaved :
    let blocks : List Block := [⟨"INPUT".toList, "a".toList⟩, ⟨"TIMEOUT".toList, "1".toList⟩,
      ⟨[], "2".toList⟩, ⟨"OUTPUT".toList, "b".toList⟩, ⟨"INPUT".toList, "c".toList⟩]
    let block : Block := ⟨" mENDNONE ".toList, "d".toList⟩
    let progress := takeAll .builtin blocks
    progress.done.length = 1 ∧ progress.Consistent ∧ block.tag? = none ∧
      progress.previous.scope = .perTest ∧
      progress.Extended block (progress.take .builtin block) := by
  intro blocks block progress
  obtain ⟨consistent, continued⟩ := takeAll_keeps_books .builtin blocks
  -- The last block names no tag, so it goes on with the one before it.
  have unasked : block.tag? = none := by decide
  have perTest : progress.previous.scope = .perTest := by decide
  exact ⟨by decide, consistent, unasked, perTest, (continued block unasked).1 perTest⟩

end Progress

end TaggedTests
