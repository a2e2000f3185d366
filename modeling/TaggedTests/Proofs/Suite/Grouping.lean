import Mathlib.Data.List.Chain
import TaggedTests.Proofs.Block.Pairing
import TaggedTests.Proofs.Feature
import TaggedTests.Proofs.Suite.Progress

/-!
The blocks of a file in groups, one for each test.

Reading blocks from left to right builds each test from consecutive blocks. A group ends exactly
where a tag is asked for that the group has asked for already.
-/

namespace TaggedTests

/-- A block with the tag that it goes to. -/
structure Entry where
  tag : Tag
  block : Block
  deriving DecidableEq, Repr

namespace Entry

/-- Does the block ask for its tag in its own prose? -/
def explicit (entry : Entry) : Bool := entry.block.tag?.isSome

/-- Is the block one for a test, as opposed to the file? -/
def perTest (entry : Entry) : Bool := entry.tag.scope = .perTest

/-- A block that is not for a test is one for the file. -/
theorem perTest_eq_false {entry : Entry} : entry.perTest = false ↔ entry.tag.scope = .global := by
  cases scope : entry.tag.scope <;> simp [perTest, scope]

/-- The feature that the block makes for its tag. -/
def feature (registry : Registry) (entry : Entry) : Feature :=
  Progress.featureOf registry entry.tag entry.block

@[simp] theorem tag_feature (registry : Registry) (entry : Entry) :
    (entry.feature registry).tag = entry.tag :=
  Progress.tag_featureOf registry entry.tag entry.block

@[simp] theorem contents_feature (registry : Registry) (entry : Entry) :
    (entry.feature registry).contents = [entry.block.content] :=
  Progress.contents_featureOf registry entry.tag entry.block

end Entry

namespace Block

/-- The tag that blocks ask for last; the description if none of them asks for one. -/
def lastAsked (blocks : List Block) : Tag :=
  ((blocks.filterMap tag?).getLast?).getD .description

/-- Each block with the tag that is asked for last up to it. -/
def entries (blocks : List Block) : List Entry :=
  blocks.mapIdx fun place block => ⟨lastAsked (blocks.take (place + 1)), block⟩

/-- A further block is asked for by itself or continues what was asked for last. -/
theorem lastAsked_concat (blocks : List Block) (block : Block) :
    lastAsked (blocks ++ [block]) = block.tag?.getD (lastAsked blocks) := by
  unfold lastAsked
  cases asked : block.tag? <;> simp [List.filterMap_append, asked]

/-- A further block adds an entry at the end and changes none before it. -/
theorem entries_concat (blocks : List Block) (block : Block) :
    entries (blocks ++ [block]) =
      entries blocks ++ [⟨lastAsked (blocks ++ [block]), block⟩] := by
  -- The blocks up to a place are the same ones whatever follows.
  unfold entries
  rw [List.mapIdx_append]
  congr 1
  · -- Each of the former blocks still lies within the same beginning of the list.
    refine List.ext_getElem (by simp) fun place inside _ => ?_
    have early : place + 1 ≤ blocks.length := Nat.succ_le_of_lt (by simpa using inside)
    simp [List.take_append_of_le_length early]
  · simp [List.take_of_length_le]

end Block

/-- The tags of a test that a group of blocks asks for. -/
def askedIn (group : List Entry) : List Tag :=
  (group.filter fun entry => entry.explicit && entry.perTest).map Entry.tag

/-- A group begins with a block that asks for a tag of a test, as the group before it did. -/
def Repeats (former later : List Entry) : Prop :=
  ∃ entry rest, later = entry :: rest ∧ entry.explicit ∧ entry.perTest ∧ entry.tag ∈ askedIn former

/-- A group goes on beginning as it does when further blocks join it. -/
theorem Repeats.append_right {former later : List Entry} (repeats : Repeats former later)
    (more : List Entry) : Repeats former (later ++ more) := by
  obtain ⟨entry, rest, rfl, marks⟩ := repeats
  exact ⟨entry, rest ++ more, rfl, marks⟩

/-- The test that a group of blocks makes; blocks for the file leave no trace in it. -/
def Test.ofGroup (registry : Registry) (title : Text) (group : List Entry) : Test :=
  (group.filter Entry.perTest).foldl (fun test entry => test.add (entry.feature registry))
    (.empty title)

/-- The features of a file that blocks make; blocks for a test leave no trace in them. -/
def Features.ofEntries (registry : Registry) (entries : List Entry) : Features :=
  (entries.filter fun entry => !entry.perTest).foldl
    (fun features entry => features.add (entry.feature registry)) .empty

/-- Tags asked for in joined groups are those of the first and then those of the second. -/
@[simp] theorem askedIn_append (first second : List Entry) :
    askedIn (first ++ second) = askedIn first ++ askedIn second := by
  simp [askedIn]

/-- A group that asks for no tag twice goes on so when a block asks for a tag that is new to it. -/
theorem nodup_askedIn_append {group : List Entry} {entry : Entry} (once : (askedIn group).Nodup)
    (fresh : ∀ tag, entry.block.tag? = some tag → entry.tag = tag ∧ tag ∉ askedIn group) :
    (askedIn group ++ askedIn [entry]).Nodup := by
  -- The block adds its own tag or, when it does not ask for one, nothing.
  refine List.nodup_append.2 ⟨once, ?_, ?_⟩
  · unfold askedIn
    cases marks : entry.explicit && entry.perTest <;> simp [List.filter, marks]
  · intro former member tag new same
    subst same
    -- A tag that the block adds is one that it asks for, and so it is new to the group.
    obtain ⟨added, marks, rfl⟩ := List.mem_map.1 new
    obtain ⟨rfl, explicit, -⟩ : added = entry ∧ added.explicit = true ∧ added.perTest = true := by
      simpa using marks
    obtain ⟨tag, asked⟩ := Option.isSome_iff_exists.1 explicit
    obtain ⟨own, absent⟩ := fresh tag asked
    exact absent (own ▸ member)

/-- A further block of a group is added to its test if it is one for a test. -/
theorem Test.ofGroup_concat (registry : Registry) (title : Text) (group : List Entry)
    (entry : Entry) :
    Test.ofGroup registry title (group ++ [entry]) =
      if entry.perTest then (Test.ofGroup registry title group).add (entry.feature registry)
      else Test.ofGroup registry title group := by
  cases perTest : entry.perTest <;> simp [Test.ofGroup, List.filter_append, perTest]

/-- A further block of a file is added to the file unless it is one for a test. -/
theorem Features.ofEntries_concat (registry : Registry) (entries : List Entry) (entry : Entry) :
    Features.ofEntries registry (entries ++ [entry]) =
      if entry.perTest then Features.ofEntries registry entries
      else (Features.ofEntries registry entries).add (entry.feature registry) := by
  cases perTest : entry.perTest <;> simp [Features.ofEntries, List.filter_append, perTest]

namespace Progress

/-- How far reading has come: complete groups make complete tests, the latest the current one. -/
structure Grouped (registry : Registry) (blocks : List Block) (complete : List (List Entry))
    (latest : List Entry) (progress : Progress) : Prop where
  whole : complete.flatten ++ latest = Block.entries blocks
  done : progress.done = complete.mapIdx fun place => Test.ofGroup registry (Test.titleAt place)
  current : progress.current = Test.ofGroup registry (Test.titleAt complete.length) latest
  globals : progress.globals = Features.ofEntries registry (Block.entries blocks)
  explicit : progress.explicit = askedIn latest
  previous : progress.previous = Block.lastAsked blocks
  once : ∀ group ∈ complete ++ [latest], (askedIn group).Nodup
  splits : (complete ++ [latest]).IsChain Repeats

variable {registry : Registry} {blocks : List Block} {complete : List (List Entry)}
  {latest : List Entry} {progress : Progress} {block : Block}

/-- Before any block there is one empty group. -/
theorem grouped_start (registry : Registry) : Grouped registry [] [] [] start where
  -- There is one group at the start, which is still empty.
  whole := rfl
  done := rfl
  current := rfl
  globals := rfl
  explicit := rfl
  previous := rfl
  once := by simp [askedIn]
  splits := List.isChain_singleton _

/-- A block that ends no test is added to the file or to the current test. -/
theorem take_of_fresh (fresh : ∀ tag, block.tag? = some tag → tag ∉ progress.explicit) :
    let entry : Entry := ⟨block.tag?.getD progress.previous, block⟩
    progress.take registry block =
      { progress with
        globals :=
          if entry.perTest then progress.globals else progress.globals.add (entry.feature registry)
        current :=
          if entry.perTest then progress.current.add (entry.feature registry) else progress.current
        explicit := progress.explicit ++ askedIn [entry]
        previous := entry.tag } := by
  intro entry
  have step := taken registry progress block
  generalize progress.take registry block = after at step ⊢
  -- Three of the four cases of taking a block are left, since no test is started.
  cases step with
  | toFile resolved global =>
    simp [askedIn, Entry.perTest, resolved, global, Entry.feature, entry]
  | continuation unasked perTest =>
    simp [addToTest, askedIn, Entry.explicit, Entry.perTest, unasked, perTest, Entry.feature, entry]
  | fresh asked perTest _ =>
    simp [askedIn, Entry.explicit, Entry.perTest, asked, perTest, Entry.feature, entry]
  -- A tag that was asked for before would not be fresh.
  | again asked _ old => exact absurd old (fresh _ asked)

/-- A block joins the latest group unless it asks for a tag that the group has asked for. -/
theorem Grouped.join (grouped : Grouped registry blocks complete latest progress)
    (fresh : ∀ tag, block.tag? = some tag → tag ∉ askedIn latest) :
    Grouped registry (blocks ++ [block]) complete
      (latest ++ [⟨Block.lastAsked (blocks ++ [block]), block⟩])
      (progress.take registry block) := by
  have last : Block.lastAsked (blocks ++ [block]) = block.tag?.getD progress.previous := by
    rw [Block.lastAsked_concat, grouped.previous]
  -- The block joins the current test or goes to the file.
  have step := @take_of_fresh registry progress block (grouped.explicit ▸ fresh)
  rw [← last] at step
  exact {
    whole := by rw [Block.entries_concat, ← grouped.whole, List.append_assoc]
    done := by rw [step]; exact grouped.done
    current := by rw [step, Test.ofGroup_concat, ← grouped.current]
    globals := by rw [step, Block.entries_concat, Features.ofEntries_concat, ← grouped.globals]
    explicit := by rw [step, askedIn_append, ← grouped.explicit]
    previous := by rw [step]
    once := by
      intro group member
      -- Only the latest group has changed, by a block that repeats none of its tags.
      rcases List.mem_append.1 member with former | newest
      · exact grouped.once group (List.mem_append_left _ former)
      · rw [List.mem_singleton.1 newest, askedIn_append]
        exact nodup_askedIn_append (grouped.once latest (by simp)) fun tag asked =>
          ⟨by rw [last, asked, Option.getD_some], fresh tag asked⟩
    splits := by
      -- The latest group begins as it did before, so that it still repeats a tag.
      obtain ⟨former, _, seam⟩ := List.isChain_append.1 grouped.splits
      refine List.isChain_append.2 ⟨former, List.isChain_singleton _, fun group final found => ?_⟩
      simp only [List.head?_cons, Option.mem_some_iff] at seam ⊢
      exact fun same => same ▸ (seam group final latest rfl).append_right _ }

/-- A block that asks for a tag of a test again begins a group of its own. -/
theorem Grouped.split (grouped : Grouped registry blocks complete latest progress) {tag : Tag}
    (asked : block.tag? = some tag) (again : tag ∈ askedIn latest) :
    Grouped registry (blocks ++ [block]) (complete ++ [latest]) [⟨tag, block⟩]
      (progress.take registry block) := by
  have last : Block.lastAsked (blocks ++ [block]) = tag := by
    rw [Block.lastAsked_concat, asked, Option.getD_some]
  -- What a group has asked for are tags of a test.
  have perTest : tag.scope = .perTest := by
    obtain ⟨entry, member, rfl⟩ := List.mem_map.1 again
    simp_all [Entry.perTest]
  -- The current test is completed, and a new one begins with this block.
  have step := @take_again registry progress block tag asked perTest (grouped.explicit ▸ again)
  -- The new group consists of this block and asks for its tag only.
  have single : Entry.perTest ⟨tag, block⟩ = true := by simp [Entry.perTest, perTest]
  have alone : askedIn [⟨tag, block⟩] = [tag] := by
    simp [askedIn, Entry.explicit, single, asked]
  exact {
    whole := by
      rw [Block.entries_concat, last, ← grouped.whole]
      simp
    -- The former group makes the completed test, and the new one the current test.
    done := by
      rw [step, grouped.done, grouped.current]
      simp [List.mapIdx_append]
    current := by
      rw [step, grouped.done]
      simp [Test.ofGroup, single, Entry.feature]
    globals := by
      rw [step, Block.entries_concat, Features.ofEntries_concat, last, single]
      exact grouped.globals
    explicit := by rw [step, alone]
    previous := by rw [step, last]
    once := by
      intro group member
      rcases List.mem_append.1 member with former | new
      · exact grouped.once group former
      · rw [List.mem_singleton.1 new, alone]
        simp
    splits := by
      -- The block asks again for a tag of the group that is now complete.
      refine List.isChain_append.2 ⟨grouped.splits, List.isChain_singleton _, ?_⟩
      simp only [List.getLast?_concat, List.head?_cons, Option.mem_some_iff]
      rintro _ rfl _ rfl
      exact ⟨⟨tag, block⟩, [], rfl, by simp [Entry.explicit, asked], single, again⟩ }

/-- Taking one more block keeps the tests grouped. -/
theorem Grouped.take (grouped : Grouped registry blocks complete latest progress) :
    ∃ complete latest,
      Grouped registry (blocks ++ [block]) complete latest (progress.take registry block) := by
  -- Only a tag asked for again ends the group.
  by_cases again : ∃ tag, block.tag? = some tag ∧ tag ∈ askedIn latest
  · obtain ⟨tag, asked, member⟩ := again
    exact ⟨_, _, grouped.split asked member⟩
  · exact ⟨_, _, grouped.join fun tag asked member => again ⟨tag, asked, member⟩⟩

/-- Whatever the blocks, reading them all leaves the tests grouped. -/
theorem exists_grouped_takeAll (registry : Registry) (blocks : List Block) :
    ∃ complete latest, Grouped registry blocks complete latest (takeAll registry blocks) := by
  -- The induction adds blocks at the end, as reading does.
  induction blocks using List.reverseRecOn with
  | nil => exact ⟨[], [], grouped_start registry⟩
  | append_singleton blocks block ih =>
    obtain ⟨complete, latest, grouped⟩ := ih
    rw [takeAll_concat]
    exact grouped.take

end Progress

/-- Tests that are made of consecutive groups of blocks, each of which asks for no tag twice. -/
structure Divided (registry : Registry) (entries : List Entry) (groups : List (List Entry))
    (tests : List Test) : Prop where
  /-- Every block is in one group, in reading order. -/
  whole : groups.flatten = entries
  /-- Every group makes one test, numbered in order. -/
  tests : tests = groups.mapIdx fun place => Test.ofGroup registry (Test.titleAt place)
  /-- No test asks for a tag twice. -/
  once : ∀ group ∈ groups, (askedIn group).Nodup
  /-- A later test begins with a block that asks for a tag of the test before it again. -/
  splits : groups.IsChain Repeats

namespace Suite

/-- The tests of blocks are made of consecutive groups, of which there is at least one. -/
theorem exists_divided_ofBlocks (registry : Registry) (blocks : List Block) :
    ∃ groups, groups ≠ [] ∧
      Divided registry (Block.entries blocks) groups (ofBlocks registry blocks).tests := by
  -- In the end the latest group makes the last test.
  obtain ⟨complete, latest, grouped⟩ := Progress.exists_grouped_takeAll registry blocks
  refine ⟨complete ++ [latest], by simp, ?_, ?_, grouped.once, grouped.splits⟩
  · simpa using grouped.whole
  · simp [ofBlocks, Progress.tests, grouped.done, grouped.current, List.mapIdx_append]

/-- The features that blocks leave in the file are those of its blocks for the file. -/
theorem globals_ofBlocks (registry : Registry) (blocks : List Block) :
    (ofBlocks registry blocks).globals = Features.ofEntries registry (Block.entries blocks) := by
  obtain ⟨_, _, grouped⟩ := Progress.exists_grouped_takeAll registry blocks
  exact grouped.globals

/-- A text with balanced brackets is read block by block, in order of rank. -/
theorem read_of_balanced {registry : Registry} {options : ReadOptions} {raw : Text}
    (bracketed : options.format = .bracketed) (balanced : Block.Balanced raw) :
    read registry options raw =
      .ok (ofBlocks registry (Block.ranked (Text.normalizeLines raw))) := by
  -- Uniform line ends leave the brackets balanced, so that neither error nor fallback applies.
  have uniform := balanced.normalizeLines
  have some : (Block.opens (Text.normalizeLines raw)).length ≠ 0 := fun none =>
    uniform.some (List.length_eq_zero_iff.1 none)
  simp only [read, uniform.equal, ne_eq, not_true_eq_false, if_false,
    ← Block.ofText_eq_ranked uniform]
  rw [← uniform.equal, if_neg (by simp [some, bracketed])]

end Suite

end TaggedTests
