import Mathlib.Data.List.Forall2
import TaggedTests.Proofs.Feature
import TaggedTests.Suite.Reader

/-! What taking one block does: it goes to the file, to the current test, or to a new one. -/

namespace TaggedTests

/-- Two blocks of the same content whose proses ask for the same tag and modifiers. -/
structure Block.Alike (block other : Block) : Prop where
  tag : other.tag? = block.tag?
  modifiers : other.modifiers = block.modifiers
  content : other.content = block.content

namespace Progress

variable {registry : Registry} {progress : Progress} {block : Block} {tag : Tag}

/-- A block makes a feature of the tag that it goes to. -/
@[simp] theorem tag_featureOf (registry : Registry) (tag : Tag) (block : Block) :
    (featureOf registry tag block).tag = tag := by
  rw [featureOf, Feature.tag_applyAll]
  rfl

/-- A block makes a feature of its own content. -/
@[simp] theorem contents_featureOf (registry : Registry) (tag : Tag) (block : Block) :
    (featureOf registry tag block).contents = [block.content] := by
  rw [featureOf, Feature.contents_applyAll]
  rfl

/-- A block for a tag of the file is added to the file and leaves every test alone. -/
theorem take_global (resolved : block.tag?.getD progress.previous = tag)
    (global : tag.scope = .global) :
    progress.take registry block =
      { progress with
        globals := progress.globals.add (featureOf registry tag block)
        previous := tag } := by
  -- The scope decides, whether or not the block asked for the tag.
  simp only [take, resolved, global]

/-- A block that continues a tag of a test is added to the current test. -/
theorem take_continuation (unasked : block.tag? = none)
    (perTest : progress.previous.scope = .perTest) :
    progress.take registry block =
      progress.addToTest (featureOf registry progress.previous block) := by
  -- The tag that was asked for last stays the one that was asked for last.
  simp only [take, unasked, Option.getD_none, perTest]
  rfl

/-- A block that asks for a tag new to the current test is added to that test. -/
theorem take_fresh (asked : block.tag? = some tag) (perTest : tag.scope = .perTest)
    (fresh : tag ∉ progress.explicit) :
    progress.take registry block =
      { progress with
        current := progress.current.add (featureOf registry tag block)
        explicit := progress.explicit ++ [tag]
        previous := tag } := by
  -- There is room for the tag, so that no test is started.
  simp only [take, asked, Option.getD_some, perTest, makeRoom, List.contains_eq_mem, fresh,
    decide_false, Bool.false_eq_true, if_false, addToTest]

/-- A block that asks for a tag again completes the current test and begins the next one. -/
theorem take_again (asked : block.tag? = some tag) (perTest : tag.scope = .perTest)
    (again : tag ∈ progress.explicit) :
    progress.take registry block =
      { progress with
        done := progress.done ++ [progress.current]
        current := (Test.empty (Test.titleAt (progress.done.length + 1))).add
          (featureOf registry tag block)
        explicit := [tag]
        previous := tag } := by
  -- Starting a test forgets what was asked for, and the tag is the first that it asks for.
  simp only [take, asked, Option.getD_some, perTest, makeRoom, List.contains_eq_mem, again,
    decide_true, if_true, addToTest, startTest, List.nil_append]

/-- What a reader can come to by one more block. -/
inductive Taken (registry : Registry) (progress : Progress) (block : Block) : Progress → Prop where
  /-- The block goes to the file. -/
  | toFile {tag : Tag} (resolved : block.tag?.getD progress.previous = tag)
      (global : tag.scope = .global) :
      Taken registry progress block
        { progress with
          globals := progress.globals.add (featureOf registry tag block)
          previous := tag }
  /-- The block goes on with the tag of a test. -/
  | continuation (unasked : block.tag? = none) (perTest : progress.previous.scope = .perTest) :
      Taken registry progress block
        (progress.addToTest (featureOf registry progress.previous block))
  /-- The block asks for a tag that is new to the current test. -/
  | fresh {tag : Tag} (asked : block.tag? = some tag) (perTest : tag.scope = .perTest)
      (new : tag ∉ progress.explicit) :
      Taken registry progress block
        { progress with
          current := progress.current.add (featureOf registry tag block)
          explicit := progress.explicit ++ [tag]
          previous := tag }
  /-- The block asks for a tag again and begins a test. -/
  | again {tag : Tag} (asked : block.tag? = some tag) (perTest : tag.scope = .perTest)
      (old : tag ∈ progress.explicit) :
      Taken registry progress block
        { progress with
          done := progress.done ++ [progress.current]
          current := (Test.empty (Test.titleAt (progress.done.length + 1))).add
            (featureOf registry tag block)
          explicit := [tag]
          previous := tag }

/-- Taking a block does one of these four. -/
theorem taken (registry : Registry) (progress : Progress) (block : Block) :
    Taken registry progress block (progress.take registry block) := by
  cases scope : (block.tag?.getD progress.previous).scope with
  | global =>
    -- A block for the file goes there, whatever it asks for.
    rw [take_global rfl scope]
    exact .toFile rfl scope
  | perTest =>
    -- Only a block that asks for its tag can end a test.
    cases asked : block.tag? with
    | none =>
      have continued : progress.previous.scope = .perTest := by simpa [asked] using scope
      rw [take_continuation asked continued]
      exact .continuation asked continued
    | some tag =>
      have own : tag.scope = .perTest := by simpa [asked] using scope
      -- A tag that was asked for before starts the next test.
      by_cases old : tag ∈ progress.explicit
      · rw [take_again asked own old]
        exact .again asked own old
      · rw [take_fresh asked own old]
        exact .fresh asked own old

/-- Blocks that are read alike take the reader to the same place. -/
theorem take_of_alike {other : Block} (alike : block.Alike other) :
    progress.take registry other = progress.take registry block := by
  -- The prose matters only for the tag and the modifiers that it asks for.
  simp only [take, featureOf, alike.tag, alike.modifiers, alike.content]

/-- So do lists of blocks that are read alike one by one. -/
theorem foldl_take_of_alike {blocks others : List Block}
    (alike : List.Forall₂ Block.Alike blocks others) (progress : Progress) :
    others.foldl (take registry) progress = blocks.foldl (take registry) progress := by
  -- A block and its like are taken alike, whatever was taken before.
  induction alike generalizing progress with
  | nil => rfl
  | cons first _ ih => rw [List.foldl_cons, List.foldl_cons, take_of_alike first, ih]

/-- Taking one more block is a step of the fold over all of them. -/
theorem takeAll_concat (registry : Registry) (blocks : List Block) (block : Block) :
    takeAll registry (blocks ++ [block]) = (takeAll registry blocks).take registry block := by
  simp [takeAll]

end Progress

end TaggedTests
