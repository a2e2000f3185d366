import TaggedTests.Proofs.Features
import TaggedTests.Proofs.Suite.Grouping

/-! Where tests begin and end: a test ends exactly before a tag that it has asked for already. -/

namespace TaggedTests

namespace Test

/-- Blocks leave the title of a test alone. -/
@[simp] theorem title_ofGroup (registry : Registry) (title : Text) (group : List Entry) :
    (ofGroup registry title group).title = title := by
  -- A further block adds a feature at most.
  induction group using List.reverseRecOn with
  | nil => rfl
  | append_singleton group entry ih =>
    rw [ofGroup_concat]
    split <;> exact ih

/-- A test has a feature of a tag exactly when one of its blocks goes to that tag. -/
theorem get?_ofGroup_eq_none_iff {registry : Registry} {title : Text} {group : List Entry}
    {tag : Tag} :
    (ofGroup registry title group).features.get? tag = none ↔
      ∀ entry ∈ group, entry.perTest → entry.tag ≠ tag := by
  -- Each block for the test adds to its own tag and takes no feature away.
  induction group using List.reverseRecOn with
  | nil => simp [ofGroup, empty]
  | append_singleton group entry ih =>
    rw [ofGroup_concat]
    cases perTest : entry.perTest with
    | false => simp [ih, or_imp, forall_and, perTest]
    | true =>
      -- The feature that is added is under the tag of the block.
      simp only [if_true, add, Features.get?_add_eq_none_iff, ih, Entry.tag_feature]
      simp only [List.mem_append, List.mem_singleton, or_imp, forall_and, forall_eq, perTest,
        true_imp_iff, ne_comm]

/-- A test is without features exactly when all blocks of its group are for the file. -/
theorem isEmpty_ofGroup_iff {registry : Registry} {title : Text} {group : List Entry} :
    (ofGroup registry title group).features.isEmpty = true ↔
      ∀ entry ∈ group, entry.perTest = false := by
  simp only [Features.isEmpty_iff, get?_ofGroup_eq_none_iff]
  constructor
  · -- A block for the test would leave a feature of its own tag.
    intro none entry member
    by_contra perTest
    exact none entry.tag entry member (by simpa using perTest) rfl
  · intro forFile _ entry member perTest
    simp [forFile entry member] at perTest

end Test

namespace Divided

variable {registry : Registry} {entries : List Entry} {groups : List (List Entry)}
  {tests : List Test}

/-- Tests are numbered in order. -/
theorem titles (divided : Divided registry entries groups tests) :
    tests.map Test.title = (List.range tests.length).map Test.titleAt := by
  -- The place of a test is that of its group.
  rw [divided.tests]
  refine List.ext_getElem (by simp) fun place _ _ => ?_
  simp

/-- A group without a block for a test is the only one. -/
theorem eq_singleton (divided : Divided registry entries groups tests) {group : List Entry}
    (member : group ∈ groups) (forFile : ∀ entry ∈ group, entry.perTest = false) :
    groups = [group] := by
  -- A group before it would lend it a block for a test, and one behind it would need one in it.
  obtain ⟨front, back, rfl⟩ := List.append_of_mem member
  obtain ⟨-, chain, seam⟩ := List.isChain_append.1 divided.splits
  -- Were there a group before it, it would begin with a block for a test.
  have first : front = [] := by
    by_contra nonempty
    obtain ⟨former, final⟩ := Option.ne_none_iff_exists'.1 (mt List.getLast?_eq_none_iff.1 nonempty)
    obtain ⟨entry, rest, rfl, -, perTest, -⟩ := seam former final group rfl
    simp [forFile entry] at perTest
  -- The first block of a group behind it would ask for a tag that it has asked for.
  have last : back = [] := by
    rcases back with _ | ⟨next, back⟩
    · rfl
    · obtain ⟨entry, rest, -, -, -, again⟩ := (List.isChain_cons_cons.1 chain).1
      obtain ⟨asked, inside, -⟩ := List.mem_map.1 again
      have := forFile asked (List.mem_of_mem_filter inside)
      simp [this] at inside
  simp [first, last]

/-- A test without features is the only one, and the file has no block for a test. -/
theorem eq_singleton_of_isEmpty (divided : Divided registry entries groups tests) {test : Test}
    (member : test ∈ tests) (empty : test.features.isEmpty = true) :
    tests = [test] ∧ ∀ entry ∈ entries, entry.perTest = false := by
  -- Such a test is made of a group without a block for a test, which is the only group.
  obtain ⟨group, inside, forFile⟩ :
      ∃ group ∈ groups, ∀ entry ∈ group, entry.perTest = false := by
    rw [divided.tests] at member
    obtain ⟨place, inside, rfl⟩ := List.mem_mapIdx.1 member
    exact ⟨groups[place], List.getElem_mem inside, Test.isEmpty_ofGroup_iff.1 empty⟩
  -- Every group but the only one has a block for a test.
  have single := divided.eq_singleton inside forFile
  have made : tests = [Test.ofGroup registry (Test.titleAt 0) group] := by
    rw [divided.tests, single]
    rfl
  rw [made] at member
  refine ⟨by rw [made, List.mem_singleton.1 member], ?_⟩
  simpa [← divided.whole, single] using forFile

end Divided

namespace Suite

/--
A bracketed text is divided into tests greedily.

Its blocks fall into consecutive groups, each of which makes a test. No group asks for a tag twice,
and a later group begins with a block that asks for a tag of the group before it again; so neither
a block that continues a tag nor one for the file begins a test.
-/
theorem read_divides_greedily (registry : Registry) (options : ReadOptions) (raw : Text)
    (bracketed : options.format = .bracketed) (balanced : Block.Balanced raw) :
    ∃ suite groups, read registry options raw = .ok suite ∧
      Divided registry (Block.entries (Block.ranked (Text.normalizeLines raw))) groups suite.tests ∧
      suite.tests ≠ [] ∧
      suite.tests.map Test.title = (List.range suite.tests.length).map Test.titleAt ∧
      ∀ test ∈ suite.tests, test.features.isEmpty = true → suite.tests = [test] ∧
        ∀ entry ∈ Block.entries (Block.ranked (Text.normalizeLines raw)),
          entry.tag.scope = .global := by
  -- The groups are those that reading builds, and the rest follows from how they are divided.
  obtain ⟨groups, some, divided⟩ :=
    exists_divided_ofBlocks registry (Block.ranked (Text.normalizeLines raw))
  refine ⟨_, groups, read_of_balanced bracketed balanced, divided, ?_, divided.titles, ?_⟩
  · rw [divided.tests]
    simpa using some
  · intro test member empty
    obtain ⟨single, forFile⟩ := divided.eq_singleton_of_isEmpty member empty
    exact ⟨single, fun entry inside => Entry.perTest_eq_false.1 (forFile entry inside)⟩

/-- A tag that is asked for again behind a nested pair, a block for the file and a crossed pair. -/
theorem read_divides_nested :
    let raw : Text :=
      "INPUT /\x7ba /\x7bb\x7d/ c\x7d/ TIMEOUT /\x7b1\x7d/".toList ++
        " \x7d/ INPUT /\x7b OUTPUT /\x7bd\x7d/".toList
    ∃ suite groups, read .builtin {} raw = .ok suite ∧
      Divided .builtin (Block.entries (Block.ranked (Text.normalizeLines raw))) groups
        suite.tests ∧
      suite.tests ≠ [] := by
  intro raw
  have balanced : Block.Balanced raw := ⟨by decide +kernel, by decide +kernel⟩
  -- There are as many opening as closing brackets, though some of them are out of order.
  obtain ⟨suite, groups, read, divided, some, -⟩ :=
    read_divides_greedily .builtin {} raw rfl balanced
  exact ⟨suite, groups, read, divided, some⟩

end Suite

end TaggedTests
