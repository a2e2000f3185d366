import TaggedTests.Proofs.Suite.Encoding
import TaggedTests.Proofs.Suite.Tidy
import TaggedTests.Proofs.Test.Content

/-! Files in the older format can be written as bracketed blocks, and then hold the same tests. -/

namespace TaggedTests

/-- Two tests that are run with the same arguments and input, and judged alike. -/
structure Test.UsedAlike (test other : Test) : Prop where
  filled : other.filled = test.filled
  args : other.args = test.args
  stdin : other.stdin = test.stdin
  validate : ∀ captured : Option Text,
    { other with captured := captured }.validate = { test with captured := captured }.validate

namespace Test

variable {registry : Registry} {test : Test}

/-- A test whose features have blocks expects what it did before when it was read back. -/
theorem expects_reread (keyed : test.features.Keyed) (blocks : test.features.HaveBlocks)
    (title : Text) : (test.reread registry title).expects = test.expects := by
  -- Only the expected output is looked at, and reading leaves it as it was.
  have same : (test.reread registry title).features.get? .output = test.features.get? .output := by
    rw [get?_reread_of_perTest keyed rfl (by decide)]
    cases found : test.features.get? .output with
    | none => rfl
    | some feature => rw [Option.map_some, Feature.reread_of_blocks (blocks _ feature found)]
  funext output
  rw [expects, expects, same]

/-- A test whose features have blocks is used as before when it was read back. -/
theorem usedAlike_reread (made : test.Made registry) (blocks : test.features.HaveBlocks)
    (title : Text) : test.UsedAlike (test.reread registry title) := by
  -- Command line, input and expected output are all that matters, and none of them is the comment.
  have keyed := made.features.keyed
  refine ⟨filled_reread made title, ?_, merged_reread keyed rfl (by decide), fun captured => ?_⟩
  · rw [args, args, merged_reread keyed rfl (by decide)]
  · rw [validate_eq, validate_eq, expects_reread keyed blocks]

end Test

namespace Suite

variable {registry : Registry} {suite : Suite} {raw : Text}

/-- A text without brackets is read in the older format, whatever format is asked for. -/
theorem read_of_unbracketed (unbracketed : raw.Unbracketed) (options : ReadOptions) :
    read registry options raw = readLegacy registry options (Text.normalizeLines raw) := by
  -- Without brackets there are equally many of either kind, namely none.
  have opened : Block.opens raw = [] := Text.positionsFrom_eq_nil unbracketed.opening 0
  have closed : Block.closes raw = [] := Text.positionsFrom_eq_nil unbracketed.closing 0
  exact read_of_fallback (by rw [opened, closed]) (Or.inl opened)

/-- The blocks of a suite in the older format hold a bracket only if the text does. -/
theorem unbracketed_of_readLegacy {options : ReadOptions} (unbracketed : raw.Unbracketed)
    (read : readLegacy registry options (Text.normalizeLines raw) = .ok suite) :
    suite.Each Text.Unbracketed := by
  have each := provenance_readLegacy read
  obtain ⟨tests, -, rfl⟩ := readLegacy_eq_ok_iff.1 read
  refine ⟨Features.each_empty,
    fun test member => (each test member).2.mono fun content inside => ?_⟩
  -- A bracket holds no character of a line end.
  have free {pattern : Text} (noNewline : '\n' ∉ pattern) (noReturn : '\r' ∉ pattern)
      (solid : pattern ≠ []) (absent : ¬ pattern <:+: raw) : ¬ pattern <:+: content :=
    fun occurs => absent
      ((Text.infix_normalizeLines_iff noNewline noReturn solid).1 (occurs.trans inside))
  exact ⟨free (by decide) (by decide) (by decide) unbracketed.opening,
    free (by decide) (by decide) (by decide) unbracketed.closing⟩

/-- A tidy suite is read back test by test, each of them used as before. -/
theorem ReadBack.usedAlike {reloaded : Suite} (back : suite.ReadBack reloaded)
    (legible : suite.Legible) (tidy : suite.Tidy) :
    List.Forall₂ Test.UsedAlike suite.tests reloaded.tests := by
  rw [back.tests]
  -- Tests are compared place by place, each with itself as it is read back.
  refine List.forall₂_iff_get.2 ⟨by simp, fun place inside _ => ?_⟩
  have found : suite.tests[place]? = some suite.tests[place] := List.getElem?_eq_getElem inside
  have blocks := (tidy place _ found).blocks
  simpa using Test.usedAlike_reread (legible.madeTests _ (List.getElem_mem inside)) blocks
    (Test.titleAt place)

/--
A file in the older format keeps its tests when it is written as bracketed blocks.

The text may be any one without brackets that can be read, whether or not its tests are expected to
be filled, under separators that mean nothing in prose. What is written of its suite is read with
the default settings, and there are as many tests as before, none included, each run with the same
arguments and input and judged alike. Asking for the older format from the start makes the same
suite without the warning.
-/
theorem migrates (registry : Registry) (separators : registry.InertSeparators)
    (expectFilled : Bool) (raw : Text) (unbracketed : raw.Unbracketed) (suite : Suite)
    (read : Suite.read registry ⟨.bracketed, expectFilled⟩ raw = .ok suite) :
    (∃ reloaded, Suite.read registry {} suite.render = .ok reloaded ∧
      reloaded.tests.length = suite.tests.length ∧
      List.Forall₂ Test.UsedAlike suite.tests reloaded.tests) ∧
    suite.warnings = [.oldFormat] ∧
    Suite.read registry ⟨.legacy, expectFilled⟩ raw = .ok { suite with warnings := [] } := by
  have tidy := tidy_of_read read
  rw [read_of_unbracketed unbracketed] at read
  have legible := legible_of_readLegacy (Text.return_not_mem_normalizeLines raw) read
    (unbracketed_of_readLegacy unbracketed read)
  obtain ⟨tests, sections, rfl⟩ := readLegacy_eq_ok_iff.1 read
  refine ⟨?_, rfl, ?_⟩
  · obtain ⟨reloaded, reads, back⟩ := legible.read_back separators
    exact ⟨reloaded, reads, by simp [back.tests], back.usedAlike legible tidy⟩
  · -- The format that is asked for decides on nothing but the warning.
    rw [read_of_unbracketed unbracketed]
    exact readLegacy_eq_ok_iff.2 ⟨tests, sections, rfl⟩

/-- A command line, keywords and half a bracket in the input, and a marker in the expected
output. -/
theorem migrates_markers :
    let content : Section :=
      ⟨some "-a  b".toList, "INPUT mENDNL /\n".toList, some "\x7bCMD\x7d\n".toList⟩
    let raw : Text := "old\r\n[INPUT]\r\n".toList ++ content.body true
    ∃ suite reloaded, Suite.read .builtin ⟨.bracketed, true⟩ raw = .ok suite ∧
      suite.tests.map Test.args = [["-a".toList, "b".toList]] ∧
      Suite.read .builtin {} suite.render = .ok reloaded ∧
      List.Forall₂ Test.UsedAlike suite.tests reloaded.tests ∧
      Suite.read .builtin ⟨.legacy, true⟩ raw = .ok { suite with warnings := [] } := by
  intro content raw
  have unbracketed : raw.Unbracketed := ⟨by decide +kernel, by decide +kernel⟩
  -- Line ends are made newlines before the first marker is looked for.
  have cut : Text.cut? Sections.inputMarker (Text.normalizeLines raw) =
      some ("old\n".toList, content.body true) := by decide +kernel
  -- No further marker of an input follows, so there is one section.
  have sections : Sections.read .builtin true (Text.normalizeLines raw) =
      .ok [content.toTest .builtin (Test.titleAt 0)] := by
    rw [Sections.read, Sections.ofText_of_single cut (by decide +kernel)]
    rfl
  have read : Suite.read .builtin ⟨.bracketed, true⟩ raw = .ok _ :=
    (read_of_unbracketed unbracketed _).trans (readLegacy_eq_ok_iff.2 ⟨_, sections, rfl⟩)
  obtain ⟨⟨reloaded, reads, -, alike⟩, -, forced⟩ := migrates .builtin
    Registry.inertSeparators_builtin true raw unbracketed _ read
  exact ⟨_, reloaded, read, by decide +kernel, reads, alike, forced⟩

end Suite

end TaggedTests
