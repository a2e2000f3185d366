import TaggedTests.Proofs.Suite.Placement
import TaggedTests.Proofs.Suite.RoundTrip
import TaggedTests.Proofs.Suite.Sections

/-! Suites that can be written and read back, among them every suite that was read from a text whose
blocks hold no brackets. -/

namespace TaggedTests

/-- A text that holds no bracket. -/
structure Text.Unbracketed (text : Text) : Prop where
  opening : ¬ Block.opening <:+: text
  closing : ¬ Block.closing <:+: text

instance (text : Text) : Decidable text.Unbracketed :=
  decidable_of_iff (¬ Block.opening <:+: text ∧ ¬ Block.closing <:+: text)
    ⟨fun ⟨opening, closing⟩ => ⟨opening, closing⟩,
      fun unbracketed => ⟨unbracketed.opening, unbracketed.closing⟩⟩

/-- A text without brackets and carriage returns may stand between brackets. -/
theorem Text.Unbracketed.plain {text : Text} (unbracketed : text.Unbracketed)
    (noReturn : '\r' ∉ text) : text.Plain :=
  ⟨unbracketed.opening, unbracketed.closing, noReturn⟩

/-- Blocks without brackets and carriage returns may stand between brackets. -/
theorem Features.Each.plain {features : Features} (unbracketed : features.Each Text.Unbracketed)
    (noReturn : features.Each ('\r' ∉ ·)) : features.Each Text.Plain :=
  -- What holds no bracket and no return is plain, text by text.
  fun tag feature found content inside =>
    (unbracketed tag feature found content inside).plain
      (noReturn tag feature found content inside)

/-- A suite that can be written and read back: the registry makes all of it, all blocks may stand
between brackets, and features of the file come with a test. -/
structure Suite.Legible (suite : Suite) : Prop where
  madeGlobals : suite.globals.Made suite.registry
  madeTests : ∀ test ∈ suite.tests, test.Made suite.registry
  plainGlobals : suite.globals.MergedPlain
  plainTests : ∀ test ∈ suite.tests, test.Plain
  bare : suite.tests = [] → suite.globals = .empty

namespace Suite

variable {registry : Registry} {suite : Suite}

/-- A file without any tests and features is read in the older format, in which it has none. -/
theorem read_render_nil (registry : Registry) :
    ∃ suite, read registry {} (TaggedTests.render registry .empty []) = .ok suite ∧
      suite.registry = registry ∧ suite.globals = .empty ∧ suite.tests = [] := by
  -- Only the first line and the banner are written, and neither holds a bracket or a marker.
  have text : TaggedTests.render registry .empty [] =
      Render.header ++ ['\n', '\n'] ++ Render.banner ++ ['\n', '\n'] := by
    simp [TaggedTests.render, Render.globalFeatures]
  have opened : Block.opens (TaggedTests.render registry .empty []) = [] := by
    rw [text]
    decide +kernel
  have closed : Block.closes (TaggedTests.render registry .empty []) = [] := by
    rw [text]
    decide +kernel
  -- Without the marker of an input there are no sections.
  have sections : Sections.ofText (Text.normalizeLines (TaggedTests.render registry .empty [])) =
      [] := by
    have missing : Text.cut? Sections.inputMarker (Text.normalizeLines
        (Render.header ++ ['\n', '\n'] ++ Render.banner ++ ['\n', '\n'])) = none := by
      decide +kernel
    rw [text, Sections.ofText, Text.splitAtEach_of_none missing]
    rfl
  -- The file is read as an old one, which has no tests.
  rw [read_of_fallback (by rw [opened, closed]) (Or.inl opened), readLegacy, Sections.read,
    sections]
  exact ⟨_, rfl, rfl, rfl, rfl⟩

/-- A suite with the tests and the features of the file that are written of another one. -/
structure ReadBack (suite reloaded : Suite) : Prop where
  registry : reloaded.registry = suite.registry
  tests : reloaded.tests = suite.tests.mapIdx fun place test =>
    test.reread suite.registry (Test.titleAt place)
  globals : ∀ tag, reloaded.globals.get? tag =
    if tag.scope = .global then (suite.globals.get? tag).map Feature.collapsed else none
  format : suite.tests ≠ [] → reloaded.format = .bracketed

/-- A suite that can be written is read back if it has a test. -/
theorem Legible.read_back_of_tests (legible : suite.Legible)
    (separators : suite.registry.InertSeparators) (some : suite.tests ≠ []) :
    ∃ reloaded, read suite.registry {} suite.render = .ok reloaded ∧ suite.ReadBack reloaded := by
  -- The first line leads to the features of the file, and the banner after them to the tests.
  obtain ⟨last, first⟩ :=
    Progress.reads_globalFeatures separators legible.madeGlobals legible.plainGlobals
  obtain ⟨after, rest, completed⟩ := @Progress.reads_tests suite.registry
    { Progress.start with
      globals := (Render.globalFeatures suite.registry suite.globals).foldl Features.add .empty
      previous := last } separators suite.tests some legible.madeTests legible.plainTests
    rfl rfl rfl
  have reads := first.append
    ((Progress.reads_of_inert Render.inert_banner (by decide +kernel)).append rest)
  -- The features of a test were taken, so that this is not the start.
  have moved : after ≠ .start := by
    rintro rfl
    exact absurd completed.again List.not_mem_nil
  have text : suite.render =
      Render.header ++ ['\n', '\n'] ++
        ((Render.globalFeatures suite.registry suite.globals).flatMap Feature.render ++
          (Render.banner ++ ['\n', '\n'] ++
            suite.tests.flatMap (Render.testText suite.registry))) := by
    simp only [Suite.render, TaggedTests.render, List.append_assoc]
  refine ⟨⟨suite.registry, after.globals, after.tests, [], .bracketed⟩, ?_, ?_⟩
  · rw [text]
    exact read_of_reads Render.lead_header reads moved
  · exact {
      registry := rfl
      tests := completed.tests
      globals := fun tag => by
        rw [completed.globals]
        exact Render.get?_globalFeatures legible.madeGlobals.keyed tag
      format := fun _ => rfl }

/-- A suite that can be written is read back test by test, with the same features of the file, each
in a single block. -/
theorem Legible.read_back (legible : suite.Legible) (separators : suite.registry.InertSeparators) :
    ∃ reloaded, read suite.registry {} suite.render = .ok reloaded ∧ suite.ReadBack reloaded := by
  by_cases none : suite.tests = []
  · -- A file without tests has no features either.
    obtain ⟨reloaded, read, same, globals, tests⟩ := read_render_nil suite.registry
    have empty := legible.bare none
    refine ⟨reloaded, ?_, ?_⟩
    · rw [Suite.render, empty, none, read]
    · exact {
        registry := same
        tests := by
          rw [tests, none]
          rfl
        globals := fun tag => by simp [globals, empty]
        format := absurd none }
  · -- With tests every block is written and read in turn.
    exact legible.read_back_of_tests separators none

/-- A feature of the file holds one block, the last that there is for its tag. -/
theorem exists_contents_ofBlocks {blocks : List Block} {tag : Tag} {feature : Feature}
    (global : tag.scope = .global)
    (found : (ofBlocks registry blocks).globals.get? tag = some feature) :
    ∃ content, feature.contents = [content] := by
  -- A global tag holds the content of its last entry alone.
  have held := Features.contents_ofEntries registry (Block.entries blocks) global
  rw [← globals_ofBlocks, found, Option.map_some] at held
  obtain ⟨content, -, same⟩ := Option.map_eq_some_iff.1 held.symm
  exact ⟨content, same.symm⟩

/-- A suite of blocks that may stand between brackets can be written and read back. -/
theorem legible_ofBlocks {blocks : List Block}
    (plain : (ofBlocks registry blocks).Each Text.Plain) : (ofBlocks registry blocks).Legible where
  madeGlobals := (made_ofBlocks registry blocks).1
  madeTests := (made_ofBlocks registry blocks).2
  plainGlobals := by
    -- The joined text of a single block is that block.
    intro tag feature global found
    obtain ⟨content, single⟩ := exists_contents_ofBlocks global found
    rw [Feature.merged, single, List.intercalate_singleton]
    exact plain.globals tag feature found content (by simp [single])
  plainTests test member tag feature _ found := plain.tests test member tag feature found
  bare none := absurd none (tests_ofBlocks_ne_nil registry blocks)

/-- A suite in the older format that has blocks which may stand between brackets can be written and
read back. -/
theorem legible_of_readLegacy {options : ReadOptions} {text : Text} (clean : '\r' ∉ text)
    (read : readLegacy registry options text = .ok suite)
    (unbracketed : suite.Each Text.Unbracketed) : suite.Legible := by
  -- The texts are parts of the file, which has no return.
  have each := provenance_readLegacy read
  obtain ⟨tests, -, rfl⟩ := readLegacy_eq_ok_iff.1 read
  exact {
    madeGlobals := .empty
    madeTests := fun test member => (each test member).1
    plainGlobals := by
      intro tag feature _ found
      simp at found
    plainTests := fun test member tag feature _ =>
      (unbracketed.tests test member).plain
        ((each test member).2.mono fun _ inside => mt (inside.subset ·) clean) tag feature
    -- An old file has no features of its own.
    bare := fun _ => rfl }

/-- A suite that was read can be written and read back unless one of its blocks holds a bracket. -/
theorem legible_of_read {options : ReadOptions} {raw : Text}
    (read : Suite.read registry options raw = .ok suite)
    (unbracketed : suite.Each Text.Unbracketed) : suite.Legible := by
  -- Line ends are made uniform before anything is read, so that no carriage return is left.
  have clean := Text.return_not_mem_normalizeLines raw
  rcases read_cases read with ⟨-, -, rfl⟩ | ⟨-, -, legacy⟩
  · have each : (ofBlocks registry (Block.ranked (Text.normalizeLines raw))).Each ('\r' ∉ ·) :=
      each_ofBlocks registry fun block member => Block.not_mem_content_of_mem_ranked member clean
    exact legible_ofBlocks ⟨unbracketed.globals.plain each.globals, fun test member =>
      (unbracketed.tests test member).plain (each.tests test member)⟩
  · exact legible_of_readLegacy clean legacy unbracketed

end Suite

end TaggedTests
