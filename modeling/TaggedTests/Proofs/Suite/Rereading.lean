import TaggedTests.Proofs.Render.Reading

/-! Where a written feature goes when it is read back. -/

namespace TaggedTests

namespace Feature

variable {registry : Registry} {feature : Feature}

/-- Blocks without modifiers that are merged into a feature of a test are appended to its own. -/
theorem merge_featureOf (perTest : feature.tag.scope = .perTest) (former contents : List Text) :
    (feature.withContents former).merge (registry.featureOf feature.tag contents) =
      feature.withContents (former ++ contents) := by
  -- The newer feature forces no separator, so that the former one stays active.
  simp [merge, withContents, Registry.featureOf, Registry.feature, empty, perTest]

end Feature

/-- Adding two features of one tag to a test is adding the second merged into the first. -/
theorem Test.add_add {test : Test} (keyed : test.features.Keyed) {first second : Feature}
    (same : first.tag = second.tag) :
    (test.add first).add second = test.add (first.merge second) := by
  -- All three features are filled in the same way, having one tag.
  have tag : (first.merge second).tag = second.tag := same
  simp only [add, Features.add_add keyed same, tag, same, Bool.or_assoc, Bool.or_self]

namespace Progress

variable {registry : Registry} {feature : Feature} {before state : Progress} {test : Test}

/-- A block whose prose is inert has neither a tag nor modifiers of its own. -/
theorem meaning_of_inert {prose : Text} (inert : prose.Inert) (content : Text) :
    (Block.mk prose content).tag? = none ∧ (Block.mk prose content).modifiers = [] :=
  ⟨inert.lastTag?_eq_none, inert.mentionedModifiers_eq_nil⟩

/-- Blocks behind separators continue the feature that was asked for last. -/
theorem foldl_continuations (inert : feature.separator.Inert)
    (perTest : feature.tag.scope = .perTest) (keyed : test.features.Keyed)
    (former contents : List Text) :
    (contents.map (Block.mk feature.separator)).foldl (take registry)
        { state with
          current := test.add (feature.withContents former)
          previous := feature.tag } =
      { state with
        current := test.add (feature.withContents (former ++ contents))
        previous := feature.tag } := by
  -- Each block is appended to those that the feature has so far.
  induction contents generalizing former with
  | nil => simp
  | cons content contents ih =>
    obtain ⟨unasked, plain⟩ := meaning_of_inert inert content
    rw [List.map_cons, List.foldl_cons, take_continuation unasked perTest, featureOf, plain]
    -- The block makes a feature without modifiers, which is merged into the one before it.
    have joined := @Test.add_add test keyed (feature.withContents former)
      (registry.featureOf feature.tag [content]) rfl
    rw [Feature.merge_featureOf perTest] at joined
    simpa [addToTest, Feature.applyAll, joined] using ih (former ++ [content])

/-- The first block of a written feature asks for its tag. -/
theorem tag?_heading {lead : Text} (leads : lead.Lead) (feature : Feature) (content : Text) :
    (Block.mk (lead ++ feature.heading) content).tag? = some feature.tag :=
  feature.lastTag?_heading leads

/-- The first block of a written feature makes that feature with its own content alone. -/
theorem featureOf_heading {lead : Text} (leads : lead.Lead) (settled : feature.Settled registry)
    (content : Text) :
    featureOf registry feature.tag ⟨lead ++ feature.heading, content⟩ =
      feature.withContents [content] := by
  -- The heading mentions the modifiers in the order that settles the separator again.
  rw [featureOf, Block.modifiers, feature.mentionedModifiers_heading leads]
  exact settled.applyAll_writtenModifiers [content]

/-- A written feature is read back into the test that its first block goes to. -/
theorem reads_render (legible : feature.Legible registry) (separators : registry.InertSeparators)
    (perTest : feature.tag.scope = .perTest) (keyed : test.features.Keyed)
    (first : ∀ block : Block, block.tag? = some feature.tag →
      featureOf registry feature.tag block = feature.withContents [block.content] →
      before.take registry block =
        { state with
          current := test.add (feature.withContents [block.content])
          previous := feature.tag }) :
    Reads registry before feature.render
      { state with
        current := test.add feature.reread
        previous := feature.tag } := by
  -- The first block asks for the tag, and those that follow it continue the tag.
  intro lead leads
  have between := legible.settled.inertBetween separators
  refine ⟨feature.written lead, feature.ending, feature.append_render lead,
    feature.writable_written leads between legible.plain, feature.lead_ending between, ?_⟩
  rw [Feature.written, List.foldl_cons,
    first _ (tag?_heading leads feature _) (featureOf_heading leads legible.settled _),
    foldl_continuations between.inert perTest keyed, Feature.reread_eq]
  rfl

/-- A written feature whose tag is new to the current test is read back into it. -/
theorem reads_render_fresh (legible : feature.Legible registry)
    (separators : registry.InertSeparators) (perTest : feature.tag.scope = .perTest)
    (keyed : before.current.features.Keyed) (fresh : feature.tag ∉ before.explicit) :
    Reads registry before feature.render
      { before with
        current := before.current.add feature.reread
        explicit := before.explicit ++ [feature.tag]
        previous := feature.tag } := by
  -- Its first block is one that ends no test.
  refine @reads_render registry feature before
    { before with explicit := before.explicit ++ [feature.tag] } before.current
    legible separators perTest keyed fun block asked makes => ?_
  rw [take_fresh asked perTest fresh, makes]

/-- A written feature whose tag the current test has asked for is read back into a new test. -/
theorem reads_render_again (legible : feature.Legible registry)
    (separators : registry.InertSeparators) (perTest : feature.tag.scope = .perTest)
    (again : feature.tag ∈ before.explicit) :
    Reads registry before feature.render
      { before with
        done := before.done ++ [before.current]
        current := (Test.empty (Test.titleAt (before.done.length + 1))).add feature.reread
        explicit := [feature.tag]
        previous := feature.tag } := by
  -- Its first block completes the current test, and an empty one takes its place.
  refine @reads_render registry feature before
    { before with done := before.done ++ [before.current], explicit := [feature.tag] }
    (.empty (Test.titleAt (before.done.length + 1)))
    legible separators perTest Features.keyed_empty fun block asked makes => ?_
  rw [take_again asked perTest again, makes]

/-- A written feature of the file that has one block is read back into the file. -/
theorem reads_render_global (legible : feature.Legible registry)
    (separators : registry.InertSeparators) (global : feature.tag.scope = .global) {content : Text}
    (single : feature.contents = [content]) :
    Reads registry before feature.render
      { before with
        globals := before.globals.add feature
        previous := feature.tag } := by
  -- There is one block, and it makes the whole feature.
  intro lead leads
  have between := legible.settled.inertBetween separators
  refine ⟨feature.written lead, feature.ending, feature.append_render lead,
    feature.writable_written leads between legible.plain, feature.lead_ending between, ?_⟩
  -- The heading asks for the tag of the feature, and the modifiers are told in it.
  have asked := tag?_heading leads feature content
  have whole : feature.withContents [content] = feature := by
    rw [← single]
    rfl
  simp only [Feature.written, single, List.headD_cons, List.tail_cons, List.map_nil,
    List.foldl_cons, List.foldl_nil]
  rw [take_global (by rw [asked, Option.getD_some]) global,
    featureOf_heading leads legible.settled, whole]

/-- Written features with tags new to the current test are read back into it, one by one. -/
theorem reads_features (separators : registry.InertSeparators) {features : List Feature}
    (legible : ∀ feature ∈ features, feature.Legible registry)
    (perTest : ∀ feature ∈ features, feature.tag.scope = .perTest)
    (keyed : before.current.features.Keyed)
    (once : (before.explicit ++ features.map Feature.tag).Nodup) :
    ∃ last, Reads registry before (features.flatMap Feature.render)
      { before with
        current := features.foldl (fun test feature => test.add feature.reread) before.current
        explicit := before.explicit ++ features.map Feature.tag
        previous := last } := by
  -- The tag of a feature that was read back is one that the current test has asked for.
  induction features generalizing before with
  | nil =>
    refine ⟨before.previous, ?_⟩
    simpa using reads_nil
  | cons feature features ih =>
    obtain ⟨own, others⟩ := List.forall_mem_cons.1 legible
    obtain ⟨scope, scopes⟩ := List.forall_mem_cons.1 perTest
    rw [List.map_cons, List.append_cons] at once
    have fresh : feature.tag ∉ before.explicit := fun again =>
      (List.nodup_append.1 (List.nodup_append.1 once).1).2.2 _ again _ (by simp) rfl
    -- A tag that is new joins the current test, and the others follow.
    have first := reads_render_fresh own separators scope keyed fresh
    obtain ⟨last, rest⟩ := @ih
      { before with
        current := before.current.add feature.reread
        explicit := before.explicit ++ [feature.tag]
        previous := feature.tag }
      others scopes (keyed.add feature.reread) once
    exact ⟨last, by simpa using first.append rest⟩

/-- Written features of the file that have one block each are read back into the file. -/
theorem reads_globals (separators : registry.InertSeparators) {features : List Feature}
    (legible : ∀ feature ∈ features, feature.Legible registry)
    (global : ∀ feature ∈ features, feature.tag.scope = .global)
    (single : ∀ feature ∈ features, ∃ content, feature.contents = [content]) :
    ∃ last, Reads registry before (features.flatMap Feature.render)
      { before with
        globals := features.foldl Features.add before.globals
        previous := last } := by
  -- Every feature goes to the file and leaves the tests alone.
  induction features generalizing before with
  | nil =>
    refine ⟨before.previous, ?_⟩
    simpa using reads_nil
  | cons feature features ih =>
    obtain ⟨own, others⟩ := List.forall_mem_cons.1 legible
    obtain ⟨scope, scopes⟩ := List.forall_mem_cons.1 global
    obtain ⟨⟨content, alone⟩, singles⟩ := List.forall_mem_cons.1 single
    -- The previous tag is the only thing of the tests that changes.
    have first := @reads_render_global registry feature before own separators scope content alone
    obtain ⟨last, rest⟩ := @ih
      { before with
        globals := before.globals.add feature
        previous := feature.tag }
      others scopes singles
    exact ⟨last, first.append rest⟩

end Progress

end TaggedTests
