import TaggedTests.Proofs.Block.Front
import TaggedTests.Proofs.Suite.Placement

/-! Appending to a file: what was read before stays, and only the last test can gain anything. -/

namespace TaggedTests

/-- A feature that may have gained blocks at its end, and modifiers. -/
structure Feature.Grows (feature grown : Feature) : Prop where
  contents : feature.contents <+: grown.contents
  modifiers : ∀ modifier, feature.modifiers.has modifier = true →
    grown.modifiers.has modifier = true

/-- A test that may have gained features, and whose features may have grown. -/
structure Test.Grows (test grown : Test) : Prop where
  features : ∀ tag feature, test.features.get? tag = some feature →
    ∃ larger, grown.features.get? tag = some larger ∧ feature.Grows larger
  filled : test.filled = true → grown.filled = true

namespace Feature

variable {first second third : Feature}

/-- A feature grows by nothing. -/
theorem Grows.refl (feature : Feature) : feature.Grows feature :=
  ⟨List.prefix_rfl, fun _ has => has⟩

/-- What has grown may grow further. -/
theorem Grows.trans (grows : first.Grows second) (further : second.Grows third) :
    first.Grows third :=
  ⟨grows.contents.trans further.contents, fun modifier has =>
    further.modifiers modifier (grows.modifiers modifier has)⟩

/-- A feature of a test grows by what is merged into it. -/
theorem grows_merge (perTest : first.tag.scope = .perTest) (newer : Feature) :
    first.Grows (first.merge newer) := by
  -- The blocks of the newer feature stand behind those of the first one, and no modifier is lost.
  refine ⟨?_, fun modifier has => ?_⟩
  · simp [merge, perTest]
  · simp [merge, has]

end Feature

namespace Test

variable {first second third test : Test} {feature : Feature}

/-- A test grows by nothing. -/
theorem Grows.refl (test : Test) : test.Grows test :=
  ⟨fun _ feature found => ⟨feature, found, .refl feature⟩, id⟩

/-- What has grown may grow further. -/
theorem Grows.trans (grows : first.Grows second) (further : second.Grows third) :
    first.Grows third := by
  refine ⟨fun tag feature found => ?_, fun filled => further.filled (grows.filled filled)⟩
  -- A feature is found again in the second test, and what is found there in the third.
  obtain ⟨larger, there, within⟩ := grows.features tag feature found
  obtain ⟨largest, again, beyond⟩ := further.features tag larger there
  exact ⟨largest, again, within.trans beyond⟩

/-- A test grows by a feature that is added to it. -/
theorem grows_add (keyed : test.features.Keyed) (perTest : feature.tag.scope = .perTest) :
    test.Grows (test.add feature) := by
  refine ⟨fun tag former found => ?_, fun filled => by simp [add, filled]⟩
  by_cases own : tag = feature.tag
  · -- The feature that was there has the tag of a test, and so its blocks accumulate.
    subst own
    have tagged := keyed feature.tag former found
    refine ⟨former.merge feature, ?_, Feature.grows_merge (tagged ▸ perTest) feature⟩
    rw [features_add, Features.get?_add_self, found, Option.map_some, Option.getD_some]
  · refine ⟨former, ?_, .refl former⟩
    rw [features_add, Features.get?_add_of_ne _ own, found]

end Test

namespace Progress

/-- What further blocks leave as it was: the tests that were complete, all that the current test
held, and the tags of the file. -/
structure Grows (before after : Progress) : Prop where
  tests : ∃ grown later, after.tests = before.done ++ grown :: later ∧ before.current.Grows grown
  globals : ∀ tag, before.globals.contains tag = true → after.globals.contains tag = true

variable {registry : Registry} {first second third progress : Progress} {block : Block}

/-- Without further blocks everything stays. -/
theorem Grows.refl (progress : Progress) : progress.Grows progress :=
  ⟨⟨progress.current, [], rfl, .refl _⟩, fun _ => id⟩

/-- Further blocks may follow further blocks. -/
theorem Grows.trans (grows : first.Grows second) (further : second.Grows third) :
    first.Grows third := by
  refine ⟨?_, fun tag inside => further.globals tag (grows.globals tag inside)⟩
  obtain ⟨grown, later, tests, within⟩ := grows.tests
  obtain ⟨grownAgain, laterAgain, testsAgain, beyond⟩ := further.tests
  -- The test that had grown is still the current one, or it has been completed since.
  rcases later.eq_nil_or_concat with rfl | ⟨complete, last, rfl⟩
  · obtain ⟨done, current⟩ := List.append_inj' tests rfl
    cases current
    -- Still the current one: it has grown twice.
    exact ⟨grownAgain, laterAgain, done ▸ testsAgain, within.trans beyond⟩
  · -- Completed: the second step has left it as it was.
    have split : second.done ++ [second.current] =
        (first.done ++ grown :: complete) ++ [last] := by
      simpa [Progress.tests] using tests
    obtain ⟨done, -⟩ := List.append_inj' split rfl
    exact ⟨grown, complete ++ grownAgain :: laterAgain, by simp [testsAgain, done], within⟩

/-- A feature that is added to the current test leaves everything else. -/
theorem grows_current {after : Progress} (keyed : progress.current.features.Keyed)
    {feature : Feature} (perTest : feature.tag.scope = .perTest)
    (done : after.done = progress.done) (current : after.current = progress.current.add feature)
    (globals : after.globals = progress.globals) : progress.Grows after :=
  ⟨⟨_, [], by rw [Progress.tests, done, current], Test.grows_add keyed perTest⟩,
    fun _ inside => by rwa [globals]⟩

/-- Taking one more block leaves what was read before. -/
theorem grows_take (registry : Registry) (keyed : progress.current.features.Keyed)
    (block : Block) : progress.Grows (progress.take registry block) := by
  have step := taken registry progress block
  generalize progress.take registry block = after at step ⊢
  cases step with
  | toFile _ _ =>
    -- The file gains a feature or has one replaced, and every tag keeps some feature.
    refine ⟨⟨progress.current, [], rfl, .refl _⟩, fun tag inside => ?_⟩
    rw [Features.contains, Option.isSome_iff_ne_none] at inside ⊢
    exact fun none => inside (Features.get?_add_eq_none_iff.1 none).1
  | continuation _ perTest =>
    exact grows_current keyed ((congrArg Tag.scope (tag_featureOf ..)).trans perTest) rfl rfl rfl
  | fresh _ perTest _ =>
    exact grows_current keyed ((congrArg Tag.scope (tag_featureOf ..)).trans perTest) rfl rfl rfl
  | again _ _ _ =>
    -- The current test is complete as it stands.
    exact ⟨⟨progress.current, _, List.append_assoc .., .refl _⟩, fun _ => id⟩

/-- The features of the current test are kept under their own tags. -/
theorem keyed_current_takeAll (registry : Registry) (blocks : List Block) :
    (takeAll registry blocks).current.features.Keyed := by
  -- The test at hand is made of the last group of entries.
  obtain ⟨complete, latest, grouped⟩ := exists_grouped_takeAll registry blocks
  rw [grouped.current]
  exact Test.keyed_ofGroup registry _ latest

/-- However many blocks follow, what was read before stays. -/
theorem grows_takeAll (registry : Registry) (blocks more : List Block) :
    (takeAll registry blocks).Grows (takeAll registry (blocks ++ more)) := by
  -- The induction takes the block that comes last.
  induction more using List.reverseRecOn with
  | nil =>
    rw [List.append_nil]
    exact .refl _
  | append_singleton more block ih =>
    rw [← List.append_assoc, takeAll_concat]
    exact ih.trans (grows_take registry (keyed_current_takeAll registry _) block)

end Progress

namespace Suite

/--
Appending to a bracketed text never changes the tests before its last one.

The front may be any text with balanced brackets, nested or crossed ones included, and what follows
may be anything that keeps the brackets balanced, also where it goes on with a bracket or a line end
that the front has begun. The last test of the front may go on: it keeps its features, each with the
same blocks before any new ones and with all of its modifiers, and stays filled if it was. The file
keeps every tag that it had.
-/
theorem read_append_grows (registry : Registry) (options : ReadOptions)
    (bracketed : options.format = .bracketed) (front rest : Text)
    (balanced : Block.Balanced front)
    (equal : (Block.opens (front ++ rest)).length = (Block.closes (front ++ rest)).length) :
    ∃ suite longer former last grown later,
      read registry options front = .ok suite ∧ read registry options (front ++ rest) = .ok longer ∧
      suite.tests = former ++ [last] ∧ longer.tests = former ++ grown :: later ∧
      last.Grows grown ∧
      ∀ tag, suite.globals.contains tag = true → longer.globals.contains tag = true := by
  -- The whole text has brackets as well, since those of the front come first in it.
  have whole : Block.Balanced (front ++ rest) := by
    refine ⟨equal, fun none => balanced.some (List.prefix_nil.1 ?_)⟩
    exact none ▸ Block.prefix_opens_append front rest
  -- With uniform line ends the text begins as the front does, and so do its blocks.
  obtain ⟨tail, uniform⟩ := Text.normalizeLines_prefix front rest
  obtain ⟨more, blocks⟩ := Block.ranked_prefix balanced.normalizeLines.equal tail
  have grows := Progress.grows_takeAll registry (Block.ranked (Text.normalizeLines front)) more
  rw [blocks, uniform] at grows
  obtain ⟨⟨grown, later, tests, last⟩, globals⟩ := grows
  exact ⟨_, _, _, _, grown, later, read_of_balanced bracketed balanced,
    read_of_balanced bracketed whole, rfl, tests, last, globals⟩

/-- A front that ends in half a bracket, with a nested pair in its last test. -/
theorem read_append_grows_halves :
    let front : Text := "TIMEOUT /\x7b1\x7d/ CMD /\x7ba /\x7bb\x7d/ c\x7d/ /".toList
    let rest : Text := "\x7bd\x7d/ CMD mENDNL /\x7be\x7d/".toList
    (Block.opens front).length = 3 ∧ (Block.opens (front ++ rest)).length = 5 ∧
      ∃ suite longer former last grown later,
        read .builtin {} front = .ok suite ∧ read .builtin {} (front ++ rest) = .ok longer ∧
        suite.tests = former ++ [last] ∧ longer.tests = former ++ grown :: later ∧
        last.Grows grown := by
  intro front rest
  have balanced : Block.Balanced front := ⟨by decide +kernel, by decide +kernel⟩
  -- The front has balanced brackets, and so it is read alone and with the rest.
  obtain ⟨suite, longer, former, last, grown, later, short, long, before, after, grows, -⟩ :=
    read_append_grows .builtin {} rfl front rest balanced (by decide +kernel)
  exact ⟨by decide +kernel, by decide +kernel, suite, longer, former, last, grown, later, short,
    long, before, after, grows⟩

end Suite

end TaggedTests
