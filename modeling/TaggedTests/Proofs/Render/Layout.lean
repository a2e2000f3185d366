import TaggedTests.Proofs.Render.Tests

/-!
The order in which a suite is written.

Every feature is written once, by the rank of its tag: those of the file in front of the banner, and
those of a test behind its title, where the comment comes first. A group has a bracketed block for
each block of its feature, and an empty one for a feature without blocks.
-/

namespace TaggedTests

/-- A container holds nothing but features of a scope, each under its own tag. -/
def Features.Within (features : Features) (scope : Scope) : Prop :=
  ∀ tag feature, features.get? tag = some feature → feature.tag = tag ∧ tag.scope = scope

/-- The container without features holds none of a foreign scope. -/
theorem Features.within_empty (scope : Scope) : Features.empty.Within scope := by
  intro tag feature found
  simp at found

namespace Registry

variable {registry : Registry} {scope : Scope} {listed : List Tag}

instance (registry : Registry) (first second : Tag) : Decidable (registry.Before first second) :=
  inferInstanceAs (Decidable (_ ∨ _ ∧ _))

/-- Of two tags at most one is written before the other. -/
theorem Before.asymm {first second : Tag} (before : registry.Before first second) :
    ¬ registry.Before second first := by
  unfold Before at *
  omega

/-- There is only one order in which the tags of a scope can be written. -/
theorem ordered_eq_of_pairwise (sorted : listed.Pairwise registry.Before)
    (members : ∀ tag, tag ∈ listed ↔ tag.scope = scope) : registry.ordered scope = listed := by
  -- Two lists of the same tags in the same order are equal.
  have nodup : listed.Nodup := by
    refine sorted.imp ?_
    rintro first _ before rfl
    exact before.asymm before
  have same : (registry.ordered scope).Perm listed :=
    (List.perm_ext_iff_of_nodup (registry.nodup_ordered scope) nodup).2 fun tag =>
      mem_ordered.trans (members tag).symm
  exact same.eq_of_pairwise (fun first second _ _ before behind => absurd behind before.asymm)
    (registry.pairwise_ordered scope) sorted

/-- Features stand in the order in which their tags are written. -/
def InOrder (registry : Registry) (features : List Feature) : Prop :=
  features.Pairwise fun first second => registry.Before first.tag second.tag

end Registry

namespace Feature

/-- Blocks under the heading of a feature, each between brackets, and the separator between them. -/
def group (feature : Feature) (blocks : List Text) : Text :=
  feature.heading ++ feature.separator.intercalate (blocks.map bracketed) ++ feature.ending

/-- The blocks that are written of a feature: an empty one if it has none. -/
def writtenBlocks (feature : Feature) : List Text :=
  if feature.contents = [] then [[]] else feature.contents

/-- Separators behind all parts stand between the parts and behind the last one. -/
theorem flatMap_append_eq_intercalate (separator : Text) (part : Text → Text)
    {contents : List Text} (some : contents ≠ []) :
    contents.flatMap (fun content => part content ++ separator) =
      separator.intercalate (contents.map part) ++ separator := by
  induction contents with
  | nil => contradiction
  | cons content contents ih =>
    -- Behind the last part stands a separator as well, and in front of any other part as between
    -- two.
    by_cases last : contents = []
    · simp [last]
    · rw [List.flatMap_cons, ih last, List.map_cons,
        List.intercalate_cons_of_ne_nil (by simpa using last)]
      simp

/-- A feature is written as one group. -/
theorem render_eq_group (feature : Feature) :
    feature.render = feature.group feature.writtenBlocks := by
  unfold render group writtenBlocks ending
  -- A feature without blocks is written with an empty one.
  by_cases none : feature.contents = []
  · simp [none]
  · rw [if_neg none, if_neg none, if_neg (by simpa using none),
      flatMap_append_eq_intercalate _ _ none]
    simp

end Feature

namespace Render

/-- How a test is laid out, given which blocks are written of a feature: its title, the group of the
comment, and a group for each other feature. -/
def TestLayout (blocks : Feature → List Text) (registry : Registry) (test : Test) (text : Text) :
    Prop :=
  ∃ others : List Feature,
    others.Perm (test.features.toList.filter fun feature => feature.tag ≠ .comment) ∧
    registry.InOrder others ∧
    text = titleLine test ++
      (match test.features.get? .comment with
        -- A comment that is missing is written all the same.
        | none => (registry.feature .comment).group [[]]
        | some comment => comment.group (blocks comment)) ++
      others.flatMap fun feature => feature.group (blocks feature)

/-- How a file is laid out: a group with a single block for each feature of the file, and behind the
banner the tests. -/
def Layout (blocks : Feature → List Text) (registry : Registry) (globals : Features)
    (tests : List Test) (text : Text) : Prop :=
  ∃ (shared : List Feature) (parts : List Text),
    shared.Perm globals.toList ∧ registry.InOrder shared ∧
    List.Forall₂ (TestLayout blocks registry) tests parts ∧
    text = header ++ ['\n', '\n'] ++
      shared.flatMap (fun feature => feature.collapsed.group [feature.merged]) ++
      banner ++ ['\n', '\n'] ++ parts.flatten

variable {registry : Registry} {features : Features} {scope : Scope} {test : Test}

/-- The features of a scope are those of its tags in the order of writing. -/
theorem perm_filterMap_ordered (within : features.Within scope) :
    ((registry.ordered scope).filterMap features.get?).Perm features.toList := by
  have same : (Tag.ofScope scope).filterMap features.get? = features.toList := by
    rw [Tag.ofScope, List.filterMap_filter, Features.toList]
    refine List.filterMap_congr fun tag _ => ?_
    -- Tags of the other scope have no feature.
    cases present : features.get? tag with
    | none => simp
    | some feature => simp [(within tag feature present).2]
  exact same ▸ (List.mergeSort_perm _ _).filterMap _

/-- Features that are found for tags in the order of writing stand in that order. -/
theorem inOrder_filterMap_ordered (within : features.Within scope) :
    registry.InOrder ((registry.ordered scope).filterMap features.get?) := by
  -- Every feature stands under its own tag, so features are ordered as the tags are.
  refine List.Pairwise.filterMap _ (fun first second before feature found other located => ?_)
    (registry.pairwise_ordered scope)
  rwa [(within first feature found).1, (within second other located).1]

/-- Leaving out a tag is leaving out its feature. -/
theorem filterMap_filter_ne (within : features.Within scope) (left : Tag) (tags : List Tag) :
    (tags.filter (· ≠ left)).filterMap features.get? =
      (tags.filterMap features.get?).filter fun feature => feature.tag ≠ left := by
  rw [List.filterMap_filter, List.filter_filterMap]
  -- A feature is left out exactly if its own tag is, under which it stands.
  refine List.filterMap_congr fun tag _ => ?_
  cases present : features.get? tag with
  | none => simp
  | some feature =>
    by_cases own : tag = left <;> simp [(within tag feature present).1, own, Option.filter]

/-- A test is laid out as it is written. -/
theorem testLayout_testText (within : test.features.Within .perTest) :
    TestLayout Feature.writtenBlocks registry test (testText registry test) := by
  refine ⟨((registry.ordered .perTest).filterMap test.features.get?).filter
      fun feature => feature.tag ≠ .comment, (perm_filterMap_ordered within).filter _,
    (inOrder_filterMap_ordered within).filter _, ?_⟩
  rw [testText, testFeatures_eq, otherTags, filterMap_filter_ne within, List.flatMap_cons,
    List.append_assoc]
  congr 2
  · -- The comment is the one of the test, or has no blocks.
    unfold comment
    cases present : test.features.get? .comment <;> exact Feature.render_eq_group _
  · exact List.flatMap_congr fun feature _ => feature.render_eq_group

/-- A suite is laid out as it is written. -/
theorem layout_render {globals : Features} {tests : List Test} (shared : globals.Within .global)
    (within : ∀ test ∈ tests, test.features.Within .perTest) :
    Layout Feature.writtenBlocks registry globals tests (render registry globals tests) := by
  refine ⟨(registry.ordered .global).filterMap globals.get?, tests.map (testText registry),
    perm_filterMap_ordered shared, inOrder_filterMap_ordered shared, ?_, ?_⟩
  · rw [List.forall₂_map_right_iff, List.forall₂_same]
    exact fun test member => testLayout_testText (within test member)
  · -- A feature of the file has its joined text as the only block.
    have groups (feature : Feature) :
        feature.collapsed.render = feature.collapsed.group [feature.merged] :=
      feature.collapsed.render_eq_group
    rw [render, globalFeatures, List.flatMap_map, List.flatMap_def (l := tests)]
    simp only [groups]

/--
A suite is written in the order of its registry.

The tags of a scope are listed once each, by their ranks, and those of equal rank in the order of
their declaration. In this order there is one group for each feature of the file, with the joined
text as its only block, in front of the banner. Behind it each test in turn has the group of its
comment, which is empty where there is none, and then in this order one group for each other
feature, with a bracketed block for each of its blocks, or an empty one if it has none.
-/
theorem follows_order (registry : Registry) :
    (∀ scope, (registry.ordered scope).Pairwise registry.Before ∧
      ∀ tag, (registry.ordered scope).count tag = if tag.scope = scope then 1 else 0) ∧
    ∀ (globals : Features) (tests : List Test), globals.Within .global →
      (∀ test ∈ tests, test.features.Within .perTest) →
      Layout Feature.writtenBlocks registry globals tests (render registry globals tests) := by
  refine ⟨fun scope => ⟨registry.pairwise_ordered scope, fun tag => ?_⟩,
    fun globals tests shared within => layout_render shared within⟩
  -- No tag is listed twice, so each is counted once or not at all.
  rw [(registry.nodup_ordered scope).count]
  simp only [Registry.mem_ordered]

/-- Ranks that reverse the order and ranks that are equal, a feature of the file with two blocks, a
comment that is missing, and a feature without blocks. -/
theorem follows_order_reversed :
    let registry := ((Registry.builtin.override .output
      { order := some (-9223372036854775808) }).override .cmd { order := some 6 }).override .flags
        { order := some (-1) }
    let globals := (Features.empty.add (registry.featureOf .main ["m".toList, "n".toList])).add
      (registry.featureOf .flags ["-O2".toList])
    let test := (((Test.empty "Test 1".toList).add (registry.feature .cmd)).add
      (registry.featureOf .cleanup ["c".toList])).add
        (registry.featureOf .output ["a".toList, "b".toList])
    globals.Within .global ∧ test.features.Within .perTest ∧
      registry.ordered .perTest = [.output, .comment, .startup, .cleanup, .cmd, .input] ∧
      Layout Feature.writtenBlocks registry globals [test] (render registry globals [test]) := by
  intro registry globals test
  -- What is found in the features was added there under its tag.
  have shared : globals.Within .global := by
    intro tag feature found
    cases tag <;> cases found <;> exact ⟨rfl, rfl⟩
  have within : test.features.Within .perTest := by
    intro tag feature found
    cases tag <;> cases found <;> exact ⟨rfl, rfl⟩
  obtain ⟨-, laid⟩ := follows_order registry
  -- The configured orders put the output first and the input last.
  have ordered : registry.ordered .perTest =
      [.output, .comment, .startup, .cleanup, .cmd, .input] :=
    Registry.ordered_eq_of_pairwise (by decide +kernel) fun tag => by cases tag <;> decide
  exact ⟨shared, within, ordered,
    laid globals [test] shared (List.forall_mem_singleton.2 within)⟩

/-- A feature without blocks has a bracketed block all the same. -/
theorem follows_order_blockless :
    let test := (Test.empty "Test 1".toList).add (Registry.builtin.feature .input)
    test.features.Within .perTest ∧
      ¬ Layout Feature.contents .builtin .empty [test] (render .builtin .empty [test]) := by
  intro test
  have within : test.features.Within .perTest := by
    intro tag feature found
    cases tag <;> cases found
    exact ⟨rfl, rfl⟩
  let input := Registry.builtin.feature .input
  let front := header ++ ['\n', '\n'] ++ banner ++ ['\n', '\n'] ++ titleLine test ++
    (Registry.builtin.feature .comment).group [[]]
  -- Whatever is written of blocks, the group of the input comes last.
  have last {blocks : Feature → List Text} {text : Text}
      (laid : Layout blocks .builtin .empty [test] text) :
      text = front ++ input.group (blocks input) := by
    obtain ⟨shared, parts, listed, -, each, rfl⟩ := laid
    obtain rfl : shared = [] := List.perm_nil.1 listed
    obtain ⟨part, more, ⟨others, listed, -, rfl⟩, rest, rfl⟩ := List.forall₂_cons_left_iff.1 each
    obtain rfl : more = [] := List.forall₂_nil_left_iff.1 rest
    obtain rfl : others = [input] := List.perm_singleton.1 listed
    simp [front, show test.features.get? .comment = none from rfl]
  refine ⟨within, fun laid => ?_⟩
  -- As it is written, the group has an empty block, where the feature has none.
  have written : Layout Feature.writtenBlocks .builtin .empty [test]
      (render .builtin .empty [test]) :=
    layout_render (Features.within_empty .global) (List.forall_mem_singleton.2 within)
  have same := List.append_cancel_left ((last written).symm.trans (last laid))
  revert same
  decide

end Render

end TaggedTests
