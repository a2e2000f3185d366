import TaggedTests.Proofs.Render.Tests
import TaggedTests.Report.FailureReport

/-!
What a report tells of a test.

It has a section for each labelled feature, in the order in which features are written, and tells
nothing of the others but the comment and the expected output that was not met. So tests that differ
only in what has no label are reported alike.
-/

namespace TaggedTests

/-- What is made of the items of a list belongs to those items of which something is made. -/
theorem forall₂_filterMap {α β : Type} (make : α → Option β) (items : List α) :
    List.Forall₂ (fun item made => make item = some made)
      (items.filter fun item => (make item).isSome) (items.filterMap make) := by
  induction items with
  | nil => exact .nil
  | cons item rest ih =>
    -- An item that makes nothing is left out on both sides.
    cases own : make item with
    | none => simpa [own] using ih
    | some made =>
      rw [List.filter_cons_of_pos (by rw [own]; rfl), List.filterMap_cons_some own]
      exact .cons own ih

/-- Tests of which a report of a failure tells the same: they differ at most in features without a
label. -/
structure Test.ReportedAlike (registry : Registry) (failure : Failure) (first second : Test) :
    Prop where
  title : first.title = second.title
  captured : first.captured = second.captured
  labelled : ∀ tag, (registry.spec tag).label ≠ none →
    first.features.get? tag = second.features.get? tag
  /-- A comment is shown without a label. -/
  comment : first.features.get? .comment = second.features.get? .comment
  /-- A mismatch is shown with the expected output. -/
  output : failure = .mismatch → first.features.get? .output = second.features.get? .output

namespace FailureReport

variable {registry : Registry} {failure : Failure} {test first second : Test} {tag : Tag}

/-- Sections for the tags that have a label and a feature with a text, each with the label and the
joined text. -/
structure Announces (registry : Registry) (test : Test) (tags : List Tag)
    (sections : List (Text × Text)) : Prop where
  /-- What is empty is left out, except for an expected output. -/
  mem_iff : ∀ tag, tag ∈ tags ↔ tag.scope = .perTest ∧ (registry.spec tag).label ≠ none ∧
    ∃ feature, test.features.get? tag = some feature ∧ (feature.merged ≠ [] ∨ tag = .output)
  ordered : tags.Pairwise registry.Before
  each : List.Forall₂ (fun tag shown => (registry.spec tag).label = some shown.1 ∧
    test.features.merged? tag = some shown.2) tags sections

/-- A section is the label of a tag and the joined text of its feature. -/
theorem section?_eq_some_iff {shown : Text × Text} : section? registry test tag = some shown ↔
    (registry.spec tag).label = some shown.1 ∧ ∃ feature, test.features.get? tag = some feature ∧
      (feature.merged ≠ [] ∨ tag = .output) ∧ feature.merged = shown.2 := by
  unfold section?
  split
  · next label feature labelled present =>
    simp [labelled, present, Feature.isEmpty, or_comm, Prod.ext_iff, and_left_comm]
  · next absent =>
    -- Without a label or a feature there is no section.
    simp only [reduceCtorEq, false_iff, not_and, not_exists]
    exact fun labelled feature present => absurd present (absent _ feature labelled)

/-- A tag has a section exactly when it has a label and a feature with a text. -/
theorem isSome_section?_iff : (section? registry test tag).isSome = true ↔
    (registry.spec tag).label ≠ none ∧
      ∃ feature, test.features.get? tag = some feature ∧ (feature.merged ≠ [] ∨ tag = .output) := by
  simp only [Option.isSome_iff_exists, section?_eq_some_iff, Option.ne_none_iff_exists']
  -- Label and text of a section are those of the tag and its feature.
  constructor
  · rintro ⟨shown, labelled, feature, present, told, -⟩
    exact ⟨⟨shown.1, labelled⟩, feature, present, told⟩
  · rintro ⟨⟨label, labelled⟩, feature, present, told⟩
    exact ⟨(label, feature.merged), labelled, feature, present, told, rfl⟩

/-- The sections of a report are those of the labelled features of the test. -/
theorem exists_announces (registry : Registry) (test : Test) (failure : Failure) :
    ∃ tags, Announces registry test tags (ofTest registry test failure).sections := by
  -- The tags are those written ones that have a section.
  let told := fun tag => (section? registry test tag).isSome
  refine ⟨(registry.ordered .perTest).filter told, fun tag => ?_,
    (registry.pairwise_ordered .perTest).filter told, ?_⟩
  · rw [List.mem_filter, Registry.mem_ordered]
    exact and_congr_right fun _ => isSome_section?_iff
  · refine (forall₂_filterMap (section? registry test) (registry.ordered .perTest)).imp ?_
    intro tag shown made
    obtain ⟨labelled, feature, present, -, text⟩ := section?_eq_some_iff.1 made
    exact ⟨labelled, by rw [Features.merged?, present, Option.map_some, text]⟩

/-- Whatever the tag is, tests that are reported alike have the same section. -/
theorem section?_eq (alike : first.ReportedAlike registry failure second) :
    FailureReport.section? registry first = section? registry second := by
  funext tag
  unfold section?
  -- A tag without a label has no section; with one, both tests have the same feature.
  cases labelled : (registry.spec tag).label with
  | none => rfl
  | some label => rw [alike.labelled tag (by simp [labelled])]

/-- Tests that are reported alike have the same report. -/
theorem ofTest_eq (alike : first.ReportedAlike registry failure second) :
    ofTest registry first failure = ofTest registry second failure := by
  have comment : first.features.merged? .comment = second.features.merged? .comment :=
    congrArg (Option.map Feature.merged) alike.comment
  -- The expected output is looked at only for a mismatch.
  have expected : (if failure = .mismatch then some (first.merged .output) else none) =
      if failure = .mismatch then some (second.merged .output) else none := by
    split
    · next mismatch => rw [Test.merged, Test.merged, Features.merged?, alike.output mismatch]; rfl
    · rfl
  rw [ofTest, ofTest, alike.title, alike.captured, section?_eq alike, comment, expected]

/--
What has no label cannot be seen in a report.

Tests of the same title and output have equal reports, also as they are shown, if their features
differ only for tags without a label, of which the comment is not one, nor the expected output where
it was not met. What has a label is seen: there is one section for each such feature of a test that
has a text or is the expected output, in the order in which features are written, with the joined
text.
-/
theorem report_of_alike (registry : Registry) (failure : Failure) :
    (∀ first second : Test, first.ReportedAlike registry failure second →
      ofTest registry first failure = ofTest registry second failure ∧
      ∀ palette, (ofTest registry first failure).styled.render palette =
        (ofTest registry second failure).styled.render palette) ∧
    ∀ test : Test, ∃ tags,
      Announces registry test tags (ofTest registry test failure).sections := by
  refine ⟨fun first second alike => ?_, fun test => exists_announces registry test failure⟩
  -- Equal reports are shown alike, in whatever colors.
  have same := ofTest_eq alike
  exact ⟨same, fun palette => by rw [same]⟩

/-- An input whose label was taken away, in one of two tests only, and an empty expected output. -/
theorem report_of_alike_hidden :
    let registry := Registry.builtin.override .input { label := some [] }
    let bare := (Test.empty "Test 1".toList).add (registry.featureOf .output [[]])
    let test := bare.add (registry.featureOf .input ["secret".toList])
    test.ReportedAlike registry .mismatch bare ∧ test ≠ bare ∧
      (ofTest registry test .mismatch).styled.render .plain =
        (ofTest registry bare .mismatch).styled.render .plain ∧
      ∃ tags, .output ∈ tags ∧ .input ∉ tags ∧
        Announces registry test tags (ofTest registry test .mismatch).sections := by
  intro registry bare test
  -- The tests differ in their inputs only, for which there is no label.
  have alike : test.ReportedAlike registry .mismatch bare :=
    ⟨rfl, rfl, by intro tag; cases tag <;> decide, rfl, fun _ => rfl⟩
  obtain ⟨hides, announces⟩ := report_of_alike registry .mismatch
  obtain ⟨tags, shown⟩ := announces test
  refine ⟨alike, by decide, (hides test bare alike).2 .plain, tags, ?_, ?_, shown⟩
  · -- The expected output has a label, and it is announced although it is empty.
    exact (shown.mem_iff .output).2 ⟨rfl, by decide, registry.featureOf .output [[]], rfl, .inr rfl⟩
  · exact fun listed => ((shown.mem_iff .input).1 listed).2.1 rfl

end FailureReport

end TaggedTests
