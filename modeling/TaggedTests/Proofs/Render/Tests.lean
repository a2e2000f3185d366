import TaggedTests.Proofs.Render.Reading
import TaggedTests.Proofs.Render.Title
import TaggedTests.Proofs.Test.Made

/-! What is written of a test: its title, and its features in order. -/

namespace TaggedTests

/-- All blocks of a test may stand between brackets. -/
def Test.Plain (test : Test) : Prop :=
  ∀ tag feature, tag.scope = .perTest → test.features.get? tag = some feature →
    ∀ content ∈ feature.contents, content.Plain

namespace Registry

/-- The tags of a scope are written, and no others. -/
theorem mem_ordered {registry : Registry} {scope : Scope} {tag : Tag} :
    tag ∈ registry.ordered scope ↔ tag.scope = scope := by
  simp [ordered, Tag.ofScope, Tag.mem_all]

/-- No tag is written twice. -/
theorem nodup_ordered (registry : Registry) (scope : Scope) : (registry.ordered scope).Nodup :=
  (List.mergeSort_perm _ _).nodup_iff.2 (List.Nodup.filter _ (by decide))

/-- Is a tag of lower rank than another one, or of equal rank and declared before it? -/
def Before (registry : Registry) (first second : Tag) : Prop :=
  (registry.spec first).order < (registry.spec second).order ∨
    (registry.spec first).order = (registry.spec second).order ∧ first.index < second.index

/-- Tags are written by their ranks, and those of equal rank in the order of their declaration. -/
theorem pairwise_ordered (registry : Registry) (scope : Scope) :
    (registry.ordered scope).Pairwise registry.Before := by
  -- Rank and then place of declaration make a total order.
  have transitive (first second third : Tag) (before : registry.precedes first second = true)
      (after : registry.precedes second third = true) : registry.precedes first third = true := by
    simp only [precedes, Bool.or_eq_true, Bool.and_eq_true, decide_eq_true_eq] at before after ⊢
    omega
  have total (first second : Tag) :
      (registry.precedes first second || registry.precedes second first) = true := by
    simp only [precedes, Bool.or_eq_true, Bool.and_eq_true, decide_eq_true_eq]
    omega
  have sorted := List.pairwise_mergeSort transitive total (Tag.ofScope scope)
  -- No tag is listed twice, so that of equal ranks the places of declaration differ.
  refine (sorted.and (registry.nodup_ordered scope)).imp fun {first second} ⟨before, differ⟩ => ?_
  have places : first.index ≠ second.index :=
    fun same => differ ((List.idxOf_inj (Tag.mem_all first)).1 same)
  simp only [precedes, Bool.or_eq_true, Bool.and_eq_true, decide_eq_true_eq] at before
  unfold Before
  omega

end Registry

namespace Render

variable {registry : Registry} {test : Test}

/-- The line in front of a test is inert. -/
theorem inert_titleLine (test : Test) : (titleLine test).Inert := by
  -- A blank stands between the title and what may follow it.
  have newline (front : Text) (inert : front.Inert) : (front ++ ['\n', '\n']).Inert :=
    (Text.inert_append_cons_iff Text.separates_newline).2 ⟨inert, by decide⟩
  refine newline _ ?_
  split
  · rw [List.append_nil]
    exact inert_inertTitle test.title
  · exact (Text.inert_append_cons_iff Text.separates_blank).2
      ⟨inert_inertTitle test.title, by decide⟩

/-- The line in front of a test is a whole one. -/
theorem getLast?_titleLine (test : Test) : (titleLine test).getLast? = some '\n' := by
  -- Whatever comes before, two newlines are written last.
  rw [titleLine, List.getLast?_append]
  rfl

/-- The tags of the features of a test but for its comment, in the order in which they are
written. -/
def otherTags (registry : Registry) : List Tag :=
  (registry.ordered .perTest).filter (· ≠ .comment)

/-- The comment comes first, and then the other features that there are. -/
theorem testFeatures_eq (registry : Registry) (test : Test) :
    testFeatures registry test =
      comment registry test :: (otherTags registry).filterMap test.features.get? := rfl

/-- Other tags than the comment are written, and no others. -/
theorem mem_otherTags {tag : Tag} :
    tag ∈ otherTags registry ↔ tag.scope = .perTest ∧ tag ≠ .comment := by
  simp [otherTags, Registry.mem_ordered]

/-- No tag is written twice. -/
theorem nodup_otherTags (registry : Registry) : (otherTags registry).Nodup :=
  (registry.nodup_ordered .perTest).filter _

/-- The comment of a test is kept under its tag. -/
theorem tag_comment (keyed : test.features.Keyed) : (comment registry test).tag = .comment := by
  -- A missing comment is replaced by one that is made for the tag.
  unfold comment
  cases present : test.features.get? .comment with
  | none => rfl
  | some feature => exact keyed .comment feature present

/-- A feature that is written of a test is its own, or a comment without blocks. -/
theorem eq_or_get?_of_mem {feature : Feature} (member : feature ∈ testFeatures registry test) :
    feature = registry.feature .comment ∨
      ∃ tag, tag.scope = .perTest ∧ test.features.get? tag = some feature := by
  -- The comment comes first, and all others are found under the tags that are written.
  rcases List.mem_cons.1 member with rfl | other
  · unfold comment
    cases present : test.features.get? .comment with
    | none => exact Or.inl rfl
    | some feature => exact Or.inr ⟨.comment, rfl, present⟩
  · obtain ⟨tag, listed, found⟩ := List.mem_filterMap.1 other
    exact Or.inr ⟨tag, (mem_otherTags.1 listed).1, found⟩

/-- The features that are written of a test are those of a test. -/
theorem perTest_of_mem (keyed : test.features.Keyed) {feature : Feature}
    (member : feature ∈ testFeatures registry test) : feature.tag.scope = .perTest := by
  -- The comment is made for the test, and other features are found under tags of tests.
  obtain rfl | ⟨tag, perTest, found⟩ := eq_or_get?_of_mem member
  · rfl
  · rwa [keyed tag feature found]

/-- The features that are written of a test can be read back. -/
theorem legible_of_mem (made : test.Made registry) (plain : test.Plain) {feature : Feature}
    (member : feature ∈ testFeatures registry test) : feature.Legible registry := by
  obtain rfl | ⟨tag, perTest, found⟩ := eq_or_get?_of_mem member
  · -- A comment that was missing has no block that could hold a bracket.
    refine ⟨(Feature.Made.feature .comment).settled, fun content inside => ?_⟩
    exact absurd inside List.not_mem_nil
  · exact ⟨(made.features.get? found).settled, plain tag feature perTest found⟩

/-- The features that are written of a test have different tags. -/
theorem nodup_map_tag_testFeatures (keyed : test.features.Keyed) :
    ((testFeatures registry test).map Feature.tag).Nodup := by
  -- The tags of the others are written once each, and the comment is not among them.
  rw [testFeatures_eq, List.map_cons, List.nodup_cons, tag_comment keyed]
  refine ⟨fun again => ?_, keyed.nodup_map_tag (nodup_otherTags registry)⟩
  obtain ⟨feature, member, same⟩ := List.mem_map.1 again
  obtain ⟨tag, listed, found⟩ := List.mem_filterMap.1 member
  exact (mem_otherTags.1 listed).2 ((keyed tag feature found).symm.trans same)

end Render

end TaggedTests
