import Mathlib.Logic.Relation
import TaggedTests.Proofs.Feature.Merging
import TaggedTests.Proofs.Test.Content

/-!
Features are compared by their content.

What a comparison sees of a feature is a value of its own, and so is what it sees of a tag in a
container, where an absent feature counts as one without text and modifiers. Two features or
containers say the same exactly when these values are equal.
-/

namespace TaggedTests

namespace Feature

/-- What a comparison sees of a feature besides its tag. -/
inductive Content where
  /-- In order, only the joined text counts. -/
  | inOrder (modifiers : Modifiers) (text : Text)
  /-- Where blocks may be shuffled, each of them counts, and what joins them. -/
  | shuffled (modifiers : Modifiers) (blocks : List Text) (separator : Text)
  deriving DecidableEq, Repr

/-- The content of what is not there. -/
def Content.blank : Content := .inOrder {} []

/-- The content of a feature. -/
def content (feature : Feature) : Content :=
  if feature.modifiers.shuffled then
    .shuffled feature.modifiers feature.contents feature.separator
  else .inOrder feature.modifiers feature.merged

variable {feature other : Feature}

/-- Features say the same exactly when they have the same tag and the same content. -/
theorem contentEq_iff_content :
    feature.contentEq other = true ↔ feature.tag = other.tag ∧ feature.content = other.content := by
  -- Equal modifiers send both features to the same side of the comparison.
  rw [contentEq_iff, content, content]
  by_cases same : feature.modifiers = other.modifiers
  · rw [← same]
    split <;> simp
  · -- Different ones are part of the content on either side.
    split <;> split <;> simp [same]

/-- A feature has no content exactly when it has neither text nor modifiers. -/
theorem content_eq_blank_iff :
    feature.content = .blank ↔ feature.merged = [] ∧ feature.modifiers = {} := by
  unfold content Content.blank
  split
  · next shuffled =>
    -- A feature that is shuffled has a modifier.
    have marked : feature.modifiers ≠ {} := fun none => by simp [none] at shuffled
    simp [marked]
  · simp [and_comm]

end Feature

namespace Features

open Feature (Content)

/-- The content of a tag in a container. -/
def contentAt (features : Features) (tag : Tag) : Content :=
  ((features.get? tag).map Feature.content).getD .blank

variable {features other : Features}

/-- Containers agree on a tag exactly when it has the same content in both. -/
theorem agreeOn_iff (keyed : features.Keyed) (otherKeyed : other.Keyed) (tag : Tag) :
    features.agreeOn other tag = true ↔ features.contentAt tag = other.contentAt tag := by
  unfold agreeOn contentAt
  cases own : features.get? tag <;> cases others : other.get? tag
  case none.none => simp
  -- Where only one of them has the feature, this one must be blank.
  case none.some counterpart =>
    simp only [Feature.isEmpty, Bool.and_eq_true, List.isEmpty_iff, Modifiers.toList_eq_nil_iff,
      ← Feature.content_eq_blank_iff]
    exact eq_comm
  case some.none feature =>
    simp only [Feature.isEmpty, Bool.and_eq_true, List.isEmpty_iff, Modifiers.toList_eq_nil_iff,
      ← Feature.content_eq_blank_iff]
    exact Iff.rfl
  case some.some feature counterpart =>
    -- Both are kept under the tag at hand.
    have tagged : feature.tag = counterpart.tag :=
      (keyed tag feature own).trans (otherKeyed tag counterpart others).symm
    simp [Feature.contentEq_iff_content, tagged]

/-- Containers say the same exactly when every tag has the same content in both. -/
theorem contentEq_iff_contentAt (keyed : features.Keyed) (otherKeyed : other.Keyed) :
    features.contentEq other = true ↔ features.contentAt = other.contentAt := by
  simp only [contentEq, List.all_eq_true, Tag.mem_all, true_implies,
    agreeOn_iff keyed otherKeyed, funext_iff]

/--
To say the same is an equivalence, of features and of containers.

Features say the same when their tags and their contents are equal, and containers, however they
were built up, when every tag has the same content in both.
-/
theorem contentEq_equivalence :
    Equivalence (fun feature other : Feature => feature.contentEq other = true) ∧
    Equivalence (fun features other : {features : Features // features.Built} =>
      features.1.contentEq other.1 = true) ∧
    (∀ feature other : Feature,
      feature.contentEq other = true ↔
        (feature.tag, feature.content) = (other.tag, other.content)) ∧
    ∀ features other : {features : Features // features.Built},
      features.1.contentEq other.1 = true ↔ features.1.contentAt = other.1.contentAt := by
  have ofFeatures (feature other : Feature) : feature.contentEq other = true ↔
      (feature.tag, feature.content) = (other.tag, other.content) := by
    rw [Feature.contentEq_iff_content, Prod.mk.injEq]
  have ofContainers (features other : {features : Features // features.Built}) :
      features.1.contentEq other.1 = true ↔ features.1.contentAt = other.1.contentAt :=
    contentEq_iff_contentAt features.2.keyed other.2.keyed
  -- Being equal in some value is an equivalence whatever the value is.
  refine ⟨?_, ?_, ofFeatures, ofContainers⟩
  · simp only [ofFeatures]
    exact eq_equivalence.comap _
  · simp only [ofContainers]
    exact eq_equivalence.comap _

end Features

end TaggedTests
