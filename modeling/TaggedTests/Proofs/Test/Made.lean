import TaggedTests.Proofs.Feature.Made
import TaggedTests.Proofs.Features

/-! Containers and tests as they are made from a registry. -/

namespace TaggedTests

/-- A container that features made from a registry were put into. -/
inductive Features.Made (registry : Registry) : Features → Prop where
  | empty : Made registry .empty
  | add {features : Features} {feature : Feature} (made : Made registry features)
    (more : Feature.Made registry feature) : Made registry (features.add feature)
  | replace {features : Features} {feature : Feature} (made : Made registry features)
    (more : Feature.Made registry feature) : Made registry (features.replace feature)

/-- A test that features made from a registry were put into, and that may have been run. -/
inductive Test.Made (registry : Registry) : Test → Prop where
  | empty (title : Text) : Made registry (.empty title)
  | add {test : Test} {feature : Feature} (made : Made registry test)
    (more : Feature.Made registry feature) : Made registry (test.add feature)
  | recordRun {test : Test} (made : Made registry test) (output : Text) (failed : Bool) :
    Made registry (test.recordRun output failed)
  | setLastRunFailed {test : Test} (made : Made registry test) (failed : Bool) :
    Made registry (test.setLastRunFailed failed)
  | fill {test : Test} (made : Made registry test) : Made registry (test.fill registry)

namespace Features

variable {registry : Registry} {features : Features}

/-- A container keeps the features that were put into it under their own tags. -/
theorem Made.keyed (made : Made registry features) : features.Keyed := by
  -- Each way of putting a feature in keeps all of them under their own tags.
  induction made with
  | empty => exact keyed_empty
  | add _ _ ih => exact ih.add _
  | replace _ _ ih => exact ih.replace _

/-- Every feature of a container was made from the registry. -/
theorem Made.get? (made : Made registry features) {tag : Tag} {feature : Feature}
    (found : features.get? tag = some feature) : Feature.Made registry feature := by
  -- A feature that is found was just put in, merged into another one, or there before.
  induction made generalizing feature with
  | empty => simp at found
  | add _ more ih =>
    rcases cases_of_get?_add found with ⟨-, rfl⟩ | ⟨former, present, -, rfl⟩ | ⟨-, before⟩
    · exact more
    · exact (ih present).merge more
    · exact ih before
  | replace _ more ih =>
    rcases cases_of_get?_replace found with ⟨-, rfl⟩ | ⟨-, before⟩
    · exact more
    · exact ih before

end Features

namespace Test

variable {registry : Registry} {test : Test}

/-- The features of a test were made from the registry. -/
theorem Made.features (made : Made registry test) : Features.Made registry test.features := by
  -- A run leaves them alone, and what it printed becomes a feature with one block.
  induction made with
  | empty => exact .empty
  | add _ more ih => exact ih.add more
  | recordRun _ _ _ ih => exact ih
  | setLastRunFailed _ _ ih => exact ih
  | fill _ ih => exact ih.replace ((Feature.Made.feature .output).push _)

/-- A feature that is added keeps a test filled exactly when it has an expected output. -/
theorem filled_iff_add (mark : test.filled = true ↔ test.features.get? .output ≠ none)
    (feature : Feature) :
    (test.add feature).filled = true ↔ (test.add feature).features.get? .output ≠ none := by
  -- Adding an expected output sets the mark, and adding anything else leaves it.
  have either : (test.add feature).filled = true ↔ test.filled = true ∨ feature.tag = .output := by
    simp [add]
  rw [either, mark, features_add, ne_eq, ne_eq, Features.get?_add_eq_none_iff, not_and_or, not_not]
  exact or_congr_right eq_comm

/-- A test that adopts what was printed is filled and has an expected output. -/
theorem filled_iff_fill (test : Test) (registry : Registry) :
    (test.fill registry).filled = true ↔ (test.fill registry).features.get? .output ≠ none := by
  -- A test that is filled has an expected output, whatever it captured.
  have present : (test.fill registry).features.get? .output =
      some (registry.featureOf .output [test.captured.getD []]) :=
    Features.get?_replace_self test.features (registry.featureOf .output _)
  rw [present]
  simp [fill]

/-- A test is filled exactly when it has an expected output. -/
theorem Made.filled_iff (made : Made registry test) :
    test.filled = true ↔ test.features.get? .output ≠ none := by
  -- The mark is set exactly when an expected output is put in, and nothing takes either away.
  induction made with
  | empty => simp [Test.empty]
  | @add _ feature _ _ ih => exact filled_iff_add ih feature
  | recordRun _ _ _ ih => exact ih
  | setLastRunFailed _ _ ih => exact ih
  | @fill test _ _ => exact test.filled_iff_fill registry

end Test

end TaggedTests
