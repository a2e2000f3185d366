import TaggedTests.Feature
import TaggedTests.TagMap

/-! A container of features, at most one for each tag. -/

namespace TaggedTests

/-- Features kept under their tags. -/
structure Features where
  slots : TagMap (Option Feature)
  deriving DecidableEq, Repr

namespace Features

/-- The container without features. -/
def empty : Features := ⟨.ofFn fun _ => none⟩

/-- The feature of a tag, if there is one. -/
def get? (features : Features) (tag : Tag) : Option Feature := features.slots.get tag

/-- Puts a feature under its tag, discarding one that is there. -/
def replace (features : Features) (feature : Feature) : Features :=
  ⟨features.slots.set feature.tag (some feature)⟩

/-- Puts a feature under its tag, merging it into one that is there. -/
def add (features : Features) (feature : Feature) : Features :=
  match features.get? feature.tag with
  | none => features.replace feature
  | some present => ⟨features.slots.set feature.tag (some (present.merge feature))⟩

/-- Is there a feature of a tag? -/
def contains (features : Features) (tag : Tag) : Bool := (features.get? tag).isSome

/-- The joined text of a tag, if there is a feature of it. -/
def merged? (features : Features) (tag : Tag) : Option Text :=
  (features.get? tag).map Feature.merged

/-- The features in order of their tags. -/
def toList (features : Features) : List Feature := Tag.all.filterMap features.get?

/-- The number of features. -/
def size (features : Features) : Nat := features.toList.length

/-- Are there no features? -/
def isEmpty (features : Features) : Bool := features.toList.isEmpty

/-- Do two containers say the same of one tag, an absent feature counting as an empty one? -/
def agreeOn (features other : Features) (tag : Tag) : Bool :=
  -- An absent feature is the same as one without text and modifiers.
  match features.get? tag, other.get? tag with
  | some feature, some counterpart => feature.contentEq counterpart
  | some feature, none | none, some feature => feature.isEmpty && feature.modifiers.toList.isEmpty
  | none, none => true

/-- Do two containers say the same of every tag? -/
def contentEq (features other : Features) : Bool := Tag.all.all (features.agreeOn other)

@[simp] theorem get?_empty (tag : Tag) : empty.get? tag = none := by
  simp [empty, get?]

@[simp] theorem get?_replace_self (features : Features) (feature : Feature) :
    (features.replace feature).get? feature.tag = some feature := by
  simp [replace, get?]

/-- Replacing a feature leaves those of other tags alone. -/
theorem get?_replace_of_ne (features : Features) {feature : Feature} {tag : Tag}
    (differ : tag ≠ feature.tag) : (features.replace feature).get? tag = features.get? tag := by
  simp [replace, get?, TagMap.get_set_of_ne _ _ differ]

end Features

end TaggedTests
