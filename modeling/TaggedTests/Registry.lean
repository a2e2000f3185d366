import TaggedTests.Feature
import TaggedTests.TagMap
import TaggedTests.Text.Integer

/-! The configuration of each tag, and overrides that adjust it. -/

namespace TaggedTests

/-- How the features of one tag are joined, ordered and shown. -/
structure TagSpec where
  tag : Tag
  /-- The rank of the tag when features are written. -/
  order : Int
  /-- Joins blocks unless a modifier forces another separator. -/
  separator : Text
  /-- The heading in failure reports, absent to leave the feature out. -/
  label : Option Text
  /-- The text assumed when the tag is absent. -/
  fallback : Option Text
  deriving DecidableEq, Repr

namespace TagSpec

/-- The configuration of a tag before any override. -/
def builtin (tag : Tag) : TagSpec where
  tag := tag
  order := tag.index
  separator := if tag = .cmd then [' '] else ['\n']
  label :=
    match tag with
    | .startup => some "ENVIRONMENT PREPARATION".toList
    | .cleanup => some "ENVIRONMENT CLEANUP".toList
    | .cmd => some "COMMAND LINE ARGUMENTS".toList
    | .input => some "INPUT".toList
    | .output => some "EXPECTED OUTPUT".toList
    | .description | .main | .flags | .timeout | .comment => none
  fallback :=
    match tag with
    | .timeout => some "2.0".toList
    | .description => some "No description was provided for these tests.".toList
    | _ => none

end TagSpec

/-- Fields of a tag's configuration that are given anew. -/
structure TagOverride where
  order : Option Int := none
  separator : Option Text := none
  /-- An empty label hides the feature from failure reports. -/
  label : Option Text := none
  fallback : Option Text := none
  deriving DecidableEq, Repr

/-- The configuration with the given fields replaced. -/
def TagSpec.override (spec : TagSpec) (update : TagOverride) : TagSpec where
  tag := spec.tag
  order := update.order.getD spec.order
  separator := update.separator.getD spec.separator
  label :=
    match update.label with
    | none => spec.label
    | some label => if label.isEmpty then none else some label
  fallback := update.fallback <|> spec.fallback

/-- A configuration for every tag. -/
structure Registry where
  specs : TagMap TagSpec
  deriving DecidableEq, Repr

/-- Overrides keyed by keyword, in increasing order of the keywords. -/
abbrev RegistryFile := List (Text × TagOverride)

namespace Registry

/-- The configuration before any override. -/
def builtin : Registry := ⟨.ofFn TagSpec.builtin⟩

/-- The configuration of a tag. -/
def spec (registry : Registry) (tag : Tag) : TagSpec := registry.specs.get tag

/-- An empty feature that carries the separator configured for its tag. -/
def feature (registry : Registry) (tag : Tag) : Feature :=
  .empty tag (registry.spec tag).separator

/-- A feature with the given blocks and the separator configured for its tag. -/
def featureOf (registry : Registry) (tag : Tag) (contents : List Text) : Feature :=
  (registry.feature tag).withContents contents

/-- The registry with one tag configured anew. -/
def override (registry : Registry) (tag : Tag) (update : TagOverride) : Registry :=
  ⟨registry.specs.set tag ((registry.spec tag).override update)⟩

/-- Applies overrides in order; the first keyword that names no tag is the error. -/
def withOverrides (registry : Registry) : RegistryFile → Except Text Registry
  | [] => .ok registry
  | (keyword, update) :: rest =>
    match Tag.ofKeyword? keyword with
    | none => .error keyword
    | some tag => (registry.override tag update).withOverrides rest

/-- Does a tag come before another when features are written? -/
def precedes (registry : Registry) (first second : Tag) : Bool :=
  -- Tags of equal rank keep the order of their declaration.
  let left := (registry.spec first).order
  let right := (registry.spec second).order
  left < right || (left = right && first.index ≤ second.index)

/-- The tags of a scope in the order in which features are written. -/
def ordered (registry : Registry) (scope : Scope) : List Tag :=
  (Tag.ofScope scope).mergeSort registry.precedes

end Registry

end TaggedTests
