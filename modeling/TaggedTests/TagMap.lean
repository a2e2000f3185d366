import TaggedTests.Tag

/-! A value for every tag. -/

namespace TaggedTests

/-- One value for each tag of the vocabulary. -/
structure TagMap (α : Type) where
  description : α
  main : α
  flags : α
  timeout : α
  comment : α
  startup : α
  cleanup : α
  input : α
  cmd : α
  output : α
  deriving DecidableEq, Repr

namespace TagMap

variable {α : Type}

/-- The value of a tag. -/
def get (map : TagMap α) : Tag → α
  | .description => map.description
  | .main => map.main
  | .flags => map.flags
  | .timeout => map.timeout
  | .comment => map.comment
  | .startup => map.startup
  | .cleanup => map.cleanup
  | .input => map.input
  | .cmd => map.cmd
  | .output => map.output

/-- The map with another value for one tag. -/
def set (map : TagMap α) (tag : Tag) (value : α) : TagMap α :=
  match tag with
  | .description => { map with description := value }
  | .main => { map with main := value }
  | .flags => { map with flags := value }
  | .timeout => { map with timeout := value }
  | .comment => { map with comment := value }
  | .startup => { map with startup := value }
  | .cleanup => { map with cleanup := value }
  | .input => { map with input := value }
  | .cmd => { map with cmd := value }
  | .output => { map with output := value }

/-- The map whose values are given by a function of the tag. -/
def ofFn (f : Tag → α) : TagMap α where
  description := f .description
  main := f .main
  flags := f .flags
  timeout := f .timeout
  comment := f .comment
  startup := f .startup
  cleanup := f .cleanup
  input := f .input
  cmd := f .cmd
  output := f .output

/-- Maps that agree on every tag are equal. -/
theorem ext {first second : TagMap α} (agree : ∀ tag, first.get tag = second.get tag) :
    first = second := by
  -- Each field is the value at its own tag.
  cases first
  cases second
  have := agree .description
  have := agree .main
  have := agree .flags
  have := agree .timeout
  have := agree .comment
  have := agree .startup
  have := agree .cleanup
  have := agree .input
  have := agree .cmd
  have := agree .output
  simp_all [get]

@[simp] theorem get_ofFn (f : Tag → α) (tag : Tag) : (ofFn f).get tag = f tag := by
  cases tag <;> rfl

@[simp] theorem get_set_self (map : TagMap α) (tag : Tag) (value : α) :
    (map.set tag value).get tag = value := by
  cases tag <;> rfl

/-- Setting one tag leaves the others alone. -/
theorem get_set_of_ne (map : TagMap α) {tag other : Tag} (value : α) (differ : other ≠ tag) :
    (map.set tag value).get other = map.get other := by
  -- A tag that is not the one set reads a field that was kept.
  cases tag <;> cases other <;> first | rfl | exact absurd rfl differ

end TagMap

end TaggedTests
