import TaggedTests.Registry

/-! What merging and modifiers do to a feature, and which separators can be active in it. -/

namespace TaggedTests

namespace Modifiers

/-- The list of a set holds exactly its modifiers. -/
@[simp] theorem mem_toList {set : Modifiers} {modifier : Modifier} :
    modifier ∈ set.toList ↔ set.has modifier = true := by
  simp [toList, Modifier.mem_all]

/-- A separator is forced exactly when some modifier of the set has one. -/
theorem forcesSeparator_iff {set : Modifiers} :
    set.forcesSeparator = true ↔ ∃ modifier, set.has modifier = true ∧
      modifier.separator?.isSome = true := by
  simp [forcesSeparator]

/-- The empty set has no member. -/
@[simp] theorem has_empty (modifier : Modifier) : has {} modifier = false := by
  cases modifier <;> rfl

/-- No separator is forced without modifiers. -/
@[simp] theorem forcesSeparator_empty : forcesSeparator {} = false := rfl

/-- A further modifier adds its own separator to those that are forced. -/
theorem forcesSeparator_insert (set : Modifiers) (modifier : Modifier) :
    (set.insert modifier).forcesSeparator =
      (set.forcesSeparator || modifier.separator?.isSome) := by
  -- Its members are those of the set and the modifier itself.
  rw [Bool.eq_iff_iff, Bool.or_eq_true]
  simp only [forcesSeparator_iff, has_insert, Bool.or_eq_true, or_and_right, exists_or,
    decide_eq_true_eq, exists_eq_left]

/-- A union forces a separator when one of its sets does. -/
theorem forcesSeparator_union (first second : Modifiers) :
    (first.union second).forcesSeparator = (first.forcesSeparator || second.forcesSeparator) := by
  -- A member of the union that has a separator is a member of one of the sets.
  rw [Bool.eq_iff_iff, Bool.or_eq_true]
  simp only [forcesSeparator_iff, has_union, Bool.or_eq_true, or_and_right, exists_or]

/-- Uniting sets does not depend on how they are grouped. -/
theorem union_assoc (first second third : Modifiers) :
    (first.union second).union third = first.union (second.union third) :=
  ext fun modifier => by simp [Bool.or_assoc]

/-- Uniting with the empty set changes nothing. -/
@[simp] theorem union_empty (set : Modifiers) : set.union {} = set := by simp [union]

end Modifiers

namespace Feature

/-- Merging three features of a tag does not depend on how they are grouped. -/
theorem merge_assoc {first second : Feature} (third : Feature) (same : first.tag = second.tag) :
    (first.merge second).merge third = first.merge (second.merge third) := by
  -- Blocks and modifiers accumulate, and the last forced separator stays the active one.
  have scopes : first.tag.scope = second.tag.scope := congrArg Tag.scope same
  simp only [merge, Modifiers.union_assoc, Modifiers.forcesSeparator_union, mk.injEq, true_and]
  constructor
  · cases scope : first.tag.scope <;> simp [← scopes, scope]
  · cases second.modifiers.forcesSeparator <;> cases third.modifiers.forcesSeparator <;> rfl

/-- Recording modifiers leaves the tag alone. -/
@[simp] theorem tag_applyAll (feature : Feature) (modifiers : List Modifier) :
    (feature.applyAll modifiers).tag = feature.tag := by
  -- Each modifier changes the modifiers and the separator only, and the others are applied after
  -- it.
  induction modifiers generalizing feature with
  | nil => rfl
  | cons modifier rest ih => exact ih (feature.apply modifier)

/-- Recording modifiers leaves the blocks alone. -/
@[simp] theorem contents_applyAll (feature : Feature) (modifiers : List Modifier) :
    (feature.applyAll modifiers).contents = feature.contents := by
  -- One modifier leaves the blocks alone, and so do those that are applied after it.
  induction modifiers generalizing feature with
  | nil => rfl
  | cons modifier rest ih => exact ih (feature.apply modifier)

/-- The last recorded modifier that forces a separator decides on the active one. -/
theorem separator_applyAll (feature : Feature) (modifiers : List Modifier) :
    (feature.applyAll modifiers).separator =
      (modifiers.filterMap Modifier.separator?).getLast?.getD feature.separator := by
  -- The separator that is active before a step stands in for one that no later step forces.
  induction modifiers generalizing feature with
  | nil => rfl
  | cons modifier rest ih =>
    have step := ih (feature.apply modifier)
    simp only [applyAll, List.foldl_cons] at step ⊢
    rw [step]
    cases forced : modifier.separator? with
    | none => simp [apply, forced]
    -- A separator that is forced here is the one that later steps start from.
    | some separator => simp [apply, forced, List.getLast?_cons]

/-- A feature has the modifiers that it had and those that were recorded. -/
theorem has_applyAll (feature : Feature) (modifiers : List Modifier) (modifier : Modifier) :
    (feature.applyAll modifiers).modifiers.has modifier =
      (feature.modifiers.has modifier || decide (modifier ∈ modifiers)) := by
  -- Each step of the fold inserts the modifier at hand.
  induction modifiers generalizing feature with
  | nil => simp [applyAll]
  | cons head rest ih =>
    have step := ih (feature.apply head)
    simp only [applyAll, List.foldl_cons] at step ⊢
    rw [step]
    simp [apply, List.mem_cons, Bool.decide_or, Bool.or_assoc]

end Feature

/-- The joined text of a single block is that block. -/
theorem Registry.merged_featureOf (registry : Registry) (tag : Tag) (content : Text) :
    (registry.featureOf tag [content]).merged = content :=
  List.intercalate_singleton

end TaggedTests
