import Mathlib.Data.List.Basic
import TaggedTests.Features
import TaggedTests.Proofs.Feature

/-! A container keeps each feature under its own tag, and adding to it only appends or replaces
blocks of that tag. -/

namespace TaggedTests

namespace Features

/-- Containers that give the same feature for every tag are equal. -/
theorem ext {first second : Features} (agree : ∀ tag, first.get? tag = second.get? tag) :
    first = second :=
  congrArg Features.mk (TagMap.ext agree)

/-- A container is empty exactly when no tag has a feature. -/
theorem isEmpty_iff {features : Features} :
    features.isEmpty = true ↔ ∀ tag, features.get? tag = none := by
  simp [isEmpty, toList, List.isEmpty_iff, List.filterMap_eq_nil_iff, Tag.mem_all]

/-- The feature that a tag has once another one is added under it. -/
theorem get?_add_self (features : Features) (feature : Feature) :
    (features.add feature).get? feature.tag =
      some (((features.get? feature.tag).map (·.merge feature)).getD feature) := by
  -- A feature that was there stays under its tag, with the new one merged into it.
  unfold add
  cases present : features.get? feature.tag with
  | none => simp
  | some former => simp [get?]

/-- Adding a feature leaves those of other tags alone. -/
theorem get?_add_of_ne (features : Features) {feature : Feature} {tag : Tag}
    (differ : tag ≠ feature.tag) : (features.add feature).get? tag = features.get? tag := by
  -- Where its tag is taken, the feature is merged into the one there; otherwise it is put there.
  -- Either way no other place changes.
  unfold add
  split
  · exact get?_replace_of_ne features differ
  · simp [get?, TagMap.get_set_of_ne _ _ differ]

/-- A tag is without a feature after an addition when it was before and is not the tag added to. -/
theorem get?_add_eq_none_iff {features : Features} {feature : Feature} {tag : Tag} :
    (features.add feature).get? tag = none ↔ features.get? tag = none ∧ tag ≠ feature.tag := by
  by_cases same : tag = feature.tag
  · -- The place of the feature itself is taken afterwards, whatever was there.
    subst same
    simp [get?_add_self]
  · simp [get?_add_of_ne features same, same]

/-- A feature that is found after a replacement is the new one or was under another tag before. -/
theorem cases_of_get?_replace {features : Features} {feature found : Feature} {tag : Tag}
    (located : (features.replace feature).get? tag = some found) :
    (tag = feature.tag ∧ found = feature) ∨
      (tag ≠ feature.tag ∧ features.get? tag = some found) := by
  by_cases own : tag = feature.tag
  · -- At its own tag there is now the feature that was put there.
    subst own
    rw [get?_replace_self] at located
    cases located
    exact Or.inl ⟨rfl, rfl⟩
  · rw [get?_replace_of_ne features own] at located
    exact Or.inr ⟨own, located⟩

/-- A feature that is found after an addition is the new one, has it merged in, or was under another
tag before. -/
theorem cases_of_get?_add {features : Features} {feature found : Feature} {tag : Tag}
    (located : (features.add feature).get? tag = some found) :
    (tag = feature.tag ∧ found = feature) ∨
      (∃ former, features.get? tag = some former ∧ tag = feature.tag ∧
        found = former.merge feature) ∨
      (tag ≠ feature.tag ∧ features.get? tag = some found) := by
  by_cases own : tag = feature.tag
  · -- Under its own tag it depends on whether there was a feature.
    subst own
    rw [get?_add_self] at located
    cases present : features.get? feature.tag with
    | none =>
      rw [present] at located
      cases located
      exact Or.inl ⟨rfl, rfl⟩
    | some former =>
      rw [present] at located
      cases located
      exact Or.inr (Or.inl ⟨former, rfl, rfl, rfl⟩)
  · -- Under any other tag nothing has changed.
    rw [get?_add_of_ne features own] at located
    exact Or.inr (Or.inr ⟨own, located⟩)

/-- Every feature is kept under its own tag. -/
def Keyed (features : Features) : Prop :=
  ∀ tag feature, features.get? tag = some feature → feature.tag = tag

/-- The container without features keeps none under a foreign tag. -/
theorem keyed_empty : Keyed empty := by
  intro tag feature found
  simp at found

/-- Replacing a feature keeps each under its own tag. -/
theorem Keyed.replace {features : Features} (keyed : features.Keyed) (feature : Feature) :
    (features.replace feature).Keyed := by
  intro tag found located
  -- What is found under a tag was put there just now or was there before.
  rcases cases_of_get?_replace located with ⟨rfl, rfl⟩ | ⟨-, before⟩
  · rfl
  · exact keyed tag found before

/-- Adding a feature keeps each under its own tag. -/
theorem Keyed.add {features : Features} (keyed : features.Keyed) (feature : Feature) :
    (features.add feature).Keyed := by
  -- A merged feature has the tag of the former one.
  intro tag found located
  rcases cases_of_get?_add located with ⟨rfl, rfl⟩ | ⟨former, present, -, rfl⟩ | ⟨-, before⟩
  · rfl
  · exact keyed tag former present
  · exact keyed tag found before

/-- The tags of the features. -/
def tags (features : Features) : List Tag := features.toList.map Feature.tag

/-- Without features there are no tags. -/
@[simp] theorem tags_empty : empty.tags = [] := by
  simp [tags, toList]

/-- The tags of the features are those under which there is a feature. -/
theorem Keyed.mem_tags_iff {features : Features} (keyed : features.Keyed) {tag : Tag} :
    tag ∈ features.tags ↔ features.get? tag ≠ none := by
  simp only [tags, toList, List.mem_map, List.mem_filterMap, Tag.mem_all, true_and]
  constructor
  · -- A feature that is listed stands under its own tag.
    rintro ⟨feature, ⟨place, found⟩, rfl⟩
    rw [keyed place feature found, found]
    exact Option.some_ne_none feature
  · intro some
    obtain ⟨feature, found⟩ := Option.ne_none_iff_exists'.1 some
    exact ⟨feature, ⟨tag, found⟩, keyed tag feature found⟩

/-- Adding a feature adds its tag. -/
theorem Keyed.mem_tags_add_iff {features : Features} (keyed : features.Keyed) {feature : Feature}
    {tag : Tag} : tag ∈ (features.add feature).tags ↔ tag ∈ features.tags ∨ tag = feature.tag := by
  rw [(keyed.add feature).mem_tags_iff, keyed.mem_tags_iff, Ne, get?_add_eq_none_iff, not_and_or,
    not_not]

/-- Adding to a feature that is there leaves the tags as they are. -/
theorem Keyed.tags_add {features : Features} (keyed : features.Keyed) {feature : Feature}
    (present : feature.tag ∈ features.tags) : (features.add feature).tags = features.tags := by
  obtain ⟨former, found⟩ := Option.ne_none_iff_exists'.1 (keyed.mem_tags_iff.1 present)
  unfold tags toList
  rw [List.map_filterMap, List.map_filterMap]
  -- A merged feature has the tag of the one that it is merged into.
  refine List.filterMap_congr fun tag _ => ?_
  by_cases own : tag = feature.tag
  · rw [own, get?_add_self, found]
    rfl
  · rw [get?_add_of_ne features own]

/-- The features of different tags have different tags. -/
theorem Keyed.nodup_map_tag {features : Features} (keyed : features.Keyed) {tags : List Tag}
    (once : tags.Nodup) : ((tags.filterMap features.get?).map Feature.tag).Nodup := by
  -- Their tags are those of the list at which there is a feature.
  have sublist : ((tags.filterMap features.get?).map Feature.tag).Sublist tags := by
    clear once
    induction tags with
    | nil => exact List.Sublist.refl _
    | cons tag tags ih =>
      cases present : features.get? tag with
      | none =>
        -- A tag without a feature is left out.
        rw [List.filterMap_cons_none present]
        exact ih.cons tag
      | some feature =>
        rw [List.filterMap_cons_some present, List.map_cons, keyed tag feature present]
        exact ih.cons_cons tag
  exact once.sublist sublist

/-- Adding the features of different tags, each changed in some way, fills exactly those tags. -/
theorem get?_foldl_add {features base : Features} (keyed : features.Keyed)
    {change : Feature → Feature} (same : ∀ feature, (change feature).tag = feature.tag)
    {tags : List Tag} (once : tags.Nodup) (fresh : ∀ tag ∈ tags, base.get? tag = none) (tag : Tag) :
    (((tags.filterMap features.get?).map change).foldl add base).get? tag =
      if tag ∈ tags then (features.get? tag).map change else base.get? tag := by
  -- The first tag is filled, if it is, before the others, which leave it alone.
  induction tags generalizing base with
  | nil => simp
  | cons head tags ih =>
    obtain ⟨absent, later⟩ := List.nodup_cons.1 once
    cases present : features.get? head with
    | none =>
      have rest := ih later fun tag member => fresh tag (List.mem_cons_of_mem head member)
      rw [List.filterMap_cons_none present, rest]
      by_cases own : tag = head
      · subst own
        simp [absent, present, fresh]
      · simp [own]
    | some feature =>
      -- The changed feature goes to the first tag, so that the other tags are still free.
      have tagged : (change feature).tag = head :=
        (same feature).trans (keyed head feature present)
      have rest := @ih (base.add (change feature)) later fun tag member => by
        rw [get?_add_of_ne base (by rintro rfl; exact absent (tagged ▸ member))]
        exact fresh tag (List.mem_cons_of_mem head member)
      rw [List.filterMap_cons_some present, List.map_cons, List.foldl_cons, rest]
      by_cases own : tag = head
      · subst own
        have added := get?_add_self base (change feature)
        rw [tagged, fresh tag (List.mem_cons_self ..)] at added
        simp [absent, present, added]
      · simp [own, get?_add_of_ne base (tagged ▸ own)]

/-- The blocks of a tag; none when it has no feature. -/
def contentsOf (features : Features) (tag : Tag) : List Text :=
  ((features.get? tag).map Feature.contents).getD []

/-- Adding two features of one tag is adding the second merged into the first. -/
theorem add_add {features : Features} (keyed : features.Keyed) {first second : Feature}
    (same : first.tag = second.tag) :
    (features.add first).add second = features.add (first.merge second) := by
  -- A feature that was there before has the same tag, and merging three is associative.
  refine ext fun tag => ?_
  -- Both ways fill the same tag.
  have mergedTag : (first.merge second).tag = second.tag := same
  have once : (features.add first).get? second.tag =
      some (((features.get? second.tag).map (·.merge first)).getD first) :=
    same ▸ get?_add_self features first
  have whole : (features.add (first.merge second)).get? second.tag =
      some (((features.get? second.tag).map (·.merge (first.merge second))).getD
        (first.merge second)) :=
    mergedTag ▸ get?_add_self features (first.merge second)
  by_cases own : tag = second.tag
  · subst own
    rw [get?_add_self, once, whole]
    cases present : features.get? second.tag with
    | none => rfl
    | some former =>
      have tagged := (keyed second.tag former present).trans same.symm
      simp [Feature.merge_assoc second tagged]
  · rw [get?_add_of_ne _ own, get?_add_of_ne _ (same ▸ own), get?_add_of_ne _ (mergedTag ▸ own)]

end Features

end TaggedTests
