import TaggedTests.Proofs.Features

/-!
Merging features of one tag.

A feature that is merged into another one acts on it by the modifiers that it has recorded, in their
order, and by its blocks. So it makes no difference how a sequence of features is grouped.
-/

namespace TaggedTests

namespace Feature

/-- The feature with more blocks at its end. -/
def pushAll (feature : Feature) (blocks : List Text) : Feature := blocks.foldl push feature

/-- A change to a feature: a block at its end, or a modifier. -/
inductive Edit where
  | push (block : Text)
  | apply (modifier : Modifier)
  deriving DecidableEq, Repr

/-- The block that a change puts at the end, if it does. -/
def Edit.block? : Edit → Option Text
  | push block => some block
  | apply _ => none

/-- The modifier that a change records, if it does. -/
def Edit.modifier? : Edit → Option Modifier
  | push _ => none
  | apply modifier => some modifier

/-- The feature after a change. -/
def edit (feature : Feature) : Edit → Feature
  | .push block => feature.push block
  | .apply modifier => feature.apply modifier

/-- The feature after changes that are made one after the other. -/
def editAll (feature : Feature) (edits : List Edit) : Feature := edits.foldl edit feature

/-- Features of which a sequence is merged into one, grouped in some way. -/
inductive Grouping where
  | single (feature : Feature)
  | joined (first second : Grouping)
  deriving DecidableEq, Repr

namespace Grouping

/-- The features of a grouping, in order. -/
def features : Grouping → List Feature
  | single feature => [feature]
  | joined first second => first.features ++ second.features

/-- The feature that a grouping is merged into. -/
def merged : Grouping → Feature
  | single feature => feature
  | joined first second => first.merged.merge second.merged

end Grouping

/-- Blocks at the end follow those that are there. -/
theorem pushAll_eq (feature : Feature) (blocks : List Text) :
    feature.pushAll blocks = feature.withContents (feature.contents ++ blocks) := by
  induction blocks generalizing feature with
  | nil => simp [pushAll, withContents]
  | cons block rest ih =>
    -- The first block is pushed already when the others follow.
    refine (ih (feature.push block)).trans ?_
    simp [push, withContents]

/-- Modifiers can be recorded before or after the blocks are replaced. -/
theorem applyAll_withContents (feature : Feature) (contents : List Text)
    (modifiers : List Modifier) :
    (feature.withContents contents).applyAll modifiers =
      (feature.applyAll modifiers).withContents contents := by
  -- No modifier looks at the blocks.
  induction modifiers generalizing feature with
  | nil => rfl
  | cons modifier rest ih => exact ih (feature.apply modifier)

/-- Modifiers can be recorded before or after a block is put at the end. -/
theorem applyAll_push (feature : Feature) (block : Text) (modifiers : List Modifier) :
    (feature.push block).applyAll modifiers = (feature.applyAll modifiers).push block := by
  -- Pushing a block replaces the contents, and of those the modifiers keep whatever is there.
  refine (applyAll_withContents feature (feature.contents ++ [block]) modifiers).trans ?_
  rw [push, contents_applyAll]
  rfl

/-- Of changes in any order, the modifiers can be recorded first, and the blocks put at the end
afterwards. -/
theorem editAll_eq (feature : Feature) (edits : List Edit) :
    feature.editAll edits = (feature.applyAll (edits.filterMap Edit.modifier?)).pushAll
      (edits.filterMap Edit.block?) := by
  induction edits generalizing feature with
  | nil => rfl
  | cons edit rest ih =>
    cases edit with
    | push block =>
      -- A block that comes first is handed on past the modifiers that come after it.
      refine (ih (feature.push block)).trans ?_
      rw [applyAll_push]
      rfl
    | apply modifier => exact ih (feature.apply modifier)

/-- A feature acts by the modifiers that were recorded in it on one that it is merged into. -/
theorem merge_applyAll (feature : Feature) {newer : Feature} (plain : newer.modifiers = {})
    (modifiers : List Modifier) :
    feature.merge (newer.applyAll modifiers) =
      (feature.applyAll modifiers).withContents (feature.merge newer).contents := by
  -- A separator is forced exactly if one of the modifiers has one, and the last of them counts.
  have forces : (newer.applyAll modifiers).modifiers.forcesSeparator =
      (modifiers.filterMap Modifier.separator?).getLast?.isSome := by
    rw [Bool.eq_iff_iff, Modifiers.forcesSeparator_iff]
    simp [has_applyAll, plain]
  have united : feature.modifiers.union (newer.applyAll modifiers).modifiers =
      (feature.applyAll modifiers).modifiers := by
    refine Modifiers.ext fun modifier => ?_
    rw [Modifiers.has_union, has_applyAll, has_applyAll, plain, Modifiers.has_empty,
      Bool.false_or]
  simp only [merge, withContents, united, forces, separator_applyAll, tag_applyAll,
    contents_applyAll]
  cases (modifiers.filterMap Modifier.separator?).getLast? <;> rfl

/-- A feature that was built up by changes acts by its modifiers, and its blocks are joined to those
that are there, or replace them. -/
theorem merge_editAll (feature : Feature) (separator : Text) (edits : List Edit) :
    feature.merge ((empty feature.tag separator).editAll edits) =
      (feature.applyAll (edits.filterMap Edit.modifier?)).withContents
        (match feature.tag.scope with
          | .perTest => feature.contents ++ edits.filterMap Edit.block?
          | .global => edits.filterMap Edit.block?) := by
  -- The blocks could have been there before any modifier was recorded.
  have built : (empty feature.tag separator).editAll edits =
      ((empty feature.tag separator).withContents (edits.filterMap Edit.block?)).applyAll
        (edits.filterMap Edit.modifier?) := by
    rw [editAll_eq, pushAll_eq, contents_applyAll, applyAll_withContents]
    rfl
  rw [built, merge_applyAll feature rfl]
  rfl

namespace Grouping

/-- A grouping of features of one tag is merged into a feature of that tag. -/
theorem tag_merged {grouping : Grouping} {tag : Tag}
    (same : ∀ feature ∈ grouping.features, feature.tag = tag) : grouping.merged.tag = tag := by
  -- The tag of a group is that of its first feature.
  induction grouping with
  | single feature => exact same feature (List.mem_singleton_self feature)
  | joined first second ihFirst ihSecond =>
    exact ihFirst fun feature member => same feature (List.mem_append_left _ member)

end Grouping

end Feature

namespace Features

open Feature (Grouping)

/-- A container that was built up from the one without features. -/
inductive Built : Features → Prop where
  | empty : Built .empty
  | add {features : Features} (built : Built features) (feature : Feature) :
    Built (features.add feature)
  | replace {features : Features} (built : Built features) (feature : Feature) :
    Built (features.replace feature)

/-- However a container was built up, it keeps each feature under its own tag. -/
theorem Built.keyed {features : Features} (built : Built features) : features.Keyed := by
  -- Every operation puts a feature under its own tag.
  induction built with
  | empty => exact keyed_empty
  | add _ feature ih => exact ih.add feature
  | replace _ feature ih => exact ih.replace feature

/-- Adding what a grouping of features of one tag is merged into is adding the features in order. -/
theorem add_merged {features : Features} (keyed : features.Keyed) {grouping : Grouping} {tag : Tag}
    (same : ∀ feature ∈ grouping.features, feature.tag = tag) :
    features.add grouping.merged = grouping.features.foldl add features := by
  -- Two groups of one tag can be added one after the other in place of what they are merged into.
  induction grouping generalizing features with
  | single feature => rfl
  | joined first second ihFirst ihSecond =>
    have front : ∀ feature ∈ first.features, feature.tag = tag :=
      fun feature member => same feature (List.mem_append_left _ member)
    have back : ∀ feature ∈ second.features, feature.tag = tag :=
      fun feature member => same feature (List.mem_append_right _ member)
    rw [Grouping.features, List.foldl_append, ← ihFirst keyed front,
      ← ihSecond (keyed.add _) back,
      add_add keyed ((Grouping.tag_merged front).trans (Grouping.tag_merged back).symm)]
    rfl

/-- Adding features of one tag in groups is adding them one by one. -/
theorem foldl_add_merged {features : Features} (keyed : features.Keyed) {tag : Tag}
    {groupings : List Grouping}
    (same : ∀ grouping ∈ groupings, ∀ feature ∈ grouping.features, feature.tag = tag) :
    (groupings.map Grouping.merged).foldl add features =
      (groupings.flatMap Grouping.features).foldl add features := by
  induction groupings generalizing features with
  | nil => rfl
  | cons grouping rest ih =>
    obtain ⟨own, others⟩ := List.forall_mem_cons.1 same
    -- Adding a group is adding its features, and what comes of it is keyed again.
    rw [List.map_cons, List.foldl_cons, ih (keyed.add _) others, List.flatMap_cons,
      List.foldl_append, add_merged keyed own]

end Features

namespace Feature

/--
Merging features of one tag is associative and acts block by block.

A feature that was built up by changes acts on another one as if those changes had been made to it:
its modifiers are recorded in their order, and its blocks are put at the end or, for a tag of the
file, take the place of those that were there. So a container comes to the same however a sequence
of features of one tag is grouped before it is added.
-/
theorem merge_laws :
    (∀ first second third : Feature, first.tag = second.tag → second.tag = third.tag →
      first.merge (second.merge third) = (first.merge second).merge third) ∧
    (∀ (feature : Feature) (separator : Text) (edits : List Edit),
      let newer := (empty feature.tag separator).editAll edits
      let changed := feature.applyAll (edits.filterMap Edit.modifier?)
      (feature.tag.scope = .perTest →
        feature.merge newer = changed.pushAll (edits.filterMap Edit.block?)) ∧
      (feature.tag.scope = .global → feature.merge newer = changed.withContents newer.contents)) ∧
    ∀ (features : Features) (tag : Tag) (groupings : List Grouping), features.Built →
      (∀ grouping ∈ groupings, ∀ feature ∈ grouping.features, feature.tag = tag) →
      (groupings.map Grouping.merged).foldl Features.add features =
        (groupings.flatMap Grouping.features).foldl Features.add features := by
  refine ⟨fun first second third same _ => (merge_assoc third same).symm,
    fun feature separator edits => ⟨fun perTest => ?_, fun global => ?_⟩,
    fun features tag groupings built same => Features.foldl_add_merged built.keyed same⟩
  · -- For a tag of a single test the blocks are added to those that are there.
    rw [merge_editAll, pushAll_eq, perTest, contents_applyAll]
  · -- For a global tag they replace those that are there.
    have blocks : ((empty feature.tag separator).editAll edits).contents =
        edits.filterMap Edit.block? := by
      rw [editAll_eq, pushAll_eq, contents_applyAll]
      rfl
    rw [merge_editAll, blocks, global]

/-- Three features, of which the second forces a separator: it stays forced, however they are
grouped. -/
theorem merge_laws_forced :
    let first : Feature := ⟨.input, ["1".toList], {}, ['\n']⟩
    let edits : List Edit := [.apply .endNone, .push "2".toList, .apply .shuffled]
    let second := (empty .input [' ']).editAll edits
    let third : Feature := ⟨.input, ["3".toList], {}, [' ']⟩
    first.merge (second.merge third) = (first.merge second).merge third ∧
      first.merge second = (first.applyAll [.endNone, .shuffled]).pushAll ["2".toList] ∧
      (Features.empty.add first).add (second.merge third) =
        ((Features.empty.add first).add second).add third ∧
      (first.merge (second.merge third)).separator = [] := by
  intro first edits second third
  obtain ⟨assoc, acts, grouped⟩ := merge_laws
  -- The three laws in turn, the last one for a feature alone and a group of two.
  refine ⟨assoc first second third rfl rfl, (acts first [' '] edits).1 rfl, ?_, by decide⟩
  exact grouped .empty .input
    [.single first, .joined (.single second) (.single third)] .empty (by decide)

end Feature

end TaggedTests
