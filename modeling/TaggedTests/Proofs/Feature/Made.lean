import Mathlib.Data.List.Nodup
import TaggedTests.Proofs.Feature
import TaggedTests.Suite.Render

/-!
Features as they are made from a registry, and how the written order of their modifiers makes them
anew.
-/

namespace TaggedTests

namespace Feature

/-- A feature that was made from a registry by adding blocks, modifiers and whole features. -/
inductive Made (registry : Registry) : Feature → Prop where
  | feature (tag : Tag) : Made registry (registry.feature tag)
  | push {feature : Feature} (made : Made registry feature) (block : Text) :
    Made registry (feature.push block)
  | apply {feature : Feature} (made : Made registry feature) (modifier : Modifier) :
    Made registry (feature.apply modifier)
  | merge {feature newer : Feature} (made : Made registry feature) (more : Made registry newer) :
    Made registry (feature.merge newer)

/-- The active separator is forced by a modifier of the feature or, without such a modifier, is the
one configured for its tag. -/
structure Settled (registry : Registry) (feature : Feature) : Prop where
  configured : feature.modifiers.forcesSeparator = false →
    feature.separator = (registry.spec feature.tag).separator
  forced : feature.modifiers.forcesSeparator = true →
    ∃ modifier, feature.modifiers.has modifier = true ∧
      modifier.separator? = some feature.separator

variable {registry : Registry} {feature newer : Feature}

/-- A modifier that is recorded leaves the separator settled. -/
theorem Settled.apply (settled : Settled registry feature) (modifier : Modifier) :
    Settled registry (feature.apply modifier) := by
  have forces := Modifiers.forcesSeparator_insert feature.modifiers modifier
  cases own : modifier.separator? with
  | none =>
    -- Nothing changes for the separator, and no modifier is lost.
    rw [own, Option.isSome_none, Bool.or_false] at forces
    refine ⟨fun free => ?_, fun bound => ?_⟩
    · simpa [Feature.apply, own] using settled.configured (forces ▸ free)
    · obtain ⟨former, member, active⟩ := settled.forced (forces ▸ bound)
      exact ⟨former, by simp [Feature.apply, member], by simpa [Feature.apply, own] using active⟩
  | some separator =>
    -- The modifier itself forces the separator that is now active.
    rw [own, Option.isSome_some, Bool.or_true] at forces
    refine ⟨fun free => ?_, fun _ => ⟨modifier, by simp [Feature.apply], ?_⟩⟩
    · exact absurd (forces.symm.trans free) (by decide)
    · simp [Feature.apply, own]

/-- Merging features with settled separators gives one with a settled separator. -/
theorem Settled.merge (settled : Settled registry feature) (later : Settled registry newer) :
    Settled registry (feature.merge newer) := by
  have forces := Modifiers.forcesSeparator_union feature.modifiers newer.modifiers
  cases own : newer.modifiers.forcesSeparator with
  | false =>
    -- The separator is kept, and so are the modifiers that may force it.
    rw [own, Bool.or_false] at forces
    refine ⟨fun free => ?_, fun bound => ?_⟩
    · simpa [Feature.merge, own] using settled.configured (forces ▸ free)
    · obtain ⟨modifier, member, active⟩ := settled.forced (forces ▸ bound)
      exact ⟨modifier, by simp [Feature.merge, member], by simpa [Feature.merge, own] using active⟩
  | true =>
    -- The newer separator is taken over together with the modifier that forces it.
    rw [own, Bool.or_true] at forces
    refine ⟨fun free => ?_, fun _ => ?_⟩
    · exact absurd (forces.symm.trans free) (by decide)
    · obtain ⟨modifier, member, active⟩ := later.forced own
      exact ⟨modifier, by simp [Feature.merge, member], by simpa [Feature.merge, own] using active⟩

/-- However a feature was made, its separator is settled. -/
theorem Made.settled (made : Made registry feature) : Settled registry feature := by
  -- Whatever replaces the active separator also leaves a modifier that forces it.
  induction made with
  | feature tag => exact ⟨fun _ => rfl, fun bound => by simp [Registry.feature, empty] at bound⟩
  | push _ block ih => exact ⟨ih.configured, ih.forced⟩
  | apply _ modifier ih => exact ih.apply modifier
  | merge _ _ ih later => exact ih.merge later

/-- Ranks of modifiers are among those that are written. -/
theorem modifierRank_mem (feature : Feature) (modifier : Modifier) :
    feature.modifierRank modifier ∈ [0, 1, 2] := by
  unfold modifierRank
  -- A modifier forces no separator, another one than the active one, or the active one.
  split
  · simp
  · split <;> simp

/-- The modifiers that are written last. -/
def lastModifiers (feature : Feature) : List Modifier :=
  feature.modifiers.toList.filter fun modifier => feature.modifierRank modifier = 2

/-- The modifiers that are written last are those that force the active separator. -/
theorem mem_lastModifiers {modifier : Modifier} :
    modifier ∈ feature.lastModifiers ↔
      feature.modifiers.has modifier = true ∧ modifier.separator? = some feature.separator := by
  -- The last rank is the one of modifiers whose separator is the active one.
  have rank : feature.modifierRank modifier = 2 ↔
      modifier.separator? = some feature.separator := by
    unfold modifierRank
    split
    · next none => simp [none]
    · next separator some =>
      rw [some, Option.some_inj]
      split <;> simp_all
  simp [lastModifiers, rank]

/-- Other modifiers are written before the last ones. -/
theorem lastModifiers_suffix (feature : Feature) :
    feature.lastModifiers <:+ feature.writtenModifiers := by
  -- In front of the modifiers of the last rank stand those of the other two.
  refine ⟨[0, 1].flatMap fun rank => feature.modifiers.toList.filter fun modifier =>
    feature.modifierRank modifier = rank, ?_⟩
  simp [writtenModifiers, lastModifiers]

/-- Exactly the modifiers of a feature are written. -/
theorem mem_writtenModifiers {modifier : Modifier} :
    modifier ∈ feature.writtenModifiers ↔ feature.modifiers.has modifier = true := by
  -- Modifiers are written rank by rank, and every one of them has a rank.
  have rank := feature.modifierRank_mem modifier
  simp only [writtenModifiers, List.mem_flatMap, List.mem_filter, decide_eq_true_eq,
    Modifiers.mem_toList]
  constructor
  · rintro ⟨_, _, member, _⟩
    exact member
  · exact fun member => ⟨_, rank, member, rfl⟩

/-- No modifier is written twice. -/
theorem nodup_writtenModifiers (feature : Feature) : feature.writtenModifiers.Nodup := by
  -- A rank lists each modifier once, and no modifier has two ranks.
  have listed : feature.modifiers.toList.Nodup := List.Nodup.filter _ (by decide)
  refine List.nodup_flatMap.2 ⟨fun _ _ => listed.filter _, ?_⟩
  refine List.Pairwise.imp (fun differ modifier first second => ?_) (by decide : [0, 1, 2].Nodup)
  simp only [List.mem_filter, decide_eq_true_eq] at first second
  exact differ (first.2.symm.trans second.2)

/-- The last separator that the written modifiers force is the active one; without any, the active
one is that of the tag. -/
theorem Settled.getLast?_separators (settled : Settled registry feature) :
    (feature.writtenModifiers.filterMap Modifier.separator?).getLast?.getD
      (registry.spec feature.tag).separator = feature.separator := by
  cases forced : feature.modifiers.forcesSeparator with
  | false =>
    -- No modifier has a separator, so that the one of the tag is kept.
    have free : feature.writtenModifiers.filterMap Modifier.separator? = [] := by
      refine List.filterMap_eq_nil_iff.2 fun modifier written => ?_
      by_contra some
      have bound := Modifiers.forcesSeparator_iff.2
        ⟨modifier, mem_writtenModifiers.1 written, Option.isSome_iff_ne_none.2 some⟩
      simp [forced] at bound
    simp [free, settled.configured forced]
  | true =>
    -- There are modifiers that are written last, and all of them force the active separator.
    obtain ⟨modifier, member, active⟩ := settled.forced forced
    obtain ⟨earlier, split⟩ := feature.lastModifiers_suffix
    obtain ⟨separator, last⟩ : ∃ separator,
        (feature.lastModifiers.filterMap Modifier.separator?).getLast? = some separator :=
      Option.ne_none_iff_exists'.1 fun none => by
        rw [List.getLast?_eq_none_iff, List.filterMap_eq_nil_iff] at none
        simp [none modifier (mem_lastModifiers.2 ⟨member, active⟩)] at active
    obtain ⟨final, inside, forces⟩ := List.mem_filterMap.1 (List.mem_of_getLast? last)
    rw [← split, List.filterMap_append, List.getLast?_append, last, Option.some_or,
      Option.getD_some]
    exact Option.some_inj.1 (forces.symm.trans (mem_lastModifiers.1 inside).2)

/-- Recording the written modifiers in an empty feature of the tag makes the feature anew. -/
theorem Settled.applyAll_writtenModifiers (settled : Settled registry feature)
    (contents : List Text) :
    (registry.featureOf feature.tag contents).applyAll feature.writtenModifiers =
      feature.withContents contents := by
  -- Tag and blocks are given, the modifiers are the same set, and the last separator is the active
  -- one.
  let anew := (registry.featureOf feature.tag contents).applyAll feature.writtenModifiers
  have tag : anew.tag = feature.tag := tag_applyAll _ _
  have blocks : anew.contents = contents := contents_applyAll _ _
  have modifiers : anew.modifiers = feature.modifiers := by
    refine Modifiers.ext fun modifier => ?_
    rw [has_applyAll, Bool.eq_iff_iff]
    simp [mem_writtenModifiers, Registry.featureOf, Registry.feature, withContents, empty]
  have separator : anew.separator = feature.separator :=
    (separator_applyAll _ _).trans settled.getLast?_separators
  calc anew = ⟨anew.tag, anew.contents, anew.modifiers, anew.separator⟩ := rfl
    _ = feature.withContents contents := by rw [tag, blocks, modifiers, separator]; rfl

end Feature

/-- A feature with one block is made from the registry. -/
theorem Registry.made_featureOf (registry : Registry) (tag : Tag) (content : Text) :
    (registry.featureOf tag [content]).Made registry :=
  (Feature.Made.feature tag).push content

end TaggedTests
