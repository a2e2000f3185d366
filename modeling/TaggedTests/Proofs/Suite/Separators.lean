import TaggedTests.Proofs.Suite.Placement
import TaggedTests.Proofs.Text.Mentions

/-!
What the modifiers and the separator of a feature that was read follow from.

The blocks of a tag act on its feature one after the other, each by the modifiers that its own prose
mentions. A prose without a modifier that forces a separator leaves the active one alone.
-/

namespace TaggedTests

/-- The prose before each of the blocks that go to a tag, in reading order. -/
def prosesFor (tag : Tag) (entries : List Entry) : List Text :=
  (blocksFor tag entries).map Block.prose

namespace Feature

/--
The modifiers and the separator of a feature follow from what is said in prose.

Its modifiers are those that are mentioned. Its separator is the one that is asked for last in the
last prose that asks for any, and the configured one if none does.
-/
structure FollowsFrom (registry : Registry) (tag : Tag) (proses : List Text)
    (feature : Feature) : Prop where
  modifiers : ∀ modifier, feature.modifiers.has modifier = true ↔
    ∃ prose ∈ proses, modifier.keyword <:+: prose
  configured : (∀ prose ∈ proses, ¬ prose.AsksForSeparator) →
    feature.separator = (registry.spec tag).separator
  forced : ∀ before prose behind, proses = before ++ prose :: behind → prose.AsksForSeparator →
    (∀ later ∈ behind, ¬ later.AsksForSeparator) → prose.AsksLastFor feature.separator

/-- What blocks make follows from their prose. -/
theorem followsFrom_ofBlocks (registry : Registry) (tag : Tag) (blocks : List Block) :
    (ofBlocks registry tag blocks).FollowsFrom registry tag (blocks.map Block.prose) := by
  -- The last separator that any prose forces is the one that counts.
  have separator : (ofBlocks registry tag blocks).separator =
      ((blocks.map Block.prose).flatMap Text.forcedSeparators).getLast?.getD
        (registry.spec tag).separator := by
    refine (separator_applyAll (registry.feature tag) _).trans ?_
    rw [List.filterMap_flatMap, List.flatMap_map]
    rfl
  have modifiers (modifier : Modifier) : (ofBlocks registry tag blocks).modifiers.has modifier =
      decide (modifier ∈ blocks.flatMap Block.modifiers) := by
    refine (has_applyAll (registry.feature tag) _ modifier).trans ?_
    simp [Registry.feature, empty]
  refine ⟨fun modifier => ?_, fun without => ?_, fun before prose behind split asks without => ?_⟩
  · rw [modifiers]
    -- A modifier was set if some prose mentions it.
    simp [Block.modifiers, Text.mem_mentionedModifiers]
  · have none : (blocks.map Block.prose).flatMap Text.forcedSeparators = [] :=
      List.flatMap_eq_nil_iff.2 fun prose member =>
        Text.forcedSeparators_eq_nil_iff.2 (without prose member)
    rw [separator, none]
    rfl
  · -- Behind the prose nothing is forced any more.
    have none : behind.flatMap Text.forcedSeparators = [] :=
      List.flatMap_eq_nil_iff.2 fun later member =>
        Text.forcedSeparators_eq_nil_iff.2 (without later member)
    have some : Text.forcedSeparators prose ≠ [] :=
      fun nothing => Text.forcedSeparators_eq_nil_iff.1 nothing asks
    rw [separator, split, List.flatMap_append, List.flatMap_cons, none, List.append_nil,
      List.getLast?_append_of_ne_nil _ some, List.getLast?_eq_getLast_of_ne_nil some]
    exact Text.asksLastFor_of_getLast? (List.getLast?_eq_getLast_of_ne_nil some)

end Feature

/-- What blocks leave under a tag, where there are some, follows from their prose. -/
theorem followsFrom_of_blocksFor {registry : Registry} {tag : Tag} {entries : List Entry}
    {feature : Feature}
    (found : (if blocksFor tag entries = [] then none
      else some (Feature.ofBlocks registry tag (blocksFor tag entries))) = some feature) :
    feature.FollowsFrom registry tag (prosesFor tag entries) := by
  -- Without blocks there is no feature, and otherwise it is made of all of them.
  split at found
  · cases found
  · cases found
    exact Feature.followsFrom_ofBlocks registry tag _

namespace Suite

/--
The separator and the modifiers of every feature follow from the prose before its blocks.

The tests of a bracketed text are made of groups of its blocks. Each feature of a test holds the
contents that its group has for the tag, and what the feature has recorded follows from the prose
before these blocks. Each feature of the file follows in this way from the prose before all blocks
of its tag, also before those that were replaced.
-/
theorem read_follows_prose (registry : Registry) (options : ReadOptions) (raw : Text)
    (bracketed : options.format = .bracketed) (balanced : Block.Balanced raw) :
    let entries := Block.entries (Block.ranked (Text.normalizeLines raw))
    ∃ suite groups, read registry options raw = .ok suite ∧
      Divided registry entries groups suite.tests ∧
      (∀ (place : Nat) test, suite.tests[place]? = some test →
        ∃ group, groups[place]? = some group ∧
          ∀ tag feature, test.features.get? tag = some feature →
            feature.contents = contentsFor tag group ∧
            feature.FollowsFrom registry tag (prosesFor tag group)) ∧
      ∀ tag feature, suite.globals.get? tag = some feature →
        feature.FollowsFrom registry tag (prosesFor tag entries) := by
  intro entries
  obtain ⟨groups, -, divided⟩ :=
    exists_divided_ofBlocks registry (Block.ranked (Text.normalizeLines raw))
  refine ⟨_, groups, read_of_balanced bracketed balanced, divided, fun place test found => ?_,
    fun tag feature found => ?_⟩
  · rw [divided.tests, List.getElem?_mapIdx] at found
    obtain ⟨group, there, rfl⟩ := Option.map_eq_some_iff.1 found
    refine ⟨group, there, fun tag feature located => ?_⟩
    -- A test has no feature of a tag of the file.
    cases scope : tag.scope with
    | global => cases located.symm.trans (Test.get?_ofGroup_of_global scope)
    | perTest =>
      have contents := Test.contentsOf_ofGroup registry (Test.titleAt place) group scope
      rw [Features.contentsOf, located] at contents
      rw [Test.get?_ofGroup scope] at located
      exact ⟨contents, followsFrom_of_blocksFor located⟩
  · rw [globals_ofBlocks] at found
    cases scope : tag.scope with
    | perTest => cases found.symm.trans (Features.get?_ofEntries_of_perTest scope)
    | global =>
      rw [Features.get?_ofEntries scope] at found
      exact followsFrom_of_blocksFor found

/-- A tag of the file that comes twice: the separator that the first prose asks for last stays, as
the second prose asks for none. -/
theorem read_follows_prose_replaced :
    let raw : Text := "MAIN mENDNL mENDNONE /\x7ba\x7d/ MAIN mSHUFFLED /\x7bb\x7d/".toList
    ∃ suite feature, read .builtin {} raw = .ok suite ∧
      suite.globals.get? .main = some feature ∧ feature.modifiers.has .shuffled = true ∧
      Text.AsksLastFor "MAIN mENDNL mENDNONE ".toList feature.separator := by
  intro raw
  have balanced : Block.Balanced raw := ⟨by decide +kernel, by decide +kernel⟩
  obtain ⟨suite, groups, read, -, -, globals⟩ := read_follows_prose .builtin {} raw rfl balanced
  have same := Except.ok.inj (read.symm.trans (read_of_balanced rfl balanced))
  have some : ((ofBlocks .builtin (Block.ranked (Text.normalizeLines raw))).globals.get?
      .main).isSome = true := by decide +kernel
  obtain ⟨feature, found⟩ := Option.isSome_iff_exists.1 (same ▸ some)
  -- The block of the first prose is replaced, while its modifiers are still asked for.
  have proses : prosesFor .main (Block.entries (Block.ranked (Text.normalizeLines raw))) =
      ["MAIN mENDNL mENDNONE ".toList, " MAIN mSHUFFLED ".toList] := by decide +kernel
  have follows := globals .main feature found
  rw [proses] at follows
  refine ⟨suite, feature, read, found, (follows.modifiers .shuffled).2
    ⟨_, List.mem_cons_of_mem _ (List.mem_singleton_self _), by decide⟩, ?_⟩
  -- No prose forces a separator behind the first one.
  refine follows.forced [] _ _ rfl ⟨.endNone, rfl, by decide⟩ fun later member => ?_
  rw [List.mem_singleton.1 member]
  rintro ⟨modifier, forces, occurs⟩
  cases modifier <;> first | exact absurd occurs (by decide) | cases forces

end Suite

end TaggedTests
