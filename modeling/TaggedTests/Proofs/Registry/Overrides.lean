import TaggedTests.Proofs.Registry.Layers
import TaggedTests.Suite

/-!
What documents of overrides make of a registry.

However many are applied, each tag keeps its place and its use, and two documents do the same as the
one document that they are together.
-/

namespace TaggedTests

namespace Suite

/-- What is wrong with the text of a time limit is told with the text. -/
theorem readTimeout_ne_noTimeout (raw : Text) : readTimeout raw ≠ .error .noTimeout := by
  unfold readTimeout
  -- A number may be out of range and a text may be no duration, which are other errors.
  split
  · next number _ => cases Duration.ofSeconds number <;> simp [Except.mapError]
  · cases Duration.readSpans raw <;> simp [Except.mapError]

/-- A time limit is never missing where one is configured for its absence. -/
theorem timeout_ne_noTimeout (suite : Suite)
    (configured : (suite.registry.spec .timeout).fallback ≠ none) :
    suite.timeout ≠ .error .noTimeout := by
  -- The file or else the configuration gives a text for the limit.
  have found : suite.globalOrFallback .timeout ≠ none := by
    unfold globalOrFallback
    cases suite.globals.merged? .timeout <;> simp [configured]
  unfold timeout
  split
  · contradiction
  · exact readTimeout_ne_noTimeout _

end Suite

namespace Registry

variable {registry next : Registry} {file : RegistryFile} {files : List RegistryFile} {tag : Tag}

/-- Registries that configure every tag alike are equal. -/
theorem ext {first second : Registry} (agree : ∀ tag, first.spec tag = second.spec tag) :
    first = second :=
  congrArg Registry.mk (TagMap.ext agree)

/-- An override configures its own tag. -/
theorem spec_override_self (registry : Registry) (tag : Tag) (update : TagOverride) :
    (registry.override tag update).spec tag = (registry.spec tag).override update :=
  TagMap.get_set_self ..

/-- An override leaves other tags alone. -/
theorem spec_override_of_ne (registry : Registry) {other : Tag} (update : TagOverride)
    (differ : other ≠ tag) : (registry.override tag update).spec other = registry.spec other :=
  TagMap.get_set_of_ne _ _ differ

/-- A document is applied entry by entry, each to the tag that has its keyword. -/
theorem withOverrides_cons_eq_ok_iff {keyword : Text} {update : TagOverride} :
    registry.withOverrides ((keyword, update) :: file) = .ok next ↔
      ∃ tag : Tag, tag.keyword = keyword ∧
        (registry.override tag update).withOverrides file = .ok next := by
  simp only [← Tag.ofKeyword?_eq_some_iff]
  rw [withOverrides]
  -- The keyword of the first entry has to be that of a tag, and then the rest is applied.
  cases Tag.ofKeyword? keyword <;> simp

/-- A document is accepted exactly when every keyword in it is one of a tag. -/
theorem exists_withOverrides_iff (registry : Registry) (file : RegistryFile) :
    (∃ next, registry.withOverrides file = .ok next) ↔
    ∀ keyword ∈ file.keywords, ∃ tag : Tag, tag.keyword = keyword := by
  induction file generalizing registry with
  | nil => simp [withOverrides, RegistryFile.keywords]
  | cons entry file ih =>
    obtain ⟨keyword, update⟩ := entry
    have keys : RegistryFile.keywords ((keyword, update) :: file) =
      keyword :: RegistryFile.keywords file := rfl
    simp only [withOverrides_cons_eq_ok_iff]
    rw [keys, List.forall_mem_cons, exists_comm]
    -- Whether the others are accepted does not depend on the tag in front.
    simp only [exists_and_left, ih, exists_and_right]

/-- What a document does is done tag by tag. -/
theorem withOverrides_keeps {motive : Registry → Prop}
    (step : ∀ registry (tag : Tag) update, tag.keyword ∈ file.keywords → motive registry →
      motive (registry.override tag update))
    (start : motive registry) (applied : registry.withOverrides file = .ok next) : motive next := by
  induction file generalizing registry with
  | nil =>
    cases applied
    exact start
  | cons entry file ih =>
    -- The first entry overrides a tag that is mentioned, and the rest starts from what comes of it.
    obtain ⟨tag, named, rest⟩ := withOverrides_cons_eq_ok_iff.1 applied
    have mentioned : tag.keyword ∈ RegistryFile.keywords (entry :: file) := named ▸ .head _
    exact ih (fun registry tag update member => step registry tag update (.tail _ member))
      (step registry tag entry.2 mentioned start) rest

/-- A document that gives each keyword once overrides each tag by what it gives for its keyword. -/
theorem spec_of_withOverrides (once : file.keywords.Nodup)
    (applied : registry.withOverrides file = .ok next) (tag : Tag) :
    next.spec tag = (registry.spec tag).override (file.given tag.keyword) := by
  induction file generalizing registry with
  | nil =>
    cases applied
    exact (TagSpec.override_none _).symm
  | cons entry file ih =>
    obtain ⟨keyword, update⟩ := entry
    obtain ⟨fresh, others⟩ := List.nodup_cons.1 once
    obtain ⟨own, rfl, rest⟩ := withOverrides_cons_eq_ok_iff.1 applied
    rw [ih others rest]
    by_cases same : tag = own
    · -- The others give nothing for the keyword in front.
      subst same
      rw [spec_override_self, RegistryFile.given_of_not_mem fresh, TagSpec.override_none,
        RegistryFile.given_cons_self]
    · -- Another keyword is given what the others give it.
      rw [spec_override_of_ne _ _ same,
        RegistryFile.given_cons_of_ne fun equal => same (Tag.keyword_injective equal)]

/-- Applying two documents is applying the one document that they are together. -/
theorem withOverrides_layered_eq_ok_iff {older newer : RegistryFile}
    (olderOnce : older.keywords.Nodup) (newerOnce : newer.keywords.Nodup) :
    registry.withOverrides (older.layered newer) = .ok next ↔
      ∃ middle, registry.withOverrides older = .ok middle ∧
        middle.withOverrides newer = .ok next := by
  -- Where both ways go through they end in the same registry, as every tag is given the same
  -- fields.
  have agree {middle final whole : Registry} (first : registry.withOverrides older = .ok middle)
      (second : middle.withOverrides newer = .ok final)
      (both : registry.withOverrides (older.layered newer) = .ok whole) : whole = final :=
    ext fun tag => by
      rw [spec_of_withOverrides (RegistryFile.ordered_layered newerOnce).nodup both,
        spec_of_withOverrides newerOnce second, spec_of_withOverrides olderOnce first,
        TagSpec.override_override, RegistryFile.given_layered]
  constructor
  · intro both
    -- A document is applied exactly if it has known keywords only, and both have those of the
    -- layered one.
    have known := (exists_withOverrides_iff _ _).1 ⟨next, both⟩
    obtain ⟨middle, first⟩ := (exists_withOverrides_iff registry _).2
      fun keyword member => known keyword (RegistryFile.mem_keywords_layered.2 (.inl member))
    obtain ⟨final, second⟩ := (exists_withOverrides_iff middle _).2
      fun keyword member => known keyword (RegistryFile.mem_keywords_layered.2 (.inr member))
    exact ⟨middle, first, agree first second both ▸ second⟩
  · rintro ⟨middle, first, second⟩
    obtain ⟨whole, both⟩ := (exists_withOverrides_iff registry _).2
      fun keyword member => (RegistryFile.mem_keywords_layered.1 member).elim
        ((exists_withOverrides_iff _ _).1 ⟨middle, first⟩ keyword)
        ((exists_withOverrides_iff _ _).1 ⟨next, second⟩ keyword)
    rw [both, agree first second both]

/-- The registry that documents make of the built-in one, applied one after the other. -/
def ofFiles (files : List RegistryFile) : Except Text Registry :=
  files.foldlM withOverrides builtin

/-- What documents do is done tag by tag. -/
theorem ofFiles_keeps {motive : Registry → Prop}
    (step : ∀ registry (tag : Tag) update, (∃ file ∈ files, tag.keyword ∈ file.keywords) →
      motive registry → motive (registry.override tag update))
    (start : motive builtin) (applied : ofFiles files = .ok next) : motive next := by
  unfold ofFiles at applied
  -- The induction is on the documents, from whatever registry the first one is applied to.
  generalize builtin = registry at start applied
  induction files generalizing registry with
  | nil =>
    cases applied
    exact start
  | cons file files ih =>
    rw [List.foldlM_cons] at applied
    cases first : registry.withOverrides file with
    | error keyword => simp [first, Bind.bind, Except.bind] at applied
    | ok middle =>
      simp only [first, Bind.bind, Except.bind] at applied
      -- What the first document keeps holds where the second one starts.
      refine ih (fun registry tag update => ?_) middle ?_ applied
      · rintro ⟨other, member, mentioned⟩
        exact step registry tag update ⟨other, .tail _ member, mentioned⟩
      · exact withOverrides_keeps (fun registry tag update mentioned =>
          step registry tag update ⟨file, .head _, mentioned⟩) start first

/-- A registry in which every tag can be used. -/
def Usable (registry : Registry) : Prop := ∀ tag, (registry.spec tag).UsableFor tag

/-- The built-in registry can be used. -/
theorem usable_builtin : builtin.Usable := by
  intro tag
  cases tag <;> exact ⟨rfl, by decide, by decide⟩

/-- An override leaves a registry that can be used. -/
theorem Usable.override (usable : registry.Usable) (tag : Tag) (update : TagOverride) :
    (registry.override tag update).Usable := by
  intro other
  -- Only the tag itself changes, and its fields are overridden by usable ones.
  by_cases own : other = tag
  · subst own
    rw [spec_override_self]
    exact (usable other).override update
  · rw [spec_override_of_ne registry update own]
    exact usable other

/-- Documents leave a registry that can be used. -/
theorem usable_of_ofFiles (applied : ofFiles files = .ok registry) : registry.Usable :=
  ofFiles_keeps (fun _ tag update _ usable => usable.override tag update) usable_builtin applied

/--
Overrides leave a registry that can be used, and they can be put together.

A document is accepted exactly when its keywords are those of tags. After any documents, each tag is
configured under its own name, has no empty label, and the time limit and the description have a
text for their absence, so that no suite is without a time limit; a tag that no document mentions is
configured as it was. Two documents one after the other do the same as one document, in which each
field of each tag is taken from the newer one if that gives it and from the older one otherwise; the
one is accepted exactly when the other two are.
-/
theorem overrides_compose :
    (∀ (registry : Registry) (file : RegistryFile),
      (∃ next, registry.withOverrides file = .ok next) ↔
        ∀ keyword ∈ file.keywords, keyword ∈ Tag.all.map Tag.keyword) ∧
    (∀ files registry, ofFiles files = .ok registry →
      registry.Usable ∧
      (∀ suite : Suite, suite.registry = registry → suite.timeout ≠ .error .noTimeout) ∧
      ∀ tag : Tag, (∀ file ∈ files, tag.keyword ∉ file.keywords) →
        registry.spec tag = .builtin tag) ∧
    ∀ older newer : RegistryFile, older.Ordered → newer.Ordered →
      (older.layered newer).Ordered ∧ (older.layered newer).Layers older newer ∧
      ∀ registry next : Registry, registry.withOverrides (older.layered newer) = .ok next ↔
        ∃ middle, registry.withOverrides older = .ok middle ∧
          middle.withOverrides newer = .ok next := by
  refine ⟨fun registry file => ?_, fun files registry applied => ⟨?_, ?_, fun tag fresh => ?_⟩,
    fun older newer olderOrdered newerOrdered => ?_⟩
  · -- A document is accepted if each of its keywords is that of a tag.
    rw [exists_withOverrides_iff]
    simp [Tag.mem_all]
  · exact usable_of_ofFiles applied
  · rintro suite rfl
    exact suite.timeout_ne_noTimeout ((usable_of_ofFiles applied .timeout).fallback (.inl rfl))
  · -- An override of another tag leaves this one as it was.
    refine ofFiles_keeps (motive := fun registry => registry.spec tag = .builtin tag)
      (fun registry other update mentioned kept => ?_) ?_ applied
    · obtain ⟨file, member, listed⟩ := mentioned
      have differ : tag ≠ other := by
        rintro rfl
        exact fresh file member listed
      rw [spec_override_of_ne registry update differ, kept]
    · exact TagMap.get_ofFn ..
  · exact ⟨RegistryFile.ordered_layered newerOrdered.nodup, RegistryFile.layers_layered,
      fun registry next => withOverrides_layered_eq_ok_iff olderOrdered.nodup newerOrdered.nodup⟩

/-- A label that is taken away and given again, a fallback that is made empty, a tag that both
documents mention, and a keyword that no tag has. -/
theorem overrides_compose_relabelled :
    let older : RegistryFile := [("CMD".toList, { order := some (-1), separator := some [','] }),
      ("OUTPUT".toList, { label := some [] }), ("TIMEOUT".toList, { fallback := some [] })]
    let newer : RegistryFile := [("CMD".toList, { separator := some [] }),
      ("INPUT".toList, { label := some [] }), ("OUTPUT".toList, { label := some ['X'] })]
    older.Ordered ∧ newer.Ordered ∧
      ∃ registry, ofFiles [older, newer] = .ok registry ∧ registry.Usable ∧
        registry.spec .cmd = { TagSpec.builtin .cmd with order := -1, separator := [] } ∧
        registry.spec .output = { TagSpec.builtin .output with label := some ['X'] } ∧
        registry.spec .main = .builtin .main ∧
        (Suite.mk registry .empty [] [] .bracketed).timeout ≠ .error .noTimeout ∧
        builtin.withOverrides (older.layered newer) = .ok registry ∧
        ¬ ∃ next, registry.withOverrides [("STDIN".toList, {})] = .ok next := by
  intro older newer
  obtain ⟨accepts, keeps, composes⟩ := overrides_compose
  have olderOrdered : older.Ordered := by decide
  have newerOrdered : newer.Ordered := by decide
  -- The registry is what applying both documents evaluates to.
  refine ⟨olderOrdered, newerOrdered, _, rfl, ?_⟩
  obtain ⟨usable, limited, kept⟩ := keeps [older, newer] _ rfl
  obtain ⟨-, -, together⟩ := composes older newer olderOrdered newerOrdered
  refine ⟨usable, rfl, rfl, kept .main (by decide), limited _ rfl,
    (together _ _).2 ⟨_, rfl, rfl⟩, ?_⟩
  -- A name of no tag is not accepted.
  rw [accepts]
  decide

end Registry

end TaggedTests
