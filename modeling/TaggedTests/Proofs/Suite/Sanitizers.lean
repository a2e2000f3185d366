import TaggedTests.Proofs.Suite.Flags

/-! Which sanitizers the flags of a suite ask for, and that nothing but these words is dropped. -/

namespace TaggedTests

/-- Of a feature that is put under its tag twice, only one is kept. -/
theorem Features.replace_replace (features : Features) (feature : Feature) :
    (features.replace feature).replace feature = features.replace feature := by
  -- Features are told by what is found under each tag.
  refine ext fun tag => ?_
  by_cases own : tag = feature.tag
  · rw [own, get?_replace_self, get?_replace_self]
  · rw [get?_replace_of_ne _ own]

namespace Suite

variable {suite : Suite} {flags word : Text}

/-- The names that a word lists behind what asks for sanitizers: those between commas that are not
empty. -/
def listedNames (word : Text) : List Text :=
  ((word.drop sanitizeFlag.length).splitOn ',').filter (· ≠ [])

/-- A word that asks for sanitizers is that request and the names behind it. -/
theorem after?_sanitizeFlag (asks : asksForSanitizers word = true) :
    Text.after? sanitizeFlag word = some (word.drop sanitizeFlag.length) := by
  obtain ⟨names, rfl⟩ := List.isPrefixOf_iff_prefix.1 asks
  rw [Text.after?_eq_some_iff, List.drop_left]

/-- The sanitizers of a suite are listed by the words of its flags that ask for them. -/
theorem sanitizers_eq_flatMap (suite : Suite) :
    suite.sanitizers =
      ((Text.words (suite.flags.getD [])).filter asksForSanitizers).flatMap listedNames := by
  rw [sanitizers]
  -- Word by word, one that asks for none lists no names.
  induction Text.words (suite.flags.getD []) with
  | nil => rfl
  | cons word words ih =>
    rw [List.flatMap_cons, ih]
    cases asks : asksForSanitizers word with
    | true =>
      rw [List.filter_cons_of_pos asks, List.flatMap_cons, after?_sanitizeFlag asks]
      rfl
    | false =>
      -- Names behind the request would be a request.
      have none : Text.after? sanitizeFlag word = none :=
        Option.eq_none_iff_forall_ne_some.2 fun names named => by
          simp [asksForSanitizers_of_after? named] at asks
      rw [List.filter_cons_of_neg (by simp [asks]), none]
      rfl

/-- Flags that are left are left as they are. -/
theorem keptFlags_keptFlags (flags : Text) : keptFlags (keptFlags flags) = keptFlags flags :=
  calc keptFlags (keptFlags flags)
    _ = [' '].intercalate
          (((Text.words flags).filter (!asksForSanitizers ·)).filter (!asksForSanitizers ·)) := by
      rw [keptFlags, words_keptFlags]
    -- What was kept once passes the same test again.
    _ = keptFlags flags := by simp only [List.filter_filter, Bool.and_self, keptFlags]

/-- A suite without flags stays as it is. -/
theorem stripSanitizers_of_none (none : suite.flags = none) : suite.stripSanitizers = suite := by
  rw [stripSanitizers_eq, globals_stripSanitizers, none, Option.elim_none]

/-- Features of other tags than that of the flags stay as they are. -/
theorem get?_stripSanitizers_of_ne (suite : Suite) {tag : Tag} (other : tag ≠ .flags) :
    suite.stripSanitizers.globals.get? tag = suite.globals.get? tag := by
  rw [globals_stripSanitizers]
  -- Without flags nothing changes, and otherwise only the flags are replaced.
  cases suite.flags with
  | none => rfl
  | some flags => exact Features.get?_replace_of_ne _ other

/-- Dropping sanitizers a second time changes nothing. -/
theorem stripSanitizers_stripSanitizers (suite : Suite) :
    suite.stripSanitizers.stripSanitizers = suite.stripSanitizers := by
  have left := flags_stripSanitizers_eq_map suite
  cases given : suite.flags with
  | none => rw [stripSanitizers_of_none given, stripSanitizers_of_none given]
  | some flags =>
    -- The block that is put in place of the flags is the one that is there already.
    rw [given, Option.map_some] at left
    have same : suite.stripSanitizers.stripSanitizers.globals = suite.stripSanitizers.globals := by
      rw [globals_stripSanitizers, left, Option.elim_some, ← keptFlags, keptFlags_keptFlags,
        globals_stripSanitizers, given, Option.elim_some, stripSanitizers_eq, ← keptFlags]
      exact Features.replace_replace ..
    rw [stripSanitizers_eq, same]

/--
Dropping sanitizers drops exactly the words of the flags that ask for them, and nothing else
changes.

What a suite asks for is what these words list, in order. A suite without flags stays as it is.
Other flags have afterwards, between white space, the former words but for those that ask for
sanitizers, in order and as often as before, and no sanitizer is asked for any more. The other
features of the file, the tests, the registry, the warnings and the format stay, and dropping
sanitizers a second time changes nothing.
-/
theorem stripSanitizers_drops_words (suite : Suite) :
    suite.sanitizers =
      ((Text.words (suite.flags.getD [])).filter asksForSanitizers).flatMap listedNames ∧
    (suite.flags = none → suite.stripSanitizers = suite) ∧
    (∀ flags, suite.flags = some flags → ∃ kept, suite.stripSanitizers.flags = some kept ∧
      Text.words kept = (Text.words flags).filter (!asksForSanitizers ·)) ∧
    suite.stripSanitizers.sanitizers = [] ∧
    (∀ tag, tag ≠ .flags → suite.stripSanitizers.globals.get? tag = suite.globals.get? tag) ∧
    suite.stripSanitizers = { suite with globals := suite.stripSanitizers.globals } ∧
    suite.stripSanitizers.stripSanitizers = suite.stripSanitizers := by
  refine ⟨sanitizers_eq_flatMap suite, stripSanitizers_of_none, fun flags given => ?_,
    sanitizers_stripSanitizers suite, fun tag => get?_stripSanitizers_of_ne suite,
    stripSanitizers_eq suite, stripSanitizers_stripSanitizers suite⟩
  -- The words that ask for sanitizers are dropped, and the others stay in order.
  exact ⟨keptFlags flags, by rw [flags_stripSanitizers_eq_map, given, Option.map_some],
    words_keptFlags flags⟩

/-- Flags with white space of several kinds, empty names, words that come twice and one that asks
for sanitizers further on, and a file without flags. -/
theorem stripSanitizers_drops_words_listed :
    let flags : Text := "-g\t-fsanitize=address,,leak\u3000-g\n -fsanitize=,\u00a0".toList ++
      "-g-fsanitize=x -fsanitize=leak".toList
    let suite : Suite := ofBlocks .builtin [⟨"MAIN".toList, ['m']⟩, ⟨"FLAGS".toList, flags⟩]
    let bare : Suite := ofBlocks .builtin [⟨"MAIN".toList, ['m']⟩]
    suite.flags = some flags ∧
      suite.sanitizers = ["address".toList, "leak".toList, "leak".toList] ∧
      (∃ kept, suite.stripSanitizers.flags = some kept ∧
        Text.words kept = ["-g".toList, "-g".toList, "-g-fsanitize=x".toList]) ∧
      Tag.main ≠ .flags ∧ suite.stripSanitizers.globals.get? .main = suite.globals.get? .main ∧
      bare.flags = none ∧ bare.stripSanitizers = bare := by
  intro flags suite bare
  obtain ⟨listed, -, dropped, -, others, -⟩ := stripSanitizers_drops_words suite
  obtain ⟨-, untouched, -⟩ := stripSanitizers_drops_words bare
  -- The one suite has flags and the other one has none.
  have given : suite.flags = some flags := by decide +kernel
  have none : bare.flags = none := by decide +kernel
  -- Empty names are left out, and a word with the option inside stays.
  obtain ⟨kept, left, words⟩ := dropped flags given
  refine ⟨given, listed.trans (by decide +kernel), ⟨kept, left, words.trans (by decide +kernel)⟩,
    by decide, others .main (by decide), none, untouched none⟩

end Suite

end TaggedTests
