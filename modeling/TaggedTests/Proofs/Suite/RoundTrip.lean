import TaggedTests.Proofs.Render.Tests
import TaggedTests.Proofs.Suite.Rereading

/-! A written suite is read back: the same tests, in order, and the same features of the file. -/

namespace TaggedTests

/-- However a feature was made, what is read back of it could have been made too. -/
theorem Feature.Made.reread {registry : Registry} {feature : Feature}
    (made : Feature.Made registry feature) : Feature.Made registry feature.reread := by
  -- Only a feature without blocks changes, as if an empty block were added to it.
  by_cases none : feature.contents = []
  · have pushed : feature.reread = feature.push [] := by
      simp [Feature.reread, Feature.withContents, Feature.push, none]
    rw [pushed]
    exact made.push []
  · rwa [Feature.reread_of_blocks none]

namespace Test

/-- A test as it is read back: the features that are written of it, under a title by its place. -/
def reread (registry : Registry) (title : Text) (test : Test) : Test :=
  (Render.testFeatures registry test).foldl (fun read feature => read.add feature.reread)
    (.empty title)

variable {registry : Registry} {title : Text} {test : Test}

/-- Adding features to a test adds them to its container. -/
theorem features_foldl_add (test : Test) (features : List Feature) :
    (features.foldl (fun read feature => read.add feature.reread) test).features =
      (features.map Feature.reread).foldl Features.add test.features := by
  induction features generalizing test with
  | nil => rfl
  -- The first feature goes to the container in the same way.
  | cons feature features ih => simp [ih]

/-- A test that is read back has the features that it had before, and a comment in any case. -/
theorem get?_reread (keyed : test.features.Keyed) (tag : Tag) :
    (test.reread registry title).features.get? tag =
      if tag ∈ Render.otherTags registry then (test.features.get? tag).map Feature.reread
      else if tag = .comment then some (Render.comment registry test).reread else none := by
  -- The comment is put into an empty container, and the others are different tags.
  have tagged : (Render.comment registry test).reread.tag = .comment := Render.tag_comment keyed
  have base (tag : Tag) : (Features.empty.add (Render.comment registry test).reread).get? tag =
      if tag = .comment then some (Render.comment registry test).reread else none := by
    by_cases own : tag = .comment
    · have added := Features.get?_add_self .empty (Render.comment registry test).reread
      rw [tagged, Features.get?_empty] at added
      simpa [own] using added
    · rw [Features.get?_add_of_ne _ (tagged ▸ own), Features.get?_empty, if_neg own]
  rw [reread, features_foldl_add, Render.testFeatures_eq, List.map_cons, List.foldl_cons,
    ← base tag]
  -- Every further feature is found under its own tag.
  have same (feature : Feature) : feature.reread.tag = feature.tag := rfl
  refine Features.get?_foldl_add keyed same (Render.nodup_otherTags registry) ?_ tag
  intro other listed
  exact (base other).trans (if_neg (Render.mem_otherTags.1 listed).2)

/-- But for a comment, a test that is read back has the features of its own that it had before. -/
theorem get?_reread_of_perTest (keyed : test.features.Keyed) {tag : Tag}
    (perTest : tag.scope = .perTest) (other : tag ≠ .comment) :
    (test.reread registry title).features.get? tag =
      (test.features.get? tag).map Feature.reread := by
  rw [get?_reread keyed, if_pos (Render.mem_otherTags.2 ⟨perTest, other⟩)]

/-- A test that is read back could have been made too. -/
theorem Made.reread (made : test.Made registry) (title : Text) :
    (test.reread registry title).Made registry := by
  -- Each feature that is added was made from the registry.
  have each : ∀ feature ∈ Render.testFeatures registry test, feature.Made registry := by
    intro feature member
    obtain rfl | ⟨tag, -, found⟩ := Render.eq_or_get?_of_mem member
    · exact .feature .comment
    · exact made.features.get? found
  unfold Test.reread
  generalize Render.testFeatures registry test = features at each
  -- The induction takes the feature that is added last.
  induction features using List.reverseRecOn with
  | nil => exact .empty title
  | append_singleton features feature ih =>
    rw [List.foldl_append]
    exact (ih fun other member => each other (List.mem_append_left _ member)).add
      (each feature (by simp)).reread

/-- A test is filled when it is read back exactly when it was before. -/
theorem filled_reread (made : test.Made registry) (title : Text) :
    (test.reread registry title).filled = test.filled := by
  -- Both are filled exactly when they have an expected output, which comes back if it is there.
  rw [Bool.eq_iff_iff, (made.reread title).filled_iff, made.filled_iff,
    get?_reread_of_perTest made.features.keyed rfl (by decide)]
  simp

end Test

namespace Progress

variable {registry : Registry} {before state : Progress} {test : Test} {title : Text}

/-- A written test is read back into the test that its comment goes to. -/
theorem reads_testText (separators : registry.InertSeparators) (made : test.Made registry)
    (plain : test.Plain)
    (comment : Reads registry before (Render.comment registry test).render state)
    (current : state.current = (Test.empty title).add (Render.comment registry test).reread)
    (explicit : state.explicit = [.comment]) :
    ∃ last, Reads registry before (Render.testText registry test)
      { state with
        current := test.reread registry title
        explicit := (Render.testFeatures registry test).map Feature.tag
        previous := last } := by
  -- The title means nothing, the comment comes first, and all other tags are new to the test.
  have keyed := made.features.keyed
  have named : Reads registry before (Render.titleLine test) before :=
    reads_of_inert (Render.inert_titleLine test) (Render.getLast?_titleLine test)
  have tags : state.explicit ++
      ((Render.otherTags registry).filterMap test.features.get?).map Feature.tag =
        (Render.testFeatures registry test).map Feature.tag := by
    rw [explicit, Render.testFeatures_eq, List.map_cons, Render.tag_comment keyed]
    rfl
  have others {feature : Feature}
      (member : feature ∈ (Render.otherTags registry).filterMap test.features.get?) :
      feature ∈ Render.testFeatures registry test :=
    List.mem_cons_of_mem _ member
  -- The features behind the comment are read in the order in which they are written.
  obtain ⟨last, rest⟩ := @reads_features registry state separators
    ((Render.otherTags registry).filterMap test.features.get?)
    (fun feature member => Render.legible_of_mem made plain (others member))
    (fun feature member => Render.perTest_of_mem keyed (others member))
    (by rw [current]; exact Features.keyed_empty.add _)
    (by rw [tags]; exact Render.nodup_map_tag_testFeatures keyed)
  rw [tags, current] at rest
  exact ⟨last, named.append (comment.append rest)⟩

/-- Some tests, at least one, were read back in order. -/
structure Completed (registry : Registry) (globals : Features) (tests : List Test)
    (progress : Progress) : Prop where
  globals : progress.globals = globals
  tests : progress.tests = tests.mapIdx fun place test => test.reread registry (Test.titleAt place)
  again : .comment ∈ progress.explicit

/-- The comment is among the tags of a written test. -/
theorem comment_mem_tags (keyed : test.features.Keyed) :
    .comment ∈ (Render.testFeatures registry test).map Feature.tag := by
  rw [Render.testFeatures_eq, List.map_cons, Render.tag_comment keyed]
  exact List.mem_cons_self ..

/-- The first written test is read back into the test that reading starts with. -/
theorem reads_first (separators : registry.InertSeparators) (made : test.Made registry)
    (plain : test.Plain) (done : before.done = [])
    (current : before.current = .empty (Test.titleAt 0)) (explicit : before.explicit = []) :
    ∃ after, Reads registry before (Render.testText registry test) after ∧
      Completed registry before.globals [test] after := by
  -- Nothing was asked for, so that the comment is new to the test that is there.
  have keyed := made.features.keyed
  have tag := @Render.tag_comment registry test keyed
  have member : Render.comment registry test ∈ Render.testFeatures registry test :=
    List.mem_cons_self ..
  have comment := reads_render_fresh (Render.legible_of_mem made plain member) separators
    (Render.perTest_of_mem keyed member) (by rw [current]; exact Features.keyed_empty)
    (by rw [explicit]; exact List.not_mem_nil)
  obtain ⟨last, reads⟩ := @reads_testText registry before _ test (Test.titleAt 0) separators made
    plain comment (by rw [current]) (by rw [explicit, tag]; rfl)
  refine ⟨_, reads, rfl, ?_, comment_mem_tags keyed⟩
  simp [Progress.tests, done]

/-- A further written test is read back into a test of its own. -/
theorem Completed.reads_next {globals : Features} {written : List Test}
    (completed : Completed registry globals written before) (separators : registry.InertSeparators)
    (made : test.Made registry) (plain : test.Plain) :
    ∃ after, Reads registry before (Render.testText registry test) after ∧
      Completed registry globals (written ++ [test]) after := by
  -- Every test has asked for its comment, so that the next comment completes it.
  have keyed := made.features.keyed
  have tag := @Render.tag_comment registry test keyed
  have member : Render.comment registry test ∈ Render.testFeatures registry test :=
    List.mem_cons_self ..
  have comment := reads_render_again (Render.legible_of_mem made plain member) separators
    (Render.perTest_of_mem keyed member) (by rw [tag]; exact completed.again)
  obtain ⟨last, reads⟩ := @reads_testText registry before _ test
    (Test.titleAt (before.done.length + 1)) separators made plain comment rfl (by rw [tag])
  -- The number of tests written gives the place of the next one.
  have former : before.done ++ [before.current] = written.mapIdx fun place test =>
      test.reread registry (Test.titleAt place) := completed.tests
  have place : before.done.length + 1 = written.length := by
    simpa using congrArg List.length former
  refine ⟨_, reads, completed.globals, ?_, comment_mem_tags keyed⟩
  simp [Progress.tests, former, place, List.mapIdx_append]

/-- Written tests are read back in order. -/
theorem reads_tests (separators : registry.InertSeparators) {written : List Test}
    (some : written ≠ []) (made : ∀ test ∈ written, test.Made registry)
    (plain : ∀ test ∈ written, test.Plain) (done : before.done = [])
    (current : before.current = .empty (Test.titleAt 0)) (explicit : before.explicit = []) :
    ∃ after, Reads registry before (written.flatMap (Render.testText registry)) after ∧
      Completed registry before.globals written after := by
  -- The induction takes the test that is written last.
  induction written using List.reverseRecOn with
  | nil => exact absurd rfl some
  | append_singleton written test ih =>
    have own : test ∈ written ++ [test] := by simp
    -- The first test is read into the empty one that the reader begins with.
    by_cases first : written = []
    · subst first
      simpa using reads_first separators (made test own) (plain test own) done current explicit
    · obtain ⟨middle, reads, completed⟩ := ih first
        (fun other member => made other (List.mem_append_left _ member))
        (fun other member => plain other (List.mem_append_left _ member))
      obtain ⟨after, further, all⟩ := completed.reads_next separators (made test own)
        (plain test own)
      refine ⟨after, ?_, all⟩
      simpa using reads.append further

end Progress

/-- The joined text of every feature of the file may stand between brackets. -/
def Features.MergedPlain (globals : Features) : Prop :=
  ∀ tag feature, tag.scope = .global → globals.get? tag = some feature → feature.merged.Plain

namespace Render

variable {registry : Registry} {globals : Features}

/-- A written feature of the file is one of its own in a single block. -/
theorem exists_of_mem_globalFeatures {feature : Feature}
    (member : feature ∈ globalFeatures registry globals) :
    ∃ tag whole, tag.scope = .global ∧ globals.get? tag = some whole ∧
      feature = whole.collapsed := by
  obtain ⟨whole, inside, rfl⟩ := List.mem_map.1 member
  -- Features are listed by their tags and then joined into one block.
  obtain ⟨tag, listed, found⟩ := List.mem_filterMap.1 inside
  exact ⟨tag, whole, Registry.mem_ordered.1 listed, found, rfl⟩

/-- The first line of a file is a lead. -/
theorem lead_header : (header ++ ['\n', '\n']).Lead :=
  ⟨by decide +kernel, by decide, by decide +kernel⟩

/-- The line between the features of the file and the tests is inert. -/
theorem inert_banner : (banner ++ ['\n', '\n']).Inert := by
  decide +kernel

end Render

/-- Written features of the file are read back into it, each in a single block. -/
theorem Progress.reads_globalFeatures {registry : Registry} {globals : Features}
    (separators : registry.InertSeparators) (made : globals.Made registry)
    (plain : globals.MergedPlain) :
    ∃ last, Progress.Reads registry .start
      ((Render.globalFeatures registry globals).flatMap Feature.render)
      { Progress.start with
        globals := (Render.globalFeatures registry globals).foldl Features.add .empty
        previous := last } := by
  -- A single block with the joined text has the modifiers and the separator of the whole feature.
  refine reads_globals separators (fun feature member => ?_) (fun feature member => ?_)
    fun feature member => ?_ <;>
    obtain ⟨tag, whole, global, found, rfl⟩ := Render.exists_of_mem_globalFeatures member
  · have settled := (made.get? found).settled
    refine ⟨⟨settled.configured, settled.forced⟩, fun content inside => ?_⟩
    rw [List.mem_singleton.1 inside]
    exact plain tag whole global found
  · rwa [← made.keyed tag whole found] at global
  · exact ⟨whole.merged, rfl⟩

/--
What comes back of a test that was written.

Every feature of the test has the same blocks, with an empty one if it had none, the same modifiers
and the same active separator. No tag gains a feature, except that a comment with an empty block
stands for one that was missing.
-/
structure Test.ComesBack (registry : Registry) (test read : Test) : Prop where
  others : ∀ tag, tag.scope = .perTest → tag ≠ .comment →
    read.features.get? tag = (test.features.get? tag).map Feature.reread
  comment : read.features.get? .comment =
    some ((test.features.get? .comment).getD (registry.feature .comment)).reread
  noGlobal : ∀ tag, tag.scope = .global → read.features.get? tag = none
  filled : read.filled = test.filled

/-- A test that is read back has come back. -/
theorem Test.comesBack_reread {registry : Registry} {test : Test} (made : test.Made registry)
    (title : Text) : test.ComesBack registry (test.reread registry title) := by
  -- A tag is the comment, one of the others, or not written of a test at all.
  have keyed := made.features.keyed
  refine ⟨fun _ => get?_reread_of_perTest keyed, ?_, fun tag global => ?_,
    filled_reread made title⟩
  · rw [get?_reread keyed, if_neg fun listed => (Render.mem_otherTags.1 listed).2 rfl, if_pos rfl]
    rfl
  · have unlisted : tag ∉ Render.otherTags registry := fun listed =>
      absurd ((Render.mem_otherTags.1 listed).1.symm.trans global) (by decide)
    have notComment : tag ≠ .comment := by
      rintro rfl
      exact absurd global (by decide)
    rw [get?_reread keyed, if_neg unlisted, if_neg notComment]

/-- The features of the file that are read back are its own, each in a single block. -/
theorem Render.get?_globalFeatures {registry : Registry} {globals : Features}
    (keyed : globals.Keyed) (tag : Tag) :
    ((globalFeatures registry globals).foldl Features.add .empty).get? tag =
      if tag.scope = .global then (globals.get? tag).map Feature.collapsed else none := by
  -- Each tag of the file is written once, so that nothing is merged or replaced.
  have same (feature : Feature) : feature.collapsed.tag = feature.tag := rfl
  have added := Features.get?_foldl_add keyed same (registry.nodup_ordered .global)
    (fun _ _ => Features.get?_empty _) tag
  simpa only [globalFeatures, Registry.mem_ordered, Features.get?_empty] using added

namespace Suite

/--
Writing features of a file and tests and reading the result gives them back.

The features and the tests may be anything that can be made from the registry, with separators that
mean nothing in prose and blocks that may stand between brackets. There has to be a test, since the
reader makes one in any case.
-/
theorem read_render (registry : Registry) (globals : Features) (tests : List Test)
    (separators : registry.InertSeparators) (some : tests ≠ [])
    (madeGlobals : globals.Made registry) (madeTests : ∀ test ∈ tests, test.Made registry)
    (plainGlobals : globals.MergedPlain) (plainTests : ∀ test ∈ tests, test.Plain) :
    ∃ suite, read registry {} (TaggedTests.render registry globals tests) = .ok suite ∧
      suite.format = .bracketed ∧ suite.warnings = [] ∧
      suite.tests.length = tests.length ∧
      List.Forall₂ (Test.ComesBack registry) tests suite.tests ∧
      ∀ tag, suite.globals.get? tag =
        if tag.scope = .global then (globals.get? tag).map Feature.collapsed else none := by
  -- The first line leads to the features of the file, and the banner after them to the tests.
  obtain ⟨last, first⟩ := Progress.reads_globalFeatures separators madeGlobals plainGlobals
  obtain ⟨after, rest, completed⟩ := @Progress.reads_tests registry
    { Progress.start with
      globals := (Render.globalFeatures registry globals).foldl Features.add .empty
      previous := last } separators tests some madeTests plainTests rfl rfl rfl
  have reads := first.append
    ((Progress.reads_of_inert Render.inert_banner (by decide +kernel)).append rest)
  -- At the start no tag has been asked for, and a comment has in the end.
  have moved : after ≠ .start := by
    rintro rfl
    exact absurd completed.again List.not_mem_nil
  have text : TaggedTests.render registry globals tests =
      Render.header ++ ['\n', '\n'] ++ ((Render.globalFeatures registry globals).flatMap
        Feature.render ++ (Render.banner ++ ['\n', '\n'] ++
          tests.flatMap (Render.testText registry))) := by
    simp only [TaggedTests.render, List.append_assoc]
  refine ⟨_, text ▸ read_of_reads Render.lead_header reads moved, rfl, rfl, ?_, ?_, fun tag => ?_⟩
  · simp [completed.tests]
  · refine List.forall₂_iff_get.2 ⟨by simp [completed.tests], fun place inside _ => ?_⟩
    have made := madeTests (tests.get ⟨place, inside⟩) (List.get_mem ..)
    simpa [completed.tests] using Test.comesBack_reread made (Test.titleAt place)
  · rw [completed.globals]
    exact Render.get?_globalFeatures madeGlobals.keyed tag

/-- Titles that look like blocks, a separator that was replaced, and a test without anything. -/
theorem read_render_titles :
    let output := ((((Registry.builtin.feature .output).push "\x7d".toList).push []).apply
      .endNewline).apply .endNone
    let timeout := (Registry.builtin.feature .timeout).push "1".toList
    let tests := [Test.empty "\x7d/ INPUT /\x7b".toList,
      (Test.empty "mSHUFFLED mENDNL".toList).add output]
    ∃ suite, read .builtin {} (TaggedTests.render .builtin (Features.empty.add timeout) tests) =
        .ok suite ∧
      List.Forall₂ (Test.ComesBack .builtin) tests suite.tests := by
  intro output timeout tests
  -- Separators of the registry are newlines or nothing at all.
  have separators : Registry.builtin.InertSeparators := fun tag => by
    cases tag <;> exact ⟨by decide, by decide, by decide⟩
  have madeGlobals : Features.Made .builtin (Features.empty.add timeout) :=
    .add .empty (.push (.feature .timeout) _)
  -- Both tests are made from the registry, and neither holds a bracket inside.
  have madeTests : ∀ test ∈ tests, test.Made .builtin := by
    intro test member
    obtain rfl | rfl : test = _ ∨ test = _ := by simpa [tests] using member
    · exact .empty _
    · exact .add (.empty _) (.apply (.apply (.push (.push (.feature .output) _) _) _) _)
  -- The texts that are written are plain.
  have plainGlobals : (Features.empty.add timeout).MergedPlain := by
    intro tag feature _ found
    cases tag <;> cases found
    exact (by decide : timeout.merged.Plain)
  have plainOutput : ∀ content ∈ output.contents, content.Plain := by decide
  have plainTests : ∀ test ∈ tests, test.Plain := by
    intro test member tag feature _ found
    obtain rfl | rfl : test = _ ∨ test = _ := by simpa [tests] using member
    · cases tag <;> cases found
    · cases tag <;> cases found
      exact plainOutput
  obtain ⟨suite, read, -, -, -, back, -⟩ := read_render .builtin (Features.empty.add timeout) tests
    separators (by simp [tests]) madeGlobals madeTests plainGlobals plainTests
  exact ⟨suite, read, back⟩

end Suite

end TaggedTests
