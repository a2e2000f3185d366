import TaggedTests.Proofs.Suite.Sections

/-!
Reading the older format loses nothing.

Only a section without the expected output that is asked for is refused. What is written of the
tests is the text again, and what is written of sections is read back.
-/

namespace TaggedTests

namespace Sections

/-- The first section without an expected output, at its place counted from zero. -/
structure FirstIncomplete (parts : List Text) (place : Nat) : Prop where
  lacking : ∃ part, parts[place]? = some part ∧ ¬ outputMarker <:+: part
  before : ∀ part ∈ parts.take place, outputMarker <:+: part

/--
The tests of sections, the first of them at a place.

They are titled in order, and they are filled where filled tests are expected. What is written of
them is the sections again, up to the newline that ended each command line.
-/
structure Retold (filled : Bool) (start : Nat) (parts : List Text) (tests : List Test) : Prop where
  titles : tests.map Test.title = (List.range' start parts.length).map Test.titleAt
  filled : ∀ test ∈ tests, test.filled = filled
  written : ∃ newlines : List Bool, newlines.length = parts.length ∧
    parts = List.zipWith Section.body newlines (tests.map Section.ofTest)

variable {registry : Registry} {filled : Bool} {index start place : Nat} {text part : Text}
  {parts rest : List Text} {test : Test} {tests : List Test} {error : ParseError}

/-- Without sections none is incomplete. -/
theorem not_firstIncomplete_nil (place : Nat) : ¬ FirstIncomplete [] place := fun first => by
  simpa using first.lacking

/-- The first section is the first incomplete one, or it is complete and the others have one. -/
theorem firstIncomplete_cons_iff :
    FirstIncomplete (part :: parts) place ↔
      (¬ outputMarker <:+: part ∧ place = 0) ∨
        outputMarker <:+: part ∧ ∃ later, FirstIncomplete parts later ∧ place = later + 1 := by
  -- What stands before a later place begins with the section in front.
  cases place with
  | zero =>
    refine ⟨fun first => Or.inl ⟨by simpa using first.lacking, rfl⟩, ?_⟩
    rintro (⟨lacking, -⟩ | ⟨-, _, -, behind⟩)
    · exact ⟨⟨part, rfl, lacking⟩, by simp⟩
    · simp at behind
  | succ later =>
    constructor
    · -- A later section is the first incomplete one only if this one is complete.
      rintro ⟨lacking, before⟩
      obtain ⟨own, others⟩ := List.forall_mem_cons.1 before
      exact Or.inr ⟨own, later, ⟨lacking, others⟩, rfl⟩
    · rintro (⟨-, front⟩ | ⟨own, _, ⟨lacking, before⟩, same⟩)
      · simp at front
      · obtain rfl := Nat.succ.inj same
        exact ⟨lacking, List.forall_mem_cons.2 ⟨own, before⟩⟩

/-- Among sections that are not all complete, there is a first incomplete one. -/
theorem exists_firstIncomplete_iff :
    (∃ place, FirstIncomplete parts place) ↔ ∃ part ∈ parts, ¬ outputMarker <:+: part := by
  induction parts with
  | nil => simp [not_firstIncomplete_nil]
  | cons part parts ih =>
    simp only [firstIncomplete_cons_iff, List.exists_mem_cons_iff, ← ih]
    -- A complete section in front moves the place of the others on by one.
    by_cases complete : outputMarker <:+: part
    · simp [complete, exists_comm]
    · simp [complete]

/-- Sections are refused for the first of them that is, once those in front of it are read. -/
theorem readSections_cons_eq_error_iff :
    readSections registry filled index (text :: rest) = .error error ↔
      readSection registry filled index text = .error error ∨
        (∃ test, readSection registry filled index text = .ok test) ∧
          readSections registry filled (index + 1) rest = .error error := by
  rw [readSections]
  -- The first error ends the reading, so the others are looked at only behind a section that can be
  -- read.
  cases readSection registry filled index text with
  | error error => simp [Bind.bind, Except.bind]
  | ok test =>
    cases readSections registry filled (index + 1) rest with
    | error error => simp [Bind.bind, Except.bind]
    | ok others => simp [Bind.bind, Except.bind, Pure.pure, Except.pure]

/-- A section can be read unless it lacks the expected output that is asked for. -/
theorem exists_readSection_iff :
    (∃ test, readSection registry filled index text = .ok test) ↔
      (filled = true → outputMarker <:+: text) := by
  -- A section is refused exactly if its output is asked for and lacking.
  cases result : readSection registry filled index text with
  | error error =>
    obtain ⟨asked, lacking, -⟩ := readSection_eq_error_iff.1 result
    simp [asked, lacking]
  | ok test =>
    refine ⟨fun _ asked => ?_, fun _ => ⟨test, rfl⟩⟩
    by_contra lacking
    simp [readSection_eq_error_iff.2 ⟨asked, lacking, rfl⟩] at result

/-- Sections are refused exactly for the first of them that lacks the expected output that is asked
for. -/
theorem readSections_eq_error_iff :
    readSections registry filled start parts = .error error ↔
      filled = true ∧ ∃ place, FirstIncomplete parts place ∧
        error = .missingOutput (start + place + 1) := by
  induction parts generalizing start with
  | nil => simp [readSections, not_firstIncomplete_nil]
  | cons part parts ih =>
    rw [readSections_cons_eq_error_iff, readSection_eq_error_iff, exists_readSection_iff, ih]
    cases filled with
    | false => simp
    | true =>
      by_cases complete : outputMarker <:+: part
      · -- The others are counted on from here.
        simp [firstIncomplete_cons_iff, complete, Nat.add_assoc, Nat.add_comm 1]
      · simp [firstIncomplete_cons_iff, complete]

/-- A section that is read in front is told by its test, as the others are by theirs. -/
theorem Retold.cons (read : readSection registry filled start part = .ok test)
    (later : Retold filled (start + 1) parts tests) :
    Retold filled start (part :: parts) (test :: tests) := by
  -- The test is that of a section which it says again, and of which the part in front was written.
  obtain ⟨content, newline, isSome, rfl, rfl⟩ := exists_body_of_readSection read
  obtain ⟨newlines, same, written⟩ := later.written
  refine ⟨?_, List.forall_mem_cons.2 ⟨by rw [Section.filled_toTest, isSome], later.filled⟩,
    newline :: newlines, by rw [List.length_cons, List.length_cons, same], ?_⟩
  · rw [List.map_cons, later.titles, Section.title_toTest]
    rfl
  · rw [List.map_cons, Section.ofTest_toTest, List.zipWith_cons_cons, ← written]

/-- All sections that can be read are told by their tests. -/
theorem retold_of_readSections (read : readSections registry filled start parts = .ok tests) :
    Retold filled start parts tests := by
  induction parts generalizing start tests with
  | nil =>
    cases read
    exact ⟨rfl, by simp, [], rfl, rfl⟩
  | cons part parts ih =>
    -- The first section is retold by the first test, and the others by the rest.
    obtain ⟨test, others, first, further, rfl⟩ := readSections_cons_eq_ok_iff.1 read
    exact .cons first (ih further)

/-- Every section that is read gives one test. -/
theorem length_readSections (read : readSections registry filled start parts = .ok tests) :
    tests.length = parts.length := by
  simpa using congrArg List.length (retold_of_readSections read).titles

/-- What is written of sections behind their markers is what is written of all of them. -/
theorem flatMap_zipWith_body {newlines : List Bool} {sections : List Section} :
    (List.zipWith Section.body newlines sections).flatMap (inputMarker ++ ·) =
      (List.zipWith Section.encode newlines sections).flatten := by
  rw [List.flatMap_def, List.map_zipWith]
  rfl

/-- A text that is written of sections is divided into what is written of each. -/
theorem marked_encode {sections : List Section}
    (encodable : ∀ content ∈ sections, content.Encodable filled) :
    Marked (sections.flatMap (Section.encode true)) [] (sections.map (Section.body true)) := by
  -- Every section begins with the marker, and no section holds it inside.
  refine ⟨by rw [List.nil_append, List.flatMap_map]; rfl, ?_⟩
  rintro piece (_ | ⟨_, member⟩)
  · decide
  · obtain ⟨content, given, rfl⟩ := List.mem_map.1 member
    exact not_inputMarker_infix_body (encodable content given)

/-- What is written of sections is read back. -/
theorem exists_readSections_bodies {sections : List Section}
    (encodable : ∀ content ∈ sections, content.Encodable filled) :
    ∃ tests, readSections registry filled start (sections.map (Section.body true)) = .ok tests ∧
      tests.map Section.ofTest = sections := by
  induction sections generalizing start with
  | nil => exact ⟨[], rfl, rfl⟩
  | cons content sections ih =>
    obtain ⟨own, later⟩ := List.forall_mem_cons.1 encodable
    -- Whatever its number is, the first section gives itself back, and so do the others.
    obtain ⟨tests, further, same⟩ := ih later
    exact ⟨_, readSections_cons_eq_ok_iff.2 ⟨_, tests, readSection_body own registry start, further,
      rfl⟩, by rw [List.map_cons, Section.ofTest_toTest, same]⟩

/--
Reading the older format loses nothing, and it refuses exactly the incomplete texts.

However a text is divided at its markers, which is always possible, it is refused exactly when a
section lacks the expected output that is asked for, and the first such section is named. All other
texts give one test for each section, titled in order and filled where that is expected. What is
written of the tests is the text again, up to the newline that ended each command line.

Sections in which each marker is found where it is written are read back from what is written of
them.
-/
theorem read_lossless (registry : Registry) (filled : Bool) :
    (∀ text, ∃ preamble parts, Marked text preamble parts) ∧
    (∀ text preamble parts, Marked text preamble parts →
      ((∃ error, read registry filled text = .error error) ↔
        filled = true ∧ ∃ part ∈ parts, ¬ outputMarker <:+: part) ∧
      (∀ error, read registry filled text = .error error ↔
        filled = true ∧ ∃ place, FirstIncomplete parts place ∧
          error = .missingOutput (place + 1)) ∧
      ((filled = true → ∀ part ∈ parts, outputMarker <:+: part) →
        ∃ tests newlines, read registry filled text = .ok tests ∧
          tests.length = parts.length ∧
          tests.map Test.title = (List.range parts.length).map Test.titleAt ∧
          (∀ test ∈ tests, test.filled = filled) ∧
          newlines.length = tests.length ∧
          text = preamble ++
            (List.zipWith Section.encode newlines (tests.map Section.ofTest)).flatten)) ∧
    ∀ sections : List Section, (∀ content ∈ sections, content.Encodable filled) →
      ∃ tests, read registry filled (sections.flatMap (Section.encode true)) = .ok tests ∧
        tests.map Section.ofTest = sections := by
  refine ⟨exists_marked, fun text preamble parts marked => ?_, fun sections encodable => ?_⟩
  · -- One incomplete section is enough, since then there is a first one.
    have refused (error : ParseError) : read registry filled text = .error error ↔
        filled = true ∧ ∃ place, FirstIncomplete parts place ∧
          error = .missingOutput (place + 1) := by
      rw [read, marked.ofText_eq, readSections_eq_error_iff]
      simp only [Nat.zero_add]
    have fails : (∃ error, read registry filled text = .error error) ↔
        filled = true ∧ ∃ part ∈ parts, ¬ outputMarker <:+: part := by
      simp only [refused, ← exists_firstIncomplete_iff, exists_and_left]
      simp
    refine ⟨fails, refused, fun complete => ?_⟩
    -- Complete sections cannot be refused.
    cases result : read registry filled text with
    | error error =>
      obtain ⟨asked, part, member, lacking⟩ := fails.1 ⟨error, result⟩
      exact absurd (complete asked part member) lacking
    | ok tests =>
      rw [read, marked.ofText_eq] at result
      -- The text has the parts behind its markers, and the parts are what is written of the tests.
      have many := length_readSections result
      obtain ⟨titles, all, newlines, same, written⟩ := retold_of_readSections result
      refine ⟨tests, newlines, rfl, many, ?_, all, same.trans many.symm, ?_⟩
      · rw [titles, List.range_eq_range']
      · rw [← flatMap_zipWith_body, ← written, ← marked.whole]
  · rw [read, (marked_encode encodable).ofText_eq]
    -- What was encoded is marked as it was written.
    exact exists_readSections_bodies encodable

/-- A text whose second section is the first incomplete one, a text with markers in places where
they are content, and sections that hold the markers of what stands in front of them. -/
theorem read_lossless_markers :
    let refused : Text := "x[INPUT]\n1[OUTPUT]\n[INPUT]\n\x7bCMD\x7d\n2[INPUT]\n".toList
    let parts := ["1[OUTPUT]\n".toList, "\x7bCMD\x7d\n2".toList, []]
    let told : Text := "[INPUT]\n-v\x7bCMD\x7d\n\x7bCMD\x7d\n[OUTPUT]\n[OUTPUT]\n".toList
    let whole := ["-v\x7bCMD\x7d\n\x7bCMD\x7d\n[OUTPUT]\n[OUTPUT]\n".toList]
    let sections : List Section :=
      [⟨some "-v".toList, "\x7bCMD\x7d\n".toList, some "[OUTPUT]\n\x7bCMD\x7d\n".toList⟩,
        ⟨none, [], some "[INPUT]".toList⟩]
    Marked refused "x".toList parts ∧ FirstIncomplete parts 1 ∧
      read .builtin true refused = .error (.missingOutput 2) ∧
      Marked told [] whole ∧ (∀ part ∈ whole, outputMarker <:+: part) ∧
      (∃ tests newlines, read .builtin true told = .ok tests ∧ tests.length = 1 ∧
        told = (List.zipWith Section.encode newlines (tests.map Section.ofTest)).flatten) ∧
      (∀ content ∈ sections, content.Encodable true) ∧
      ∃ tests, read .builtin true (sections.flatMap (Section.encode true)) = .ok tests ∧
        tests.map Section.ofTest = sections := by
  intro refused parts told whole sections
  obtain ⟨-, divided, back⟩ := read_lossless .builtin true
  -- The first text has three parts, of which the second one lacks an output.
  have incomplete : Marked refused "x".toList parts := ⟨rfl, by decide +kernel⟩
  -- The second text has one part with markers inside of it.
  have complete : Marked told [] whole := ⟨rfl, by decide +kernel⟩
  have outputs : ∀ part ∈ whole, outputMarker <:+: part := by decide +kernel
  -- Markers inside of parts are harmless where no marker is looked for.
  have encodable : ∀ content ∈ sections, content.Encodable true := by
    rw [List.forall_mem_cons, List.forall_mem_singleton]
    exact ⟨⟨rfl, by decide +kernel, by simpa using by decide +kernel, by decide +kernel, by simp⟩,
      ⟨rfl, by decide +kernel, by simp, by decide +kernel, by decide +kernel⟩⟩
  have first : FirstIncomplete parts 1 := ⟨⟨_, rfl, by decide +kernel⟩, by decide +kernel⟩
  obtain ⟨-, refuses, -⟩ := divided refused "x".toList parts incomplete
  obtain ⟨-, -, succeeds⟩ := divided told [] whole complete
  obtain ⟨tests, newlines, result, many, -, -, -, written⟩ := succeeds fun _ => outputs
  exact ⟨incomplete, first, (refuses _).2 ⟨rfl, 1, first, rfl⟩, complete, outputs,
    ⟨tests, newlines, result, many, written⟩, encodable, back sections encodable⟩

end Sections

end TaggedTests
