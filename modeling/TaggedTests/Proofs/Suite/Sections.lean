import TaggedTests.Proofs.Suite.Encoding

/-! Reading the older format, where each section makes one test. -/

namespace TaggedTests

namespace Sections

/-- A text divided at its markers into what stands in front of the first of them and what stands
behind each. -/
structure Marked (text preamble : Text) (parts : List Text) : Prop where
  whole : text = preamble ++ parts.flatMap (inputMarker ++ ·)
  unmarked : ∀ piece ∈ preamble :: parts, ¬ inputMarker <:+: piece

variable {registry : Registry} {expectFilled : Bool} {start place : Nat}
  {text preamble part : Text} {parts : List Text} {test : Test} {tests : List Test}

/-- Every text can be divided at its markers. -/
theorem exists_marked (text : Text) : ∃ preamble parts, Marked text preamble parts := by
  -- The text is cut at each marker, and no piece between two of them holds one.
  obtain ⟨preamble, parts, -, whole, unmarked⟩ :=
    Text.exists_splitAtEach (by decide : inputMarker ≠ []) text
  exact ⟨preamble, parts, whole, unmarked⟩

/-- The sections of a text are what stands behind its markers. -/
theorem Marked.ofText_eq (marked : Marked text preamble parts) : ofText text = parts := by
  -- The markers of the whole are those between its parts, as no part holds one.
  have split : Text.splitAtEach inputMarker text = preamble :: parts := by
    rw [marked.whole]
    exact Text.splitAtEach_of_free (by decide : '[' ∉ "INPUT]\n".toList) marked.unmarked
  rw [ofText, split, List.drop_one, List.tail_cons]

/-- A text with one marker has the section behind it. -/
theorem ofText_of_single {text before body : Text}
    (marked : Text.cut? inputMarker text = some (before, body))
    (last : Text.cut? inputMarker body = none) : ofText text = [body] := by
  rw [ofText, Text.splitAtEach_of_some (by decide) marked, Text.splitAtEach_of_none last,
    List.drop_one, List.tail_cons]

/-- The sections of a text are parts of it. -/
theorem infix_of_mem_ofText (member : part ∈ ofText text) : part <:+: text := by
  obtain ⟨preamble, parts, marked⟩ := exists_marked text
  rw [marked.ofText_eq] at member
  -- A part stands behind its marker within the text.
  have behind : part <:+: parts.flatMap (inputMarker ++ ·) :=
    (List.suffix_append ..).isInfix.trans
      (List.infix_of_mem_flatten (List.mem_map_of_mem member))
  rw [marked.whole]
  exact behind.trans (List.suffix_append ..).isInfix

/-- Sections are read one after the other, and each of them has to be readable. -/
theorem readSections_cons_eq_ok_iff {index : Nat} {rest : List Text} :
    readSections registry expectFilled index (text :: rest) = .ok tests ↔
      ∃ test others, readSection registry expectFilled index text = .ok test ∧
        readSections registry expectFilled (index + 1) rest = .ok others ∧
          tests = test :: others := by
  rw [readSections]
  -- The others are read behind a section that can be read.
  cases readSection registry expectFilled index text with
  | error error => simp [Bind.bind, Except.bind]
  | ok test =>
    cases readSections registry expectFilled (index + 1) rest with
    | error error => simp [Bind.bind, Except.bind]
    | ok others => simp [Bind.bind, Except.bind, Pure.pure, Except.pure, eq_comm]

/-- Each test is read from the section at its place. -/
theorem readSection_of_getElem?
    (read : readSections registry expectFilled start parts = .ok tests)
    (found : tests[place]? = some test) :
    ∃ part ∈ parts, readSection registry expectFilled (start + place) part = .ok test := by
  induction parts generalizing start place tests with
  | nil =>
    cases read
    simp at found
  | cons part rest ih =>
    -- The first section is read at the place at hand, and the others behind it.
    obtain ⟨first, later, single, further, rfl⟩ := readSections_cons_eq_ok_iff.1 read
    cases place with
    | zero =>
      obtain rfl : first = test := by simpa using found
      exact ⟨part, List.mem_cons_self .., single⟩
    | succ place =>
      -- The sections behind are numbered from the next place on.
      obtain ⟨other, member, single⟩ := ih further (by simpa using found)
      exact ⟨other, List.mem_cons_of_mem _ member, by rwa [Nat.add_right_comm] at single⟩

/-- What the empty test at each place has and every further block of a test keeps, the tests of
sections have. -/
theorem readSections_of_kept {property : Nat → Test → Prop}
    (own : ∀ place, property place (.empty (Test.titleAt place)))
    (kept : ∀ (place : Nat) (test : Test) (tag : Tag) (content : Text), tag.scope = .perTest →
      property place test → property place (test.add (registry.featureOf tag [content])))
    (read : readSections registry expectFilled start parts = .ok tests)
    (found : tests[place]? = some test) : property (start + place) test := by
  -- A test is made of its own section by adding features to an empty one.
  obtain ⟨part, -, single⟩ := readSection_of_getElem? read found
  obtain ⟨content, newline, -, -, rfl⟩ := exists_body_of_readSection single
  exact Section.toTest_of_kept (own _) (kept _)

/-- The tests of sections are made from the registry, of parts of the sections. -/
theorem provenance_readSections
    (read : readSections registry expectFilled start parts = .ok tests) :
    ∀ test ∈ tests, test.Made registry ∧
      ∃ part ∈ parts, test.features.Each (· <:+: part) := by
  intro test member
  obtain ⟨place, found⟩ := List.getElem?_of_mem member
  -- A test is made of its own section, of which it holds parts.
  obtain ⟨part, inside, single⟩ := readSection_of_getElem? read found
  obtain ⟨content, newline, -, rfl, rfl⟩ := exists_body_of_readSection single
  exact ⟨Section.made_toTest, _, inside,
    Section.each_toTest.mono fun _ own => Section.infix_body_of_mem own newline⟩

end Sections

namespace Suite

variable {registry : Registry} {options : ReadOptions} {raw text : Text} {suite : Suite}

/-- A suite in the older format has tests from sections, and nothing for the file. -/
theorem readLegacy_eq_ok_iff :
    readLegacy registry options text = .ok suite ↔ ∃ tests,
      Sections.read registry options.expectFilled text = .ok tests ∧
        suite = ⟨registry, .empty, tests,
          if options.format = .bracketed then [.oldFormat] else [], .legacy⟩ := by
  unfold readLegacy
  -- There is a suite exactly if the sections can be read.
  cases Sections.read registry options.expectFilled text with
  | error error => simp [Bind.bind, Except.bind]
  | ok tests => simp [Bind.bind, Except.bind, Pure.pure, Except.pure, eq_comm]

/-- In the older format the tests are made from the registry, of parts of the text. -/
theorem provenance_readLegacy (read : readLegacy registry options text = .ok suite) :
    ∀ test ∈ suite.tests, test.Made registry ∧ test.features.Each (· <:+: text) := by
  obtain ⟨tests, sections, rfl⟩ := readLegacy_eq_ok_iff.1 read
  intro test member
  -- What is a part of a section is a part of the text.
  obtain ⟨made, part, inside, each⟩ := Sections.provenance_readSections sections test member
  exact ⟨made, each.mono fun _ own => own.trans (Sections.infix_of_mem_ofText inside)⟩

/-- Without brackets, or on request, a text is read in the older format. -/
theorem read_of_fallback (equal : (Block.opens raw).length = (Block.closes raw).length)
    (fallback : Block.opens raw = [] ∨ options.format = .legacy) :
    Suite.read registry options raw = readLegacy registry options (Text.normalizeLines raw) := by
  -- Uniform line ends leave the number of brackets as it is.
  have opened := Block.length_opens_normalizeLines raw
  have closed := Block.length_closes_normalizeLines raw
  have none : (Block.opens raw).length = 0 ∨ options.format = .legacy :=
    fallback.imp_left List.length_eq_zero_iff.2
  simp only [Suite.read, opened, closed, equal, ne_eq, not_true_eq_false, if_false]
  rw [← equal, if_pos none]

/-- A text is read as bracketed blocks or, without brackets or on request, in the older format. -/
theorem read_cases (read : Suite.read registry options raw = .ok suite) :
    (options.format = .bracketed ∧ Block.Balanced raw ∧
        suite = ofBlocks registry (Block.ranked (Text.normalizeLines raw))) ∨
      (Block.opens raw).length = (Block.closes raw).length ∧
        (Block.opens raw = [] ∨ options.format = .legacy) ∧
          readLegacy registry options (Text.normalizeLines raw) = .ok suite := by
  have opened := Block.length_opens_normalizeLines raw
  have closed := Block.length_closes_normalizeLines raw
  by_cases equal : (Block.opens raw).length = (Block.closes raw).length
  · by_cases fallback : Block.opens raw = [] ∨ options.format = .legacy
    · exact Or.inr ⟨equal, fallback, read_of_fallback equal fallback ▸ read⟩
    · -- There are brackets then, and bracketed blocks are asked for.
      obtain ⟨some, other⟩ := not_or.1 fallback
      -- Only two formats exist.
      have bracketed : options.format = .bracketed := by
        cases format : options.format
        · rfl
        · exact absurd format other
      have balanced : Block.Balanced raw := ⟨equal, some⟩
      rw [read_of_balanced bracketed balanced, Except.ok.injEq] at read
      exact Or.inl ⟨bracketed, balanced, read.symm⟩
  · simp [Suite.read, opened, closed, equal] at read

end Suite

end TaggedTests
