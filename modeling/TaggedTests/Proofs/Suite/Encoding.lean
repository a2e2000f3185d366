import TaggedTests.Proofs.Suite.Provenance
import TaggedTests.Proofs.Text.Cutting
import TaggedTests.Suite.Sections

/-!
Writing sections of the older format.

Reading loses nothing of a text behind its first marker but whether a newline ended a command line,
and what is written of sections without markers inside is read back.
-/

namespace TaggedTests

/-- What a section says: its command line, if it has one, its input and, where tests are filled, its
expected output. -/
structure Section where
  cmd : Option Text
  input : Text
  output : Option Text
  deriving DecidableEq, Repr

namespace Section

/-- What a test says of its command line, its input and its expected output. -/
def ofTest (test : Test) : Section where
  cmd := test.features.merged? .cmd
  input := test.merged .input
  output := test.features.merged? .output

/-- The parts of a section, in order. -/
def parts (content : Section) : List Text :=
  content.cmd.toList ++ content.input :: content.output.toList

/-- Command line and input as written, with or without a newline that ends the command line. -/
def front (newline : Bool) (content : Section) : Text :=
  content.cmd.elim [] (fun cmd => cmd ++ (if newline then ['\n'] else []) ++ Sections.cmdMarker) ++
    content.input

/-- A section as written, behind its marker. -/
def body (newline : Bool) (content : Section) : Text :=
  content.front newline ++ content.output.elim [] (Sections.outputMarker ++ ·)

/-- A section as written. -/
def encode (newline : Bool) (content : Section) : Text :=
  Sections.inputMarker ++ content.body newline

/-- The test that a section makes. -/
def toTest (registry : Registry) (title : Text) (content : Section) : Test :=
  let start := content.cmd.elim (Test.empty title) fun cmd =>
    (Test.empty title).add (registry.featureOf .cmd [cmd])
  let unfilled := start.add (registry.featureOf .input [content.input])
  content.output.elim unfilled fun output => unfilled.add (registry.featureOf .output [output])

/-- A section in which every marker that is written around its parts is found where it is written:
no part holds the marker of a section, and none holds a marker that would be looked for in it. -/
structure Encodable (filled : Bool) (content : Section) : Prop where
  output : content.output.isSome = filled
  parts : ∀ part ∈ content.parts, ¬ Sections.inputMarker <:+: part
  line : ∀ cmd ∈ content.cmd,
    ∀ marker ∈ [Sections.inputMarker, Sections.cmdMarker, Sections.outputMarker],
      ¬ marker <:+: cmd ++ ['\n']
  input : filled = true → ¬ Sections.outputMarker <:+: content.input
  bare : content.cmd = none → ¬ Sections.cmdMarker <:+: content.input

variable {registry : Registry} {title part : Text} {content : Section}

/-- Every part of a section is in what is written of it. -/
theorem infix_body_of_mem (member : part ∈ content.parts) (newline : Bool) :
    part <:+: content.body newline := by
  obtain ⟨cmd, input, output⟩ := content
  rw [parts, List.mem_append, List.mem_cons, Option.mem_toList, Option.mem_toList] at member
  -- Command and input stand at the front, and the output behind its marker.
  rcases member with rfl | rfl | rfl
  · rw [body, front, Option.elim_some, List.append_assoc, List.append_assoc, List.append_assoc]
    exact (List.prefix_append ..).isInfix
  · exact (List.suffix_append ..).isInfix.trans (List.prefix_append ..).isInfix
  · rw [body, Option.elim_some, ← List.append_assoc]
    exact (List.suffix_append ..).isInfix

/-- What the empty test has and every further block of a test keeps, the test of a section has. -/
theorem toTest_of_kept {property : Test → Prop} (own : property (.empty title))
    (kept : ∀ (test : Test) (tag : Tag) (text : Text), tag.scope = .perTest → property test →
      property (test.add (registry.featureOf tag [text]))) :
    property (content.toTest registry title) := by
  -- Command, input and output are added in turn, as far as they are there.
  have start : property (content.cmd.elim (Test.empty title) fun cmd =>
      (Test.empty title).add (registry.featureOf .cmd [cmd])) := by
    cases content.cmd with
    | none => exact own
    | some cmd => exact kept _ _ _ rfl own
  unfold toTest
  cases content.output with
  | none => exact kept _ _ _ rfl start
  | some output => exact kept _ _ _ rfl (kept _ _ _ rfl start)

/-- The test of a section is made from the registry. -/
theorem made_toTest : (content.toTest registry title).Made registry :=
  toTest_of_kept (.empty title) fun _ tag text _ made =>
    made.add (registry.made_featureOf tag text)

/-- The test of a section has each part of the section as the single block of a tag, and nothing
else. -/
theorem get?_toTest (tag : Tag) :
    (content.toTest registry title).features.get? tag =
      match tag with
      | .cmd => content.cmd.map fun cmd => registry.featureOf .cmd [cmd]
      | .input => some (registry.featureOf .input [content.input])
      | .output => content.output.map fun output => registry.featureOf .output [output]
      | _ => none := by
  -- Each of the three features stands under its own tag, and no other one is there.
  obtain ⟨_ | cmd, input, _ | output⟩ := content <;> cases tag <;> rfl

/-- The blocks of the test of a section are the parts of the section. -/
theorem each_toTest : (content.toTest registry title).features.Each (· ∈ content.parts) := by
  intro tag feature found part member
  -- A feature of one block has this block for its part.
  have one {text : Text} (same : registry.featureOf tag [text] = feature) : part = text := by
    simpa [← same, Registry.featureOf, Feature.withContents] using member
  rw [get?_toTest] at found
  -- No other tag than these three has a feature.
  cases tag <;> simp only [Option.map_eq_some_iff, Option.some.injEq, reduceCtorEq] at found
  case cmd =>
    obtain ⟨cmd, given, same⟩ := found
    simp [parts, given, one same]
  case input => simp [parts, one found]
  case output =>
    obtain ⟨output, given, same⟩ := found
    simp [parts, given, one same]

/-- The test of a section says what the section says. -/
@[simp] theorem ofTest_toTest : ofTest (content.toTest registry title) = content := by
  -- The joined text of a single block is that block.
  simp [ofTest, Test.merged, Features.merged?, get?_toTest, Option.map_map, Function.comp_def,
    Registry.merged_featureOf]

/-- The test of a section has the title that it was given. -/
@[simp] theorem title_toTest : (content.toTest registry title).title = title := by
  obtain ⟨_ | cmd, input, _ | output⟩ := content <;> rfl

/-- The test of a section is filled exactly when the section has an expected output. -/
@[simp] theorem filled_toTest :
    (content.toTest registry title).filled = content.output.isSome := by
  obtain ⟨_ | cmd, input, _ | output⟩ := content <;> rfl

end Section

namespace Sections

variable {registry : Registry} {filled : Bool} {index : Nat} {text title : Text} {test : Test}
  {content : Section}

/-- A text is what is left without the newline at its end, and that newline if there was one. -/
theorem exists_dropNewline (text : Text) :
    ∃ newline : Bool, text = dropNewline text ++ if newline then ['\n'] else [] := by
  unfold dropNewline
  -- A newline is the last character, or there is none to drop.
  split
  · next last =>
    obtain ⟨front, rfl⟩ := List.getLast?_eq_some_iff.1 last
    exact ⟨true, by simp⟩
  · exact ⟨false, by simp⟩

/-- Of a line the newline at its end is dropped. -/
@[simp] theorem dropNewline_concat (text : Text) : dropNewline (text ++ ['\n']) = text := by
  simp [dropNewline]

/-- Command line and input of a section are what is written of its test. -/
theorem exists_front_withInput (registry : Registry) (title text : Text) :
    ∃ (content : Section) (newline : Bool), content.output = none ∧
      text = content.front newline ∧
      withInput registry (.empty title) text = content.toTest registry title := by
  -- Without a marker all of the text is input; a marker ends the command, with or without a
  -- newline.
  cases cut : Text.cut? cmdMarker text with
  | none => exact ⟨⟨none, text, none⟩, false, rfl, rfl, by rw [withInput, cut]; rfl⟩
  | some parts =>
    obtain ⟨line, input⟩ := parts
    obtain ⟨newline, ended⟩ := exists_dropNewline line
    refine ⟨⟨some (dropNewline line), input, none⟩, newline, rfl, ?_, by rw [withInput, cut]; rfl⟩
    rw [Text.eq_of_cut? cut, Section.front, Option.elim_some, ← ended, List.append_assoc]

/-- A section that can be read is what is written of its test. -/
theorem exists_body_of_readSection (read : readSection registry filled index text = .ok test) :
    ∃ (content : Section) (newline : Bool), content.output.isSome = filled ∧
      text = content.body newline ∧ test = content.toTest registry (Test.titleAt index) := by
  unfold readSection at read
  cases filled with
  | false =>
    cases read
    -- Without an output the whole section is its front.
    obtain ⟨content, newline, unfilled, whole, made⟩ :=
      exists_front_withInput registry (Test.titleAt index) text
    refine ⟨content, newline, by rw [unfilled]; rfl, ?_, made⟩
    rw [Section.body, unfilled, Option.elim_none, List.append_nil, whole]
  | true =>
    simp only [if_true] at read
    split at read
    · cases read
    · next line output cut =>
      cases read
      -- The expected output is added to what stands in front of its marker.
      obtain ⟨⟨cmd, input, _⟩, newline, rfl, whole, made⟩ :=
        exists_front_withInput registry (Test.titleAt index) line
      refine ⟨⟨cmd, input, some output⟩, newline, rfl, ?_, by rw [made]; rfl⟩
      rw [Text.eq_of_cut? cut, whole]
      rfl

/-- A section cannot be read exactly when it lacks the expected output that is asked for. -/
theorem readSection_eq_error_iff {error : ParseError} :
    readSection registry filled index text = .error error ↔
      filled = true ∧ ¬ outputMarker <:+: text ∧ error = .missingOutput (index + 1) := by
  unfold readSection
  -- Only where an output is asked for can a section be refused.
  cases filled with
  | false => simp
  | true =>
    simp only [if_true, true_and]
    split
    -- The marker was not found, so that there is none.
    · next missing => simp [Text.cut?_eq_none_iff.1 missing, eq_comm]
    · next cut =>
      -- The marker was found, and so there is one.
      have occurs : outputMarker <:+: text := by
        by_contra absent
        simp [Text.cut?_of_absent absent] at cut
      simp [occurs]

/-- A marker in square brackets occurs in command line and input only inside one of them. -/
theorem infix_front_iff {rest : Text} (alone : '\x7b' ∉ rest) :
    '[' :: rest <:+: content.front true ↔
      (∃ cmd ∈ content.cmd, '[' :: rest <:+: cmd ++ ['\n']) ∨
        '[' :: rest <:+: content.input := by
  obtain ⟨_ | cmd, input, output⟩ := content
  · simp [Section.front]
  · -- It neither runs into the marker of the command line nor begins in it.
    have split : Section.front true ⟨some cmd, input, output⟩ =
        cmd ++ ['\n'] ++ '\x7b' :: ("CMD\x7d\n".toList ++ input) := by
      rw [Section.front, Option.elim_some, List.append_assoc]
      rfl
    have behind : '[' :: rest <:+: '\x7b' :: ("CMD\x7d\n".toList ++ input) ↔
        '[' :: rest <:+: input :=
      Text.infix_append_iff_of_head (by decide : '[' ∉ '\x7b' :: "CMD\x7d\n".toList)
    rw [split, Text.infix_append_cons_iff_of_tail alone (List.cons_ne_nil '[' rest), behind]
    simp only [Option.mem_some_iff, exists_eq_left']

/-- What is written of a section holds no marker of a section. -/
theorem not_inputMarker_infix_body (encodable : content.Encodable filled) :
    ¬ inputMarker <:+: content.body true := by
  have own : inputMarker = '[' :: "INPUT]\n".toList := rfl
  have alone : '[' ∉ ('[' :: "INPUT]\n".toList).tail := by decide
  -- Neither command line nor input holds it, and what would have to begin in one of them does not.
  have front : ¬ inputMarker <:+: content.front true := by
    rw [own, infix_front_iff (by decide)]
    rintro (⟨cmd, given, inside⟩ | inside)
    · exact encodable.line cmd given _ (List.mem_cons_self ..) inside
    · exact encodable.parts _ (by simp [Section.parts]) inside
  cases result : content.output with
  | none => rwa [Section.body, result, Option.elim_none, List.append_nil]
  | some output =>
    have behind : ¬ inputMarker <:+: output :=
      encodable.parts output (by simp [Section.parts, result])
    have split : content.body true =
        content.front true ++ '[' :: ("OUTPUT]\n".toList ++ output) := by
      rw [Section.body, result]
      rfl
    rw [own] at front behind ⊢
    rw [split, Text.infix_append_cons_iff_of_tail alone (List.cons_ne_nil _ _), List.infix_cons_iff,
      Text.infix_append_iff_of_head (by decide)]
    -- The marker is in the front, begins at the output's marker or is in the output.
    rintro (inside | starts | inside)
    · exact front inside
    · simp at starts
    · exact behind inside

/-- What is written of command line and input is read back. -/
theorem withInput_front (encodable : content.Encodable filled) (registry : Registry)
    (title : Text) :
    withInput registry (.empty title) (content.front true) =
      Section.toTest registry title { content with output := none } := by
  obtain ⟨_ | cmd, input, output⟩ := content
  · -- Without a command line the input must not hold its marker.
    have absent : Text.cut? cmdMarker input = none := Text.cut?_of_absent (encodable.bare rfl)
    simp only [Section.front, Option.elim_none, List.nil_append, withInput, absent]
    rfl
  · -- The marker is in no command line, so that it is found behind this one.
    have line := encodable.line cmd rfl cmdMarker (by simp)
    have cut : Text.cut? cmdMarker (Section.front true ⟨some cmd, input, output⟩) =
        some (cmd ++ ['\n'], input) := by
      rw [Section.front, Option.elim_some, List.append_assoc]
      exact Text.cut?_append (by decide : '\x7b' ∉ "CMD\x7d\n".toList) line input
    rw [withInput, cut]
    simp only [dropNewline_concat]
    rfl

/-- What is written of a section is read back. -/
theorem readSection_body (encodable : content.Encodable filled) (registry : Registry)
    (index : Nat) :
    readSection registry filled index (content.body true) =
      .ok (content.toTest registry (Test.titleAt index)) := by
  have front := withInput_front encodable registry (Test.titleAt index)
  cases result : content.output with
  | none =>
    obtain rfl : false = filled := by simpa [result] using encodable.output
    have same : content = { content with output := none } := by rw [← result]
    rw [Section.body, result, Option.elim_none, List.append_nil, readSection, front, ← same]
    rfl
  | some output =>
    obtain rfl : true = filled := by simpa [result] using encodable.output
    -- The marker is in neither command line nor input, so that it is found behind them.
    have absent : ¬ outputMarker <:+: content.front true := by
      have own : outputMarker = '[' :: "OUTPUT]\n".toList := rfl
      rw [own, infix_front_iff (by decide)]
      rintro (⟨cmd, given, inside⟩ | inside)
      · exact encodable.line cmd given outputMarker (by simp) inside
      · exact encodable.input rfl inside
    have cut : Text.cut? outputMarker (content.body true) = some (content.front true, output) := by
      rw [Section.body, result, Option.elim_some]
      exact Text.cut?_append (by decide : '[' ∉ "OUTPUT]\n".toList) absent output
    -- Adding the output makes the test that was encoded.
    have made : content.toTest registry (Test.titleAt index) =
        (Section.toTest registry (Test.titleAt index) { content with output := none }).add
          (registry.featureOf .output [output]) := by
      simp only [Section.toTest, result, Option.elim_some, Option.elim_none]
    simp only [readSection, if_true, cut, front, made]

end Sections

end TaggedTests
