import TaggedTests.Proofs.Report.EditScript
import TaggedTests.Proofs.Report.Sections

/-!
Colors change nothing of a report but its colors.

Text with roles is shown in colors between sequences that each begin with an escape character. Where
no text holds such a character, taking away the sequences leaves what is shown without colors.
-/

namespace TaggedTests

namespace Text

/-- Can a character stand between the bracket and the letter of a style sequence? -/
def isStyleParameter (c : Char) : Bool := c.isDigit || c = ';'

/-- What follows the style sequence at the beginning of a text: an escape character, a bracket,
parameters and the letter `m`. -/
def afterStyle? : Text → Option Text
  | '\x1b' :: '[' :: rest =>
    match rest.dropWhile isStyleParameter with
    | 'm' :: after => some after
    | _ => none
  | _ => none

/-- What follows a style sequence is shorter than the text. -/
theorem length_lt_of_afterStyle? {text rest : Text} (found : afterStyle? text = some rest) :
    rest.length < text.length := by
  unfold afterStyle? at found
  split at found
  · next more =>
    split at found
    · next after letter =>
      cases found
      -- The two characters in front and the letter are gone at least.
      have shorter := (List.dropWhile_suffix (l := more) isStyleParameter).length_le
      rw [letter] at shorter
      simp only [List.length_cons] at shorter ⊢
      omega
    · cases found
  · cases found

/-- A text with all style sequences taken away. -/
def withoutStyles (text : Text) : Text :=
  match _found : afterStyle? text with
  | some rest => withoutStyles rest
  | none =>
    match text with
    | [] => []
    | c :: rest => c :: withoutStyles rest
termination_by text.length
decreasing_by
  · exact length_lt_of_afterStyle? _found
  · simp

/-- A text without an escape character. -/
def EscapeFree (text : Text) : Prop := '\x1b' ∉ text

instance (text : Text) : Decidable text.EscapeFree := inferInstanceAs (Decidable ('\x1b' ∉ text))

@[simp] theorem escapeFree_nil : EscapeFree [] := List.not_mem_nil

@[simp] theorem escapeFree_cons_iff {c : Char} {text : Text} :
    EscapeFree (c :: text) ↔ c ≠ '\x1b' ∧ text.EscapeFree := by
  simp [EscapeFree, eq_comm]

@[simp] theorem escapeFree_append_iff {first second : Text} :
    EscapeFree (first ++ second) ↔ first.EscapeFree ∧ second.EscapeFree := by
  simp [EscapeFree]

/-- Nothing that is cut out of a text without an escape character has one. -/
theorem EscapeFree.of_subset {text part : Text} (free : text.EscapeFree) (within : part ⊆ text) :
    part.EscapeFree :=
  fun escape => free (within escape)

/-- A style sequence is taken away, and what follows it is gone through. -/
theorem withoutStyles_of_style {text rest : Text} (found : afterStyle? text = some rest) :
    text.withoutStyles = rest.withoutStyles := by
  rw [withoutStyles]
  -- The sequence that was found is the one that is taken away.
  split
  · next other after =>
    rw [found] at after
    cases after
    rfl
  · next none => rw [found] at none; cases none

/-- Text without an escape character is left as it is. -/
theorem EscapeFree.withoutStyles_append {text : Text} (free : text.EscapeFree) (rest : Text) :
    (text ++ rest).withoutStyles = text ++ rest.withoutStyles := by
  induction text with
  | nil => rfl
  | cons c text ih =>
    obtain ⟨other, later⟩ := escapeFree_cons_iff.1 free
    -- No sequence begins with a character that is not the escape character.
    have none : afterStyle? (c :: text ++ rest) = none := by
      unfold afterStyle?
      split
      · next begins => exact absurd (List.cons.inj begins).1 other
      · rfl
    rw [withoutStyles]
    split
    · next found => rw [none] at found; cases found
    · exact congrArg (c :: ·) (ih later)

end Text

/-- The sequences around colored text are taken away. -/
theorem Role.withoutStyles_escapes (role : Role) (rest : Text) :
    Text.withoutStyles (role.escapes ++ rest) = rest.withoutStyles := by
  cases role with
  | info | warn | error | hint => exact Text.withoutStyles_of_style rfl
  | expected | actual =>
    -- Two sequences are written one behind the other.
    exact (Text.withoutStyles_of_style rfl).trans (Text.withoutStyles_of_style rfl)

/-- The sequence behind colored text is taken away. -/
theorem Role.withoutStyles_reset (rest : Text) :
    Text.withoutStyles (Role.reset ++ rest) = rest.withoutStyles :=
  Text.withoutStyles_of_style rfl

namespace Styled

/-- A report of which no piece has an escape character. -/
def EscapeFree (styled : Styled) : Prop := ∀ span ∈ styled, span.text.EscapeFree

theorem escapeFree_nil : EscapeFree [] := by simp [EscapeFree]

theorem escapeFree_cons_iff {span : Span} {styled : Styled} :
    EscapeFree (span :: styled) ↔ span.text.EscapeFree ∧ styled.EscapeFree :=
  List.forall_mem_cons

theorem escapeFree_append_iff {first second : Styled} :
    EscapeFree (first ++ second) ↔ first.EscapeFree ∧ second.EscapeFree :=
  List.forall_mem_append

theorem escapeFree_flatMap_iff {α : Type} {items : List α} {shown : α → Styled} :
    EscapeFree (items.flatMap shown) ↔ ∀ item ∈ items, (shown item).EscapeFree :=
  List.forall_mem_flatMap

/-- Taking the style sequences away from a colored report leaves the plain one. -/
theorem EscapeFree.withoutStyles_render {styled : Styled} (free : styled.EscapeFree) :
    (styled.render .color).withoutStyles = styled.render .plain := by
  -- What stands around the first piece is taken away, whatever follows it.
  induction styled with
  | nil => rw [Text.withoutStyles]; rfl
  | cons span rest ih =>
    obtain ⟨own, others⟩ := escapeFree_cons_iff.1 free
    obtain ⟨role, text⟩ := span
    have step : Text.withoutStyles (Span.render .color ⟨role, text⟩ ++ render .color rest) =
        text ++ (render .color rest).withoutStyles := by
      -- A piece without a role is not wrapped at all.
      cases role with
      | none => exact own.withoutStyles_append _
      | some role =>
        rw [show Span.render .color ⟨some role, text⟩ = role.escapes ++ text ++ Role.reset from rfl,
          List.append_assoc, List.append_assoc, role.withoutStyles_escapes,
          own.withoutStyles_append, Role.withoutStyles_reset]
    exact step.trans (congrArg (text ++ ·) (ih others))

end Styled

namespace DiffLine

/-- A column with a number is made of digits and blanks. -/
theorem escapeFree_column (number : Option Nat) : (column number).EscapeFree := by
  cases number with
  | none => simp [column, Styled.EscapeFree, Span.bare, Text.EscapeFree]
  | some number =>
    -- A number is shown in digits, behind blanks that fill the column.
    have digits : (Text.ofNat number).EscapeFree := fun escape =>
      absurd (Nat.isDigit_of_mem_toDigits (by decide) (by decide) escape) (by decide)
    have blanks (count : Nat) : Text.EscapeFree (List.replicate count ' ') := by
      simp [Text.EscapeFree]
    simp [column, Styled.EscapeFree, Span.bare, Span.of, Span.padLeft, Text.padLeft, digits, blanks]

/-- A line is shown without an escape character, if its text has none. -/
theorem escapeFree_styled {line : DiffLine} (free : line.text.EscapeFree) :
    line.styled.EscapeFree := by
  have mark : line.sign.mark.EscapeFree := by cases line.sign <;> decide
  have ending : Styled.EscapeFree (if line.isUnterminated then
      [.of line.sign.emphasis ['∅'], .newline] else []) := by
    split <;> simp [Styled.EscapeFree, Span.of, Span.newline, Span.bare]
  have pieces : Styled.EscapeFree (line.pieces.map fun piece =>
      .of (if piece.emphasized then line.sign.emphasis else line.sign.role) piece.text) := by
    -- The text of a piece is a part of that of the line.
    intro span member
    obtain ⟨piece, within, rfl⟩ := List.mem_map.1 member
    exact free.of_subset fun c inside => List.mem_flatMap.2 ⟨piece, within, inside⟩
  simp only [styled, Styled.escapeFree_append_iff]
  refine ⟨⟨⟨⟨escapeFree_column _, escapeFree_column _⟩, ?_⟩, pieces⟩, ending⟩
  simp [Styled.EscapeFree, Span.of, Span.bare, mark]

end DiffLine

/-- A line of a text has no escape character, if the text has none. -/
theorem Text.EscapeFree.of_mem_endedLines {text line : Text} (free : text.EscapeFree)
    (member : line ∈ endedLines text) : line.EscapeFree := by
  rw [← flatten_endedLines text] at free
  exact free.of_subset fun c inside => List.mem_flatten_of_mem member inside

namespace Difference

variable {method : Method} {expected actual expectedName actualName : Text}

/-- The difference of texts without escape characters has none either. -/
theorem Method.Sound.escapeFree_styled (sound : method.Sound) (old : expected.EscapeFree)
    (new : actual.EscapeFree) (oldName : expectedName.EscapeFree)
    (newName : actualName.EscapeFree) :
    (method.styled expected actual expectedName actualName).EscapeFree := by
  refine Styled.escapeFree_append_iff.2 ⟨?_, Styled.escapeFree_flatMap_iff.2 ?_⟩
  · simp only [Styled.escapeFree_cons_iff, Span.of, Span.newline, Span.bare]
    simp [oldName, newName, Styled.escapeFree_nil]
  · intro line member
    -- Every line is a line of one of the texts.
    rcases sound.text_mem member with removed | added
    · exact DiffLine.escapeFree_styled (old.of_mem_endedLines removed)
    · exact DiffLine.escapeFree_styled (new.of_mem_endedLines added)

end Difference

/-- A registry of which no label has an escape character. -/
def Registry.EscapeFree (registry : Registry) : Prop :=
  ∀ tag label, (registry.spec tag).label = some label → label.EscapeFree

/-- A test of which no text has an escape character. -/
structure Test.EscapeFree (test : Test) : Prop where
  title : test.title.EscapeFree
  features : ∀ tag feature, test.features.get? tag = some feature → feature.merged.EscapeFree
  captured : ∀ output, test.captured = some output → output.EscapeFree

/-- The joined text of a tag has no escape character. -/
theorem Test.EscapeFree.merged? {test : Test} (free : test.EscapeFree) {tag : Tag} {text : Text}
    (present : test.features.merged? tag = some text) : text.EscapeFree := by
  obtain ⟨feature, found, rfl⟩ := Option.map_eq_some_iff.1 present
  exact free.features tag feature found

namespace FailureReport

variable {registry : Registry} {test : Test} {failure : Failure}

/-- The rule has no escape character. -/
theorem escapeFree_rule : rule.EscapeFree := by
  simp [rule, Styled.EscapeFree, Span.of, Span.newline, Span.bare, Text.EscapeFree]

/-- A text under a heading has no escape character, if both have none. -/
theorem escapeFree_headed {heading text : Text} (above : heading.EscapeFree)
    (below : text.EscapeFree) : (headed heading text).EscapeFree := by
  simp [headed, Styled.EscapeFree, Span.of, Span.newline, Span.bare, above, below]

/-- The report of a test without escape characters has none either. -/
theorem escapeFree_styled (labels : registry.EscapeFree) (free : test.EscapeFree)
    (message : failure.message.EscapeFree) :
    (ofTest registry test failure).styled.EscapeFree := by
  have actual : (test.captured.getD []).EscapeFree := by
    cases captured : test.captured with
    | none => exact Text.escapeFree_nil
    | some output => exact free.captured output captured
  -- The report is taken apart: its title, the comment, the sections, the output and the difference.
  have title : Styled.EscapeFree
      [.bare (test.title ++ ": ".toList), .of .error failure.message, .newline] := by
    simp [Styled.EscapeFree, Span.of, Span.newline, Span.bare, free.title, message]
  have comment : Styled.EscapeFree (((test.features.merged? .comment).filter (· ≠ [])).elim []
      fun comment => [.bare comment, .newline]) := by
    cases told : (test.features.merged? .comment).filter (· ≠ []) with
    | none => exact Styled.escapeFree_nil
    | some comment =>
      have text := free.merged? (Option.filter_eq_some_iff.1 told).1
      simp [Styled.EscapeFree, Span.newline, Span.bare, text]
  have sections : Styled.EscapeFree (((registry.ordered .perTest).filterMap
      (section? registry test)).flatMap fun shown => .newline :: headed shown.1 shown.2) := by
    refine Styled.escapeFree_flatMap_iff.2 fun shown member => ?_
    -- A section has a label of the registry and a text of the test.
    obtain ⟨tag, -, made⟩ := List.mem_filterMap.1 member
    obtain ⟨labelled, feature, found, -, joined⟩ := section?_eq_some_iff.1 made
    have below : shown.2.EscapeFree := joined ▸ free.features tag feature found
    exact Styled.escapeFree_cons_iff.2
      ⟨by decide, escapeFree_headed (labels tag shown.1 labelled) below⟩
  have difference : Styled.EscapeFree ((if failure = .mismatch then some (test.merged .output)
      else none).elim [] fun expected => Difference.shown
        (Difference.lines expected (test.captured.getD [])) expectedName actualName) := by
    split
    · -- Without an expected output the empty text stands for it.
      have expected : (test.merged .output).EscapeFree := by
        rw [Test.merged]
        cases present : test.features.merged? .output with
        | none => exact Text.escapeFree_nil
        | some text => exact free.merged? present
      exact Difference.sound_method.escapeFree_styled expected actual (by decide) (by decide)
    · exact Styled.escapeFree_nil
  have output : Styled.EscapeFree (.newline :: headed actualName (test.captured.getD [])) :=
    Styled.escapeFree_cons_iff.2 ⟨by decide, escapeFree_headed (by decide) actual⟩
  simp only [styled, shown, ofTest, Styled.escapeFree_append_iff]
  exact ⟨⟨⟨⟨⟨⟨escapeFree_rule, title⟩, comment⟩, sections⟩, output⟩, difference⟩, escapeFree_rule⟩

/--
Colors change nothing of a report but its colors.

Where no label of the registry, no text of the test and no text of the failure holds an escape
character, taking the style sequences away from the colored report leaves the plain one. So it is
for the difference of two texts, with the columns of its numbers, in whatever way it is found, as
long as no line is lost.
-/
theorem withoutStyles_color :
    (∀ (registry : Registry) (test : Test) (failure : Failure), registry.EscapeFree →
      test.EscapeFree → failure.message.EscapeFree →
      let report := (ofTest registry test failure).styled
      (report.render .color).withoutStyles = report.render .plain) ∧
    ∀ expected actual expectedName actualName : Text, expected.EscapeFree → actual.EscapeFree →
      expectedName.EscapeFree → actualName.EscapeFree →
      let difference := Difference.styled expected actual expectedName actualName
      (difference.render .color).withoutStyles = difference.render .plain ∧
      ∀ method : Difference.Method, method.Sound →
        let difference := method.styled expected actual expectedName actualName
        (difference.render .color).withoutStyles = difference.render .plain := by
  constructor
  · intro registry test failure labels free message
    exact (escapeFree_styled labels free message).withoutStyles_render
  · intro expected actual expectedName actualName old new oldName newName
    -- Whatever loses no line shows the texts only, and so does the way of this project.
    have clean (method : Difference.Method) (sound : method.Sound) :=
      (sound.escapeFree_styled old new oldName newName).withoutStyles_render
    have own := clean Difference.method Difference.sound_method
    rw [Difference.styled_method] at own
    exact ⟨own, clean⟩

/-- A test with a wrong line, of which a word is emphasized, and the difference alone. -/
theorem withoutStyles_color_mismatch :
    let test := ((Test.empty "Test 1".toList).add
      (Registry.builtin.featureOf .output ["two 2\nthree 3".toList])).recordRun
        "two 2\nthree 4".toList true
    let report := (ofTest .builtin test .mismatch).styled
    let difference :=
      Difference.method.styled "two 2\nthree 3".toList "two 2\nthree 4".toList ['E'] ['A']
    Registry.builtin.EscapeFree ∧ test.EscapeFree ∧ report.render .color ≠ report.render .plain ∧
      (report.render .color).withoutStyles = report.render .plain ∧
      (difference.render .color).withoutStyles = difference.render .plain := by
  intro test report difference
  -- Labels, texts and message are decided one by one.
  have labels : Registry.builtin.EscapeFree := by
    intro tag label labelled
    cases tag <;> cases labelled <;> decide
  have free : test.EscapeFree := by
    refine ⟨by decide, fun tag feature found => ?_, fun output found => ?_⟩
    · cases tag <;> cases found
      decide
    · cases found
      decide
  obtain ⟨reports, differences⟩ := withoutStyles_color
  refine ⟨labels, free, ?_, reports .builtin test .mismatch labels free (by decide),
    (differences _ _ _ _ (by decide) (by decide) (by decide) (by decide)).2 Difference.method
      Difference.sound_method⟩
  -- The colored report begins with an escape character.
  exact fun same => absurd (congrArg List.head? same) (by decide +kernel)

end FailureReport

end TaggedTests
