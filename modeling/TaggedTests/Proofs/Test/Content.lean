import TaggedTests.Host.Scripted
import TaggedTests.Proofs.Host.Stateless
import TaggedTests.Proofs.Test.FirstFailure

/-! Tests of the same content behave alike: nothing that reads a feature sees what is left out of
the comparison. -/

namespace TaggedTests

/-- A set without a list of members is the empty one. -/
theorem Modifiers.toList_eq_nil_iff {set : Modifiers} : set.toList = [] ↔ set = {} := by
  -- Every modifier of a set is listed.
  refine ⟨fun none => ext fun modifier => ?_, fun empty => by subst empty; rfl⟩
  have absent : modifier ∉ set.toList := by simp [none]
  simpa using absent

namespace Feature

variable {feature other : Feature}

/-- The separator and the division into blocks count only for what is shuffled. -/
theorem contentEq_iff : feature.contentEq other = true ↔
    feature.tag = other.tag ∧ feature.modifiers = other.modifiers ∧
      if feature.modifiers.shuffled then
        feature.contents = other.contents ∧ feature.separator = other.separator
      else feature.merged = other.merged := by
  unfold contentEq
  split <;> simp [and_assoc]

/-- Features of the same content join to the same text, however it is divided into blocks. -/
theorem merged_of_contentEq (same : feature.contentEq other = true) :
    feature.merged = other.merged := by
  -- What is shuffled is joined of the same blocks by the same separator.
  obtain ⟨-, -, text⟩ := contentEq_iff.1 same
  split at text
  · rw [merged, merged, text.1, text.2]
  · exact text

/-- Features of the same content accept the same outputs. -/
theorem accepts_of_contentEq (same : feature.contentEq other = true) (actual : Text) :
    feature.accepts actual = other.accepts actual := by
  obtain ⟨-, modifiers, text⟩ := contentEq_iff.1 same
  -- The search for an order looks at blocks and separator, the comparison at the joined text.
  rw [accepts, accepts, ← modifiers, merged_of_contentEq same]
  split at text
  · rw [text.1, text.2]
  · next inOrder => rw [if_neg inOrder, if_neg inOrder]

/-- Without text and modifiers only an empty output is accepted. -/
theorem accepts_of_blank (empty : feature.merged = []) (plain : feature.modifiers = {})
    (actual : Text) : feature.accepts actual = actual.isEmpty := by
  simp [accepts, plain, empty, ← List.isEmpty_iff]

end Feature

namespace Features

variable {features other : Features} {tag : Tag}

/--
What is read of a tag is the same in containers that agree on it.

A reader has to overlook what sets features of the same content apart, and to take an absent feature
for one without text and modifiers.
-/
theorem read_of_agreeOn {α : Type} (read : Option Feature → α)
    (overlooks : ∀ feature counterpart, feature.contentEq counterpart = true →
      read (some feature) = read (some counterpart))
    (assumes : ∀ feature, feature.merged = [] → feature.modifiers = {} →
      read (some feature) = read none)
    (agree : features.agreeOn other tag = true) :
    read (features.get? tag) = read (other.get? tag) := by
  unfold agreeOn at agree
  -- One of the two may lack the feature, and then the other has it without content.
  cases own : features.get? tag <;> cases others : other.get? tag <;>
    simp only [own, others, Bool.and_eq_true, Feature.isEmpty, List.isEmpty_iff,
      Modifiers.toList_eq_nil_iff] at agree
  case none.none => rfl
  case none.some counterpart => exact (assumes counterpart agree.1 agree.2).symm
  case some.none feature => exact assumes feature agree.1 agree.2
  case some.some feature counterpart => exact overlooks feature counterpart agree

/-- Containers of the same content agree on every tag. -/
theorem agreeOn_of_contentEq (same : features.contentEq other = true) (tag : Tag) :
    features.agreeOn other tag = true :=
  List.all_eq_true.1 same tag (Tag.mem_all tag)

end Features

namespace Test

variable {first second : Test}

/-- Tests of the same content have the same text under every tag. -/
theorem merged_of_contentEq (same : first.contentEq second = true) (tag : Tag) :
    first.merged tag = second.merged tag :=
  -- Present on both sides, the features join to the same text; present on one, to an empty one.
  Features.read_of_agreeOn (fun found => (found.map Feature.merged).getD [])
    (fun _ _ equal => Feature.merged_of_contentEq equal) (fun _ empty _ => empty)
    (Features.agreeOn_of_contentEq same tag)

/-- Tests of the same content expect the same outputs. -/
theorem expects_of_contentEq (same : first.contentEq second = true) (output : Text) :
    first.expects output = second.expects output :=
  -- Present on both sides, they accept alike; an empty one accepts what is accepted without one.
  Features.read_of_agreeOn (·.elim output.isEmpty (·.accepts output))
    (fun _ _ equal => Feature.accepts_of_contentEq equal output)
    (fun _ empty plain => Feature.accepts_of_blank empty plain output)
    (Features.agreeOn_of_contentEq same .output)

/-- What was printed is judged by what is expected, whoever recorded it. -/
theorem validate_eq (test : Test) (captured : Option Text) :
    { test with captured := captured }.validate = captured.any test.expects := by
  -- Without an output nothing is accepted.
  cases captured with
  | none => rfl
  | some output => exact validate_recordRun test output false

/-- Tests of the same content are attempted alike. -/
theorem attempt_of_contentEq {σ : Type} (same : first.contentEq second = true) (host : Host σ)
    (invocation : Invocation) (limit : Duration) (state : σ) :
    first.attempt host invocation limit state = second.attempt host invocation limit state := by
  -- Preparation, arguments, input and cleanup are taken from joined texts.
  have text := merged_of_contentEq same
  refine attempt_congr ?_ ?_ (text .input) ?_ host invocation limit state
  · rw [startup, startup, text]
  · rw [args, args, text]
  · rw [cleanup, cleanup, text]

/-- An attempt comes to the same verdict and the same record for tests that expect the same. -/
theorem settle_of_expects (filled : first.filled = second.filled)
    (expected : ∀ output, first.expects output = second.expects output) (attempt : Attempt) :
    (first.settle attempt).1 = (second.settle attempt).1 ∧
      (first.settle attempt).2.captured = (second.settle attempt).2.captured ∧
      (first.settle attempt).2.lastRunFailed = (second.settle attempt).2.lastRunFailed := by
  -- A failure is recorded with its notice, whatever the test expects.
  rcases attempt with failure | output
  · exact ⟨rfl, rfl, rfl⟩
  · rw [settle_ok, settle_ok, filled, expected]
    split <;> exact ⟨rfl, rfl, rfl⟩

/--
Tests of the same content behave alike if an output is expected of both or of neither.

A run of either makes the same calls to a host, in the same order and with the same arguments, and
ends in the same state, outcome and record. Taking down the calls makes no difference to a run.
-/
theorem run_of_contentEq {σ : Type} (host : Host σ) (filled : first.filled = second.filled)
    (same : first.contentEq second = true) (invocation : Invocation) (limit : Duration)
    (calls : List Call) (state : σ) :
    let ran := first.run host.recorded invocation limit (calls, state)
    let also := second.run host.recorded invocation limit (calls, state)
    (ran.2 = also.2 ∧ ran.1.1 = also.1.1 ∧ ran.1.2.captured = also.1.2.captured ∧
      ran.1.2.lastRunFailed = also.1.2.lastRunFailed) ∧
    first.run host invocation limit state = (ran.1, ran.2.2) ∧
    second.run host invocation limit state = (also.1, also.2.2) ∧
    ∀ captured : Option Text, { first with captured := captured }.validate =
      { second with captured := captured }.validate := by
  intro ran also
  have expected := expects_of_contentEq same
  have attempted := attempt_of_contentEq same host.recorded invocation limit (calls, state)
  -- A run is its attempt, judged by what the test expects.
  refine ⟨⟨?_, ?_⟩, run_of_recorded .., run_of_recorded .., fun captured => ?_⟩
  · -- State and calls are those of the attempt.
    simp only [ran, also, run_eq, attempted]
  · simp only [ran, also, run_eq, attempted]
    exact settle_of_expects filled expected _
  · rw [validate_eq, validate_eq, funext expected]

/-- Lines in one block or in two, an empty comment or none, and two forced separators of which one
or the other is the active one. -/
theorem run_of_contentEq_divided :
    let host := Host.scripted []
    let output : Feature := ⟨.output, ["a\nb".toList], { endSpace := true, endNone := true }, [' ']⟩
    let lines : Feature := ⟨.input, ["a", "b"].map String.toList, {}, ['\n']⟩
    let first : Test := { empty "first".toList with
      filled := true
      features := (Features.empty.add lines).add output }
    let second : Test := { empty "second".toList with
      filled := true
      features := ((Features.empty.add lines.collapsed).add
        ⟨.comment, [[]], {}, ['\n']⟩).add { output with separator := [] } }
    let ran := first.run host.recorded ⟨[], []⟩ ⟨0⟩ ([], [])
    let also := second.run host.recorded ⟨[], []⟩ ⟨0⟩ ([], [])
    first.features ≠ second.features ∧ ran.2 = also.2 ∧ ran.1.1 = also.1.1 ∧
      ran.1.1 = .passed ∧ ran.1.2.captured = also.1.2.captured := by
  intro host output lines first second ran also
  -- The tests differ in how their input is divided, in an empty comment and in a separator.
  obtain ⟨⟨ended, outcome, captured, -⟩, -⟩ :=
    run_of_contentEq host (show first.filled = second.filled from rfl)
      (show first.contentEq second = true by decide +kernel) ⟨[], []⟩ ⟨0⟩ [] []
  exact ⟨by decide +kernel, ended, outcome, by decide +kernel, captured⟩

end Test

end TaggedTests
