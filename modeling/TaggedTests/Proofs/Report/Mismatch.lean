import TaggedTests.Host.Scripted
import TaggedTests.Proofs.Report.EditScript
import TaggedTests.Proofs.Test.FirstFailure
import TaggedTests.Proofs.Test.Matching
import TaggedTests.Report.FailureReport

/-!
The report of a mismatch shows a difference.

What is expected differs from what was printed. A faithful difference in which every line is in both
texts would make them equal, so in whatever way the difference is found, the report shows one of its
lines as removed or added.
-/

namespace TaggedTests

namespace Difference

variable {lines : List DiffLine} {expected actual : Text}

/-- Where every line has a number on one side, the entries of that side are all the lines. -/
theorem map_fst_entries {side : DiffLine → Option Nat}
    (numbered : ∀ line ∈ lines, side line ≠ none) :
    (lines.filterMap (DiffLine.entry? side)).map Prod.fst = lines.map DiffLine.text := by
  rw [List.map_filterMap, ← List.filterMap_eq_map]
  refine List.filterMap_congr fun line member => ?_
  -- The number of a line does not matter, as long as it has one.
  obtain ⟨number, some⟩ := Option.ne_none_iff_exists'.1 (numbered line member)
  rw [DiffLine.entry?, some, Option.map_some, Option.map_some, Function.comp_apply]

/-- A faithful difference of texts that differ has a line that is removed or added. -/
theorem Faithful.exists_marked (faithful : Faithful expected actual lines)
    (differ : expected ≠ actual) :
    ∃ line ∈ lines, line.sign = .removed ∨ line.sign = .added := by
  by_contra none
  -- If no line is removed or added, every line has both of its numbers.
  have both : ∀ line ∈ lines, line.oldNumber ≠ .none ∧ line.newNumber ≠ .none := by
    intro line member
    refine (faithful.both line member).1 ?_
    cases sign : line.sign with
    | both => rfl
    | removed => exact absurd ⟨line, member, .inl sign⟩ none
    | added => exact absurd ⟨line, member, .inr sign⟩ none
  -- Lines that are all in both texts are the lines of either text, which are then equal.
  have old : lines.map DiffLine.text = Text.endedLines expected := by
    rw [← map_fst_entries fun line member => (both line member).1, faithful.old,
      List.zipIdx_map_fst]
  have new : lines.map DiffLine.text = Text.endedLines actual := by
    rw [← map_fst_entries fun line member => (both line member).2, faithful.new,
      List.zipIdx_map_fst]
  exact differ <| by
    rw [← Text.flatten_endedLines expected, ← old, new, Text.flatten_endedLines]

end Difference

namespace FailureReport

variable {report : FailureReport} {expected : Text}

/-- The heading of a difference. -/
def header : Text := "\n--- EXPECTED OUTPUT\n+++ PROGRAM OUTPUT\n".toList

/-- A report shows lines behind the heading of a difference and in front of the rule, and one of
them is marked as removed or added. -/
def ShowsDifference (report : Styled) (lines : List DiffLine) : Prop :=
  ∃ front earlier line later,
    report.render .plain = front ++ header ++ List.flatMap DiffLine.plain earlier ++
      DiffLine.plain line ++ later.flatMap DiffLine.plain ++ rule.render .plain ∧
    lines = earlier ++ line :: later ∧ (line.sign = .removed ∨ line.sign = .added)

/-- Without colors the report of a mismatch ends with the heading of the difference, its lines and
the rule. -/
theorem exists_render_eq (lines : Text → Text → List DiffLine)
    (mismatch : report.expected = some expected) :
    ∃ front, (report.shown lines).render .plain = front ++ header ++
      (lines expected report.actual).flatMap DiffLine.plain ++ Styled.render .plain rule := by
  -- Under its two names the difference is the heading and its lines.
  have difference : (Difference.shown (lines expected report.actual) expectedName
      actualName).flatMap Span.text = header ++
        (lines expected report.actual).flatMap DiffLine.plain :=
    Difference.render_shown ..
  rw [Styled.render_plain, shown, mismatch]
  simp only [List.flatMap_append, Option.elim_some, difference]
  simp only [← List.append_assoc]
  exact ⟨_, rfl⟩

/-- The report of an output that is not the expected text shows a difference, if its lines are found
in a way that loses none. -/
theorem showsDifference_of_ne {method : Difference.Method} (sound : method.Sound)
    (mismatch : report.expected = some expected) (differ : expected ≠ report.actual) :
    ShowsDifference (report.shown method.lines) (method.lines expected report.actual) := by
  -- The marked line splits the lines that are shown into earlier and later ones.
  obtain ⟨line, member, marked⟩ := (sound.faithful expected report.actual).exists_marked differ
  obtain ⟨earlier, later, lines⟩ := List.append_of_mem member
  obtain ⟨front, shown⟩ := exists_render_eq method.lines mismatch
  refine ⟨front, earlier, line, later, ?_, lines, marked⟩
  rw [shown, lines, List.flatMap_append, List.flatMap_cons]
  simp only [List.append_assoc]

end FailureReport

/-- What is written of a feature in its own order is accepted, also if its blocks are shuffled. -/
theorem Feature.accepts_merged (feature : Feature) : feature.accepts feature.merged = true := by
  unfold accepts
  -- In their own order the blocks are one of the orders that are accepted.
  split
  · exact Shuffle.accepts_iff.2 ⟨feature.contents, .refl _, rfl⟩
  · exact decide_eq_true rfl

namespace Test

variable {σ : Type} {host : Host σ} {test : Test} {invocation : Invocation} {limit : Duration}
  {state : σ}

/-- The joined expected output is expected. -/
theorem expects_merged (test : Test) : test.expects (test.merged .output) = true := by
  -- Without an expected output, the empty text stands for it.
  unfold expects merged Features.merged?
  cases test.features.get? .output with
  | none => rfl
  | some feature => exact feature.accepts_merged

/-- A mismatch is found in a filled test with an output that it does not expect, which is then
recorded. -/
theorem exists_of_mismatch
    (mismatch : (test.run host invocation limit state).1.1 = .failed .mismatch) :
    ∃ output, (test.run host invocation limit state).1.2 = test.recordRun output true ∧
      test.filled = true ∧ test.expects output = false := by
  obtain ⟨trace, attempt, final, -, amounts, attempted, -⟩ :=
    exists_trace_attempt host test invocation limit [] state
  rw [run_eq, attempted] at mismatch ⊢
  cases attempt with
  | error failure =>
    -- What fails before the output is looked at leaves a notice, and a mismatch leaves none.
    obtain rfl : failure = .mismatch := by simpa [settle] using mismatch
    have noted := Trace.notice?_isSome_of_mem (List.mem_of_mem_head? amounts)
    cases noted
  | ok output =>
    rw [settle_ok] at mismatch ⊢
    -- An output is a mismatch only if it was compared and rejected.
    split at mismatch
    · next rejects =>
      rw [if_pos rejects]
      exact ⟨output, rfl, by simpa using rejects⟩
    · cases mismatch

/--
A mismatch comes with a difference that its report shows.

The test is filled, and the output that was recorded is another text than the joined expected
output, also where that is shuffled. Without colors the report ends with the heading of the
difference, its lines and a rule, and one of the lines is marked as removed or added. So it does
with the lines of any way to find differences that loses no line.
-/
theorem report_of_mismatch
    (mismatch : (test.run host invocation limit state).1.1 = .failed .mismatch)
    (registry : Registry) :
    let after := (test.run host invocation limit state).1.2
    let expected := test.merged .output
    let report := FailureReport.ofTest registry after .mismatch
    test.filled = true ∧ ∃ output, after.captured = some output ∧ output ≠ expected ∧
      FailureReport.ShowsDifference report.styled (Difference.lines expected output) ∧
      ∀ method : Difference.Method, method.Sound →
        FailureReport.ShowsDifference (report.shown method.lines)
          (method.lines expected output) := by
  intro after expected report
  obtain ⟨output, recorded, filled, rejected⟩ := exists_of_mismatch mismatch
  have differ : expected ≠ output := by
    -- The joined text would have been accepted.
    rintro rfl
    exact absurd (test.expects_merged.symm.trans rejected) (by decide)
  have same : after = test.recordRun output true := recorded
  have shows (method : Difference.Method) (sound : method.Sound) :
      FailureReport.ShowsDifference (report.shown method.lines) (method.lines expected output) := by
    -- The report is made of the test as it was run, which holds the output.
    show FailureReport.ShowsDifference ((FailureReport.ofTest registry after .mismatch).shown _) _
    rw [same]
    exact FailureReport.showsDifference_of_ne sound rfl differ
  exact ⟨filled, output, same ▸ rfl, differ.symm, shows Difference.method Difference.sound_method,
    shows⟩

/-- Two shuffled blocks, and an output with both in another order and a newline too many. -/
theorem report_of_mismatch_newline :
    let expected : Feature := (Registry.builtin.featureOf .output [['b'], ['a']]).apply .shuffled
    let test := (Test.empty "Test 1".toList).add expected
    let printed : List ScriptedRun := [.ends (.ok (.completed "a\nb\n".toList))]
    let ran := (test.run (Host.scripted []) ⟨[], []⟩ ⟨0⟩ printed).1
    let report := FailureReport.ofTest .builtin ran.2 .mismatch
    ran.1 = .failed .mismatch ∧
      FailureReport.ShowsDifference report.styled
        (Difference.lines "b\na".toList "a\nb\n".toList) ∧
      FailureReport.ShowsDifference (report.shown Difference.method.lines)
        (Difference.method.lines "b\na".toList "a\nb\n".toList) := by
  intro expected test printed ran report
  have mismatch : ran.1 = .failed .mismatch := by decide +kernel
  obtain ⟨-, output, found, -, shows, general⟩ := report_of_mismatch mismatch .builtin
  -- Expected text and output are known, and the lines are those between the two.
  have joined : test.merged .output = "b\na".toList := by decide +kernel
  have captured : ran.2.captured = some "a\nb\n".toList := by decide +kernel
  obtain rfl : output = "a\nb\n".toList := Option.some.inj (found.symm.trans captured)
  rw [joined] at shows general
  exact ⟨mismatch, shows, general Difference.method Difference.sound_method⟩

end Test

end TaggedTests
