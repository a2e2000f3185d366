import TaggedTests.Proofs.Block.Written
import TaggedTests.Proofs.Suite.Grouping
import TaggedTests.Proofs.Text.Inert

/-! Reading a text piece by piece: each piece takes the reader from one state to another. -/

namespace TaggedTests

namespace Text

/-- Prose of whole lines that means nothing, so that anything may be written behind it. -/
structure Lead (text : Text) : Prop where
  inert : text.Inert
  head : text.head? ≠ some '\x7b'
  last : text.getLast? = some '\n'

variable {lead text : Text}

/-- A lead is an inert text and the newline that ends it. -/
theorem Lead.exists_front (leads : lead.Lead) :
    ∃ front : Text, lead = front ++ ['\n'] ∧ front.Inert := by
  have newline := leads.last
  -- A lead ends with a newline, and what is inert stays so without it.
  obtain ⟨front, rfl⟩ := List.getLast?_eq_some_iff.1 newline
  exact ⟨front, rfl, ((inert_append_cons_iff separates_newline).1 leads.inert).1⟩

/-- A lead goes on with inert text of whole lines. -/
theorem Lead.append (leads : lead.Lead) (inert : text.Inert) (last : text.getLast? = some '\n') :
    (lead ++ text).Lead := by
  -- The newline at the end of the lead keeps the words of both parts apart.
  obtain ⟨front, rfl, before⟩ := leads.exists_front
  refine ⟨?_, ?_, ?_⟩
  · rw [List.append_assoc, List.singleton_append, inert_append_cons_iff separates_newline]
    exact ⟨before, inert⟩
  · rw [List.head?_append_of_ne_nil _ (by simp)]
    exact leads.head
  · rw [List.getLast?_append, last, Option.some_or]

/-- A lead makes no opening bracket, even behind a closing one. -/
theorem Lead.start (leads : lead.Lead) : ¬ Block.opening <:+: '/' :: lead :=
  Block.not_opening_infix_cons_iff.2 ⟨leads.head, leads.inert Block.opening (by decide)⟩

/-- A lead makes no closing bracket. -/
theorem Lead.free (leads : lead.Lead) : ¬ Block.closing <:+: lead :=
  leads.inert Block.closing (by decide)

end Text

namespace Progress

/--
Reading a text behind any lead takes the reader from one state to another.

The text continues the lead by whole blocks, and what is left behind the last of them is a lead for
the text that follows.
-/
def Reads (registry : Registry) (before : Progress) (text : Text) (after : Progress) : Prop :=
  ∀ lead : Text, lead.Lead → ∃ (blocks : List Block) (trail : Text),
    lead ++ text = blocks.flatMap Block.write ++ trail ∧ (∀ block ∈ blocks, block.Writable) ∧
      trail.Lead ∧ blocks.foldl (take registry) before = after

variable {registry : Registry} {before middle after : Progress} {text first second : Text}

/-- An empty text leaves the reader where it is. -/
theorem reads_nil : Reads registry before [] before :=
  fun lead leads => ⟨[], lead, by simp, by simp, leads, rfl⟩

/-- Inert text of whole lines leaves the reader where it is. -/
theorem reads_of_inert (inert : text.Inert) (last : text.getLast? = some '\n') :
    Reads registry before text before :=
  fun lead leads => ⟨[], lead ++ text, rfl, by simp, leads.append inert last, rfl⟩

/-- Texts are read one after the other. -/
theorem Reads.append (reads : Reads registry before first middle)
    (further : Reads registry middle second after) :
    Reads registry before (first ++ second) after := by
  -- What the first text leaves behind is the lead of the second.
  intro lead leads
  obtain ⟨blocks, trail, whole, writable, leaves, steps⟩ := reads lead leads
  obtain ⟨more, rest, behind, likewise, ends, onward⟩ := further trail leaves
  refine ⟨blocks ++ more, rest, ?_, ?_, ends, ?_⟩
  · calc lead ++ (first ++ second) = lead ++ first ++ second := (List.append_assoc ..).symm
      _ = blocks.flatMap Block.write ++ (trail ++ second) := by rw [whole, List.append_assoc]
      _ = (blocks ++ more).flatMap Block.write ++ rest := by
        rw [behind, List.flatMap_append, List.append_assoc]
  · intro block member
    exact (List.mem_append.1 member).elim (writable block) (likewise block)
  · rw [List.foldl_append, steps, onward]

/-- How lines end in the prose of a block makes no difference. -/
theorem alike_uniform (block : Block) : block.Alike block.uniform where
  -- Line ends are part of no keyword, so the prose asks for the same.
  tag := Text.lastTag?_normalizeLines block.prose
  modifiers := Text.mentionedModifiers_normalizeLines block.prose
  content := rfl

/-- Nor does it for the blocks of a list. -/
theorem foldl_take_uniform (registry : Registry) (progress : Progress) (blocks : List Block) :
    (blocks.map Block.uniform).foldl (take registry) progress =
      blocks.foldl (take registry) progress :=
  foldl_take_of_alike (List.forall₂_map_right_iff.2 (List.forall₂_same.2 fun block _ =>
    alike_uniform block)) progress

end Progress

/-- A text that takes the reader anywhere is a bracketed one, and reading it ends there. -/
theorem Suite.read_of_reads {registry : Registry} {after : Progress} {lead text : Text}
    (leads : lead.Lead) (reads : Progress.Reads registry .start text after)
    (moved : after ≠ .start) :
    Suite.read registry {} (lead ++ text) =
      .ok ⟨registry, after.globals, after.tests, [], .bracketed⟩ := by
  obtain ⟨blocks, trail, whole, writable, ends, rfl⟩ := reads lead leads
  -- Without a block the reader would not have moved.
  have some : blocks ≠ [] := by
    rintro rfl
    exact moved rfl
  rw [whole, read_of_balanced rfl (Block.balanced_writes writable some ends.start ends.free),
    Block.ranked_writes writable some ends.start ends.free, ofBlocks, Progress.takeAll,
    Progress.foldl_take_uniform]

end TaggedTests
