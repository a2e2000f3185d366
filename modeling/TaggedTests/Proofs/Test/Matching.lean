import Mathlib.Data.List.Perm.Basic
import TaggedTests.Test.Matching

/-! A shuffled output is accepted exactly when it joins the expected blocks in some order. -/

namespace TaggedTests

/-- Attempts that restore the state when they fail find an item exactly when one would do alone. -/
theorem firstSuccess_iff {ι σ : Type} {attempt : ι → σ → Bool × σ} {state : σ} {items : List ι}
    (restores : ∀ item, (attempt item state).1 = false → (attempt item state).2 = state) :
    (firstSuccess attempt items state).1 = true ↔
      ∃ item ∈ items, (attempt item state).1 = true := by
  -- A failed attempt hands on the state it was given, so every item meets the same one.
  induction items with
  | nil => simp [firstSuccess]
  | cons item rest ih =>
    rcases tried : attempt item state with ⟨_ | _, left⟩
    · have same : left = state := by simpa [tried] using restores item
      simp [firstSuccess, tried, same, ih]
    · simp [firstSuccess, tried]

/-- When every attempt restores the state on failure, so does making them in order. -/
theorem firstSuccess_restores {ι σ : Type} {attempt : ι → σ → Bool × σ} {state : σ}
    {items : List ι}
    (restores : ∀ item, (attempt item state).1 = false → (attempt item state).2 = state)
    (failed : (firstSuccess attempt items state).1 = false) :
    (firstSuccess attempt items state).2 = state := by
  -- The state is still the first one whenever another item comes up.
  induction items with
  | nil => rfl
  | cons item rest ih =>
    rcases tried : attempt item state with ⟨_ | _, left⟩
    · have same : left = state := by simpa [tried] using restores item
      simp only [firstSuccess, tried, same] at failed ⊢
      exact ih failed
    · simp [firstSuccess, tried] at failed

namespace Shuffle

variable {shuffle : Shuffle}

/-- The blocks that are not marked as used. -/
def unused : List Text → List Bool → List Text
  | block :: blocks, mark :: used =>
    if mark then unused blocks used else block :: unused blocks used
  | _, _ => []

/-- Without any marks every block is unused. -/
theorem unused_replicate (blocks : List Text) :
    unused blocks (List.replicate blocks.length false) = blocks := by
  -- No block is marked as used, so each of them is left.
  induction blocks with
  | nil => rfl
  | cons block rest ih => simp [unused, List.replicate_succ, ih]

/-- Marking an unused block takes it, and nothing else, from the unused ones. -/
theorem unused_perm_set {blocks : List Text} {used : List Bool} {place : Nat} {block : Text}
    (present : blocks[place]? = some block) (free : used[place]? = some false) :
    (unused blocks used).Perm (block :: unused blocks (used.set place true)) := by
  -- The place is the first one or lies further on, behind a block that is used or not.
  induction blocks generalizing used place with
  | nil => simp at present
  | cons head rest ih =>
    rcases used with _ | ⟨mark, used⟩
    · simp at free
    rcases place with _ | place
    · have same : head = block := by simpa using present
      have unmarked : mark = false := by simpa using free
      simp [unused, same, unmarked]
    · have inner : (unused rest used).Perm (block :: unused rest (used.set place true)) :=
        ih (by simpa using present) (by simpa using free)
      cases mark with
      | true => simpa [unused] using inner
      -- A block that is not used stays in front of the one that was taken.
      | false =>
        simp only [unused, List.set_cons_succ, Bool.false_eq_true, if_false]
        exact (inner.cons head).trans (.swap block head _)

/-- An unused block stands at a place that is not marked. -/
theorem exists_place_of_mem_unused {blocks : List Text} {used : List Bool} {block : Text}
    (member : block ∈ unused blocks used) :
    ∃ place : Nat, blocks[place]? = some block ∧ used[place]? = some false := by
  -- The block is the first one, unmarked, or is found further on.
  induction blocks generalizing used with
  | nil => simp [unused] at member
  | cons head rest ih =>
    rcases used with _ | ⟨mark, used⟩
    · simp [unused] at member
    have later (inside : block ∈ unused rest used) :
        ∃ place : Nat, (head :: rest)[place]? = some block ∧
          (mark :: used)[place]? = some false := by
      obtain ⟨place, present, free⟩ := ih inside
      exact ⟨place + 1, by simpa using present, by simpa using free⟩
    cases mark with
    | true => exact later (by simpa [unused] using member)
    | false =>
      rcases List.mem_cons.1 (by simpa [unused] using member) with same | inside
      · exact ⟨0, by simp [same], by simp⟩
      · exact later inside

/-- A mark that can be taken back was set at a place that was free before. -/
theorem set_true_set_false {used : List Bool} {place : Nat} (free : used[place]? = some false) :
    (used.set place true).set place false = used := by
  obtain ⟨inside, unmarked⟩ := List.getElem?_eq_some_iff.1 free
  rw [List.set_set, ← unmarked, List.set_getElem_self]

/-- Trying a block ends well when it is free, the text starts with it and the rest ends well. -/
theorem tryBlock_iff {more : Bool} {text : Text} {tryRest : Text → List Bool → Bool × List Bool}
    {item : Text × Nat} {used : List Bool} :
    (shuffle.tryBlock more text tryRest item used).1 = true ↔
      used[item.2]? = some false ∧
        ∃ rest, shuffle.strip? more item.1 text = some rest ∧
          (tryRest rest (used.set item.2 true)).1 = true := by
  -- A place without a mark at all counts as used.
  unfold tryBlock
  rcases marked : used[item.2]? with _ | _ | _
  · simp [List.getD, marked]
  · rcases stripped : shuffle.strip? more item.1 text with _ | rest
    · simp [List.getD, marked]
    · rcases tried : tryRest rest (used.set item.2 true) with ⟨_ | _, left⟩ <;>
        simp [List.getD, marked, tried]
  · simp [List.getD, marked]

/-- Trying a block in vain leaves the marks as they were, if trying the rest does. -/
theorem tryBlock_restores {more : Bool} {text : Text}
    {tryRest : Text → List Bool → Bool × List Bool} {item : Text × Nat} {used : List Bool}
    (restores : ∀ rest marks, (tryRest rest marks).1 = false → (tryRest rest marks).2 = marks)
    (failed : (shuffle.tryBlock more text tryRest item used).1 = false) :
    (shuffle.tryBlock more text tryRest item used).2 = used := by
  -- Only a free block that the text starts with was marked at all.
  unfold tryBlock at failed ⊢
  rcases marked : used[item.2]? with _ | _ | _
  · simp [List.getD, marked]
  · rcases stripped : shuffle.strip? more item.1 text with _ | rest
    · simp [List.getD, marked]
    · rcases tried : tryRest rest (used.set item.2 true) with ⟨_ | _, left⟩
      · have same : left = used.set item.2 true := by
          simpa [tried] using restores rest (used.set item.2 true)
        simpa [List.getD, marked, tried, same] using set_true_set_false marked
      · simp [List.getD, marked, stripped, tried] at failed
  · simp [List.getD, marked]

/-- A search in vain takes back every mark that it set. -/
theorem search_restores (remaining : Nat) (text : Text) (used : List Bool)
    (failed : (shuffle.search remaining text used).1 = false) :
    (shuffle.search remaining text used).2 = used := by
  -- The induction is on the number of blocks that remain, for every text and all marks.
  induction remaining generalizing text used with
  | zero => rfl
  | succ remaining ih =>
    exact firstSuccess_restores (fun _ => tryBlock_restores ih) failed

/-- What is left behind a block is what is joined to it. -/
theorem strip?_eq_some_iff {more : Bool} {block text rest : Text} :
    shuffle.strip? more block text = some rest ↔
      text = block ++ ((if more then shuffle.separator else []) ++ rest) := by
  -- The block comes first, then the separator if there is more to come.
  unfold strip?
  rcases found : Text.after? block text with _ | tail
  · have never : ∀ after, text ≠ block ++ after := by
      intro after same
      simp [Text.after?_eq_some_iff.2 same] at found
    simp [never]
  · have front := Text.after?_eq_some_iff.1 found
    cases more <;> simp [front, Text.after?_eq_some_iff]

/-- The search finds exactly the texts that join the unused blocks in some order. -/
theorem search_iff {remaining : Nat} {text : Text} {used : List Bool}
    (count : (unused shuffle.blocks used).length = remaining) :
    (shuffle.search remaining text used).1 = true ↔
      ∃ order, order.Perm (unused shuffle.blocks used) ∧
        text = shuffle.separator.intercalate order := by
  -- The induction is on the number of unused blocks; the first of an order is the one to try.
  induction remaining generalizing text used with
  | zero =>
    have none_left := List.length_eq_zero_iff.1 count
    simp [search, none_left, List.isEmpty_iff]
  | succ remaining ih =>
    -- A block that cannot be first leaves the search as it was, so that any block is tried from
    -- there.
    have attempts : (shuffle.search (remaining + 1) text used).1 = true ↔
        ∃ item ∈ shuffle.blocks.zipIdx,
          (shuffle.tryBlock (remaining ≠ 0) text (shuffle.search remaining) item used).1 = true :=
      firstSuccess_iff fun _ => tryBlock_restores (search_restores remaining)
    -- A separator follows the first block exactly if another block is left.
    have joined {block : Text} {order : List Text} (size : order.length = remaining) :
        shuffle.separator.intercalate (block :: order) =
          block ++ ((if decide (remaining ≠ 0) then shuffle.separator else []) ++
            shuffle.separator.intercalate order) := by
      rcases order with _ | ⟨next, order⟩
      · simp [← size]
      · simp [← size, List.intercalate_cons_cons]
    refine attempts.trans ⟨?_, ?_⟩
    · rintro ⟨⟨block, place⟩, member, success⟩
      -- The block that was tried with success goes first, and the rest is an order of the others.
      obtain ⟨free, rest, stripped, found⟩ := tryBlock_iff.1 success
      have taken := unused_perm_set (List.mem_zipIdx_iff_getElem?.1 member) free
      have fewer : (unused shuffle.blocks (used.set place true)).length = remaining := by
        simpa [count] using taken.length_eq.symm
      obtain ⟨order, permuted, same⟩ := (ih fewer).1 found
      refine ⟨block :: order, (permuted.cons block).trans taken.symm, ?_⟩
      rw [joined (permuted.length_eq.trans fewer), ← same]
      exact strip?_eq_some_iff.1 stripped
    · rintro ⟨order, permuted, same⟩
      rcases order with _ | ⟨block, order⟩
      · simp [← permuted.length_eq] at count
      -- The first block of the order is tried, at a place at which it is unused.
      obtain ⟨place, present, free⟩ :=
        exists_place_of_mem_unused (permuted.subset (List.mem_cons_self ..))
      have others := (permuted.trans (unused_perm_set present free)).cons_inv
      have size : order.length = remaining := by simpa [count] using permuted.length_eq
      refine ⟨(block, place), List.mem_zipIdx_iff_getElem?.2 present, tryBlock_iff.2 ⟨free, ?_⟩⟩
      refine ⟨shuffle.separator.intercalate order, ?_, ?_⟩
      · exact strip?_eq_some_iff.2 (same.trans (joined size))
      · exact (ih (others.length_eq.symm.trans size)).2 ⟨order, others, rfl⟩

/-- Exactly the joined orders of the blocks are accepted. -/
theorem accepts_iff {text : Text} :
    shuffle.accepts text = true ↔
      ∃ order, order.Perm shuffle.blocks ∧ text = shuffle.separator.intercalate order := by
  -- At the start every block is unused.
  have all := unused_replicate shuffle.blocks
  unfold accepts
  rw [search_iff (congrArg List.length all), all]

end Shuffle

namespace Feature

/-- A shuffled feature accepts a text exactly when some order of its blocks joins to that text. -/
theorem accepts_iff_exists_perm (feature : Feature) (shuffled : feature.modifiers.has .shuffled)
    (actual : Text) :
    feature.accepts actual = true ↔
      ∃ order, order.Perm feature.contents ∧ actual = feature.separator.intercalate order := by
  -- The modifier selects the search, which finds exactly the joined orders.
  have chosen : feature.accepts actual =
      Shuffle.accepts ⟨feature.contents, feature.separator⟩ actual := if_pos shuffled
  rw [chosen]
  exact Shuffle.accepts_iff

/-- A block that starts another, an empty block and a repeated one, in an order found late. -/
theorem accepts_overlapping_blocks :
    let feature : Feature :=
      ⟨.output, ["a", "", "a\nb", "a"].map String.toList, { shuffled := true }, ['\n']⟩
    feature.modifiers.has .shuffled ∧ feature.accepts "a\nb\na\n\na".toList = true :=
  -- This order of the blocks is found although some begin with others.
  ⟨rfl, (accepts_iff_exists_perm _ rfl _).2
    ⟨["a\nb", "a", "", "a"].map String.toList, by decide, by decide⟩⟩

end Feature

end TaggedTests
