import TaggedTests.Proofs.Block.Pairing

/-! The blocks of a text are the first blocks of every text that it begins. -/

namespace TaggedTests

namespace Text

variable {pattern front rest : Text} {start stop place : Nat}

/-- A text with uniform line ends begins as its front does when that is made uniform alone. -/
theorem normalizeLines_prefix (front rest : Text) :
    normalizeLines front <+: normalizeLines (front ++ rest) := by
  -- Only a carriage return at the end of the front can join with what follows, to the same newline.
  fun_induction normalizeLines front with
  | case1 => exact List.nil_prefix
  | case2 front ih => simpa [normalizeLines] using ih
  | case3 c front plain ih =>
    by_cases joins : c = '\r' ∧ ∃ after, front ++ rest = '\n' :: after
    · obtain ⟨rfl, after, same⟩ := joins
      obtain rfl : front = [] := by
        rcases front with _ | ⟨d, front⟩
        · rfl
        · exact absurd (by simp_all) (plain front rfl)
      rw [List.nil_append] at same
      simp [same, normalizeLines]
    · -- Otherwise the character becomes the same one, whatever follows the front.
      have alone : ∀ after, c = '\r' → front ++ rest = '\n' :: after → False :=
        fun after returned same => joins ⟨returned, after, same⟩
      rw [List.cons_append, normalizeLines.eq_3 c _ alone]
      exact (List.prefix_cons_inj _).2 ih

/-- A pattern lies inside the text in which it has a place. -/
theorem bounds_of_mem_positionsFrom (found : place ∈ positionsFrom pattern start front) :
    start ≤ place ∧ place + pattern.length ≤ start + front.length := by
  -- The place is the beginning of the text at hand, or one behind its first character.
  induction front generalizing start with
  | nil =>
    simp only [positionsFrom] at found
    split at found
    · next none => simp_all
    · simp at found
  | cons c front ih =>
    -- Behind the first character the bounds are those for one place further on.
    have later (inside : place ∈ positionsFrom pattern (start + 1) front) :
        start ≤ place ∧ place + pattern.length ≤ start + (c :: front).length := by
      obtain ⟨low, high⟩ := ih inside
      simp only [List.length_cons]
      omega
    simp only [positionsFrom] at found
    split at found
    · next starts =>
      have fits := (List.isPrefixOf_iff_prefix.1 starts).length_le
      rcases List.mem_cons.1 found with rfl | inside
      · omega
      · exact later inside
    · exact later found

/-- The places of a pattern in a text begin with its places in the front of that text. -/
theorem prefix_positionsFrom_append (solid : pattern ≠ []) :
    positionsFrom pattern start front <+: positionsFrom pattern start (front ++ rest) := by
  induction front generalizing start with
  | nil => simp [positionsFrom, solid]
  | cons c front ih =>
    simp only [List.cons_append, positionsFrom, List.isPrefixOf_iff_prefix]
    by_cases starts : pattern <+: c :: front
    · -- What begins within the front begins there in the longer text as well.
      have also : pattern <+: c :: (front ++ rest) := starts.trans (List.prefix_append ..)
      rw [if_pos starts, if_pos also]
      exact (List.prefix_cons_inj _).2 ih
    · rw [if_neg starts]
      split
      · next across =>
        -- What starts here reaches beyond the front, so that nothing fits into the rest of it.
        have long : front.length + 1 < pattern.length := by
          by_contra short
          refine starts (List.prefix_of_prefix_length_le across ?_ (by simp; omega))
          exact List.prefix_append (c :: front) rest
        have none : positionsFrom pattern (start + 1) front = [] :=
          List.eq_nil_iff_forall_not_mem.2 fun place found => by
            have := bounds_of_mem_positionsFrom found
            omega
        rw [none]
        exact List.nil_prefix
      · exact ih

/-- What lies in the front of a text does not depend on the rest of it. -/
theorem slice_append_of_le (inside : stop ≤ front.length) :
    slice start stop (front ++ rest) = slice start stop front := by
  -- An inverted range is empty in either text.
  rcases Nat.le_total start stop with ordered | inverted
  · rw [slice, slice, List.drop_append_of_le_length (ordered.trans inside),
      List.take_append_of_le_length (by simp; omega)]
  · simp [slice, Nat.sub_eq_zero_of_le inverted]

end Text

namespace Block

variable {front rest : Text} {rank : Nat}

/-- The opening brackets of a text begin with those of its front. -/
theorem prefix_opens_append (front rest : Text) : opens front <+: opens (front ++ rest) :=
  Text.prefix_positionsFrom_append (by decide)

/-- The closing brackets of a text begin with those of its front. -/
theorem prefix_closes_append (front rest : Text) : closes front <+: closes (front ++ rest) :=
  Text.prefix_positionsFrom_append (by decide)

/-- An opening bracket stands inside the text that has it. -/
theorem getD_opens_le (inside : rank < (opens front).length) :
    (opens front).getD rank 0 ≤ front.length := by
  rw [List.getD_eq_getElem _ _ inside]
  -- A marker that is found begins within the text.
  have := Text.bounds_of_mem_positionsFrom (List.getElem_mem inside)
  omega

/-- A closing bracket stands inside the text that has it. -/
theorem getD_closes_le (inside : rank < (closes front).length) :
    (closes front).getD rank 0 ≤ front.length := by
  rw [List.getD_eq_getElem _ _ inside]
  -- A marker that is found begins within the text.
  have := Text.bounds_of_mem_positionsFrom (List.getElem_mem inside)
  omega

/-- A block whose brackets are in the front of a text does not depend on the rest of it. -/
theorem ofRank_append (opened : rank < (opens front).length)
    (closed : rank < (closes front).length) :
    ofRank (front ++ rest) rank = ofRank front rank := by
  obtain ⟨moreOpens, opens⟩ := prefix_opens_append front rest
  obtain ⟨moreCloses, closes⟩ := prefix_closes_append front rest
  -- The brackets of this rank and of the one before are the same in both texts.
  have before : rank - 1 < (Block.closes front).length := (Nat.sub_le ..).trans_lt closed
  simp only [ofRank, ← opens, ← closes, List.getD_append _ _ _ _ opened,
    List.getD_append _ _ _ _ closed, List.getD_append _ _ _ _ before]
  rw [Text.slice_append_of_le (getD_opens_le opened),
    Text.slice_append_of_le (getD_closes_le closed)]

/-- The blocks of a text begin with those of a front in which no bracket is left over. -/
theorem ranked_prefix (equal : (opens front).length = (closes front).length) (rest : Text) :
    ranked front <+: ranked (front ++ rest) := by
  -- The ranks of the front are the lower ones, and their blocks lie in the front.
  have more := (prefix_opens_append front rest).length_le
  have ranks : List.range (opens front).length <+: List.range (opens (front ++ rest)).length := by
    obtain ⟨others, total⟩ := Nat.exists_eq_add_of_le more
    rw [total, List.range_add]
    exact List.prefix_append ..
  have same : ranked front =
      (List.range (opens front).length).map (ofRank (front ++ rest)) :=
    List.map_congr_left fun rank member => by
      have opened := List.mem_range.1 member
      exact (ofRank_append opened (equal ▸ opened)).symm
  rw [same]
  exact ranks.map _

end Block

end TaggedTests
