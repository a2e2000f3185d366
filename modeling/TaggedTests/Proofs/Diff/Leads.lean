import TaggedTests.Diff.Hunk

/-!
Every difference of two lists leads from the one to the other.

Both lists can be read off a script or off the stretches made of it, however well or badly the lists
were matched: each step of the search cuts both lists or moves edits over what stays.
-/

namespace TaggedTests

/-- A script from one list to another. -/
structure Script.Leads {α : Type} (old new : List α) (script : Script α) : Prop where
  old : script.old = old
  new : script.new = new

namespace Script

variable {α : Type} {old new older newer : List α} {script more : Script α}

/-- Scripts between the parts of two lists make one between the whole lists. -/
theorem Leads.append (first : Leads old new script) (second : Leads older newer more) :
    Leads (old ++ older) (new ++ newer) (script ++ more) := by
  -- What a script takes and gives is collected step by step.
  refine ⟨?_, ?_⟩
  · rw [old_append, first.old, second.old]
  · rw [new_append, first.new, second.new]

/-- A script with the same two sides as another leads from and to the same lists. -/
theorem Leads.congr (leads : Leads old new script) (sameOld : more.old = script.old)
    (sameNew : more.new = script.new) : Leads old new more :=
  ⟨sameOld.trans leads.old, sameNew.trans leads.new⟩

/-- Kept items are one step at most. -/
@[simp] theorem reverse_keeping (items : List α) : (keeping items).reverse = keeping items := by
  unfold keeping
  split <;> rfl

end Script

namespace Myers

variable {α : Type}

/-- Replacing a whole list leads to the other one. -/
theorem leads_replaceAll (old new : List α) : Script.Leads old new (replaceAll old new) := by
  refine ⟨?_, ?_⟩ <;> simp [replaceAll]

variable [DecidableEq α]

/-- Cutting two lists at any point gives a script between them, if the parts get one. -/
theorem leads_bisect {recur : List α → List α → Script α}
    (leads : ∀ old new, Script.Leads old new (recur old new)) (old new : List α) :
    Script.Leads old new (bisect recur old new) := by
  -- Wherever the paths meet, both parts of either list are put together again.
  unfold bisect
  split
  · exact leads_replaceAll old new
  · dsimp only
    split
    · exact leads_replaceAll old new
    · next x y _ =>
      have parts := (leads (old.take x) (new.take y)).append (leads (old.drop x) (new.drop y))
      rwa [List.take_append_drop, List.take_append_drop] at parts

/-- What two lists share at their front can be kept. -/
theorem leads_sharedFront {old new : List α} {rest : Script α}
    (leads : Script.Leads (old.drop (sharedFront old new)) (new.drop (sharedFront old new)) rest) :
    Script.Leads old new (Script.keeping (old.take (sharedFront old new)) ++ rest) := by
  -- What is kept is the front of either list.
  refine ⟨?_, ?_⟩
  · rw [Script.old_append, Script.old_keeping, leads.old, List.take_append_drop]
  · rw [Script.new_append, Script.new_keeping, leads.new, ← take_sharedFront,
      List.take_append_drop]

/-- What two lists share at their back can be kept. -/
theorem leads_sharedBack {old new : List α} {front : Script α}
    (leads : Script.Leads (old.take (old.length - sharedBack old new))
      (new.take (new.length - sharedBack old new)) front) :
    Script.Leads old new
      (front ++ Script.keeping (old.drop (old.length - sharedBack old new))) := by
  -- What is kept is the back of either list.
  refine ⟨?_, ?_⟩
  · rw [Script.old_append, Script.old_keeping, leads.old, List.take_append_drop]
  · rw [Script.new_append, Script.new_keeping, leads.new, ← drop_sharedBack,
      List.take_append_drop]

/-- However often the problem is cut, the script leads from one list to the other. -/
theorem leads_conquer (fuel : Nat) (old new : List α) :
    Script.Leads old new (conquer fuel old new) := by
  -- With no cut left the lists are replaced, which is right for any lists.
  induction fuel generalizing old new with
  | zero => exact leads_replaceAll old new
  | succ fuel ih =>
    rw [conquer, List.append_assoc]
    exact leads_sharedFront (leads_sharedBack (leads_bisect ih _ _))

/-- The script by bisection leads from one list to the other. -/
theorem leads_script (old new : List α) : Script.Leads old new (script old new) :=
  leads_conquer _ old new

end Myers

namespace Patience

variable {α : Type} [DecidableEq α]

/-- The script between two parts leads from one to the other. -/
theorem leads_gap (old new : List α) : Script.Leads old new (gap old new) :=
  Myers.leads_sharedFront (Myers.leads_script _ _)

/-- Whatever the anchors are, the script along them leads from one list to the other. -/
theorem leads_along (anchors old new : List α) : Script.Leads old new (along anchors old new) := by
  -- Both lists are cut in front of the anchor, or at their ends where they lack it.
  induction anchors generalizing old new with
  | nil => exact Myers.leads_script old new
  | cons anchor rest ih =>
    have parts := (leads_gap (old.takeWhile (· ≠ anchor)) (new.takeWhile (· ≠ anchor))).append
      (ih (old.dropWhile (· ≠ anchor)) (new.dropWhile (· ≠ anchor)))
    rwa [List.takeWhile_append_dropWhile, List.takeWhile_append_dropWhile] at parts

end Patience

namespace Compact

variable {α : Type} {old new : List α}

/-- The script that a focus is in. -/
def Focus.script (focus : Focus α) : Script α :=
  focus.before.reverse ++ focus.step :: focus.after

/-- Further kept items at the front of a script are kept first. -/
theorem old_keepFirst (items : List α) (script : Script α) :
    (keepFirst items script).old = items ++ script.old := by
  unfold keepFirst
  split <;> simp [Edit.old]

/-- Further kept items at the front of a script come first in the new list. -/
theorem new_keepFirst (items : List α) (script : Script α) :
    (keepFirst items script).new = items ++ script.new := by
  unfold keepFirst
  split <;> simp [Edit.new]

/-- Further kept items at the end of a reversed script are kept last. -/
theorem old_keepLast (items : List α) (script : Script α) :
    Script.old (keepLast items script).reverse = Script.old script.reverse ++ items := by
  unfold keepLast
  split <;> simp [Edit.old]

/-- Further kept items at the end of a reversed script come last in the new list. -/
theorem new_keepLast (items : List α) (script : Script α) :
    Script.new (keepLast items script).reverse = Script.new script.reverse ++ items := by
  unfold keepLast
  split <;> simp [Edit.new]

/-- A list cut in two comes before what follows it. -/
theorem take_append_drop_append (count : Nat) (items rest : List α) :
    items.take count ++ (items.drop count ++ rest) = items ++ rest := by
  rw [← List.append_assoc, List.take_append_drop]

variable [DecidableEq α]

/-- The shared back of other items completes what a list has in front of it. -/
theorem take_append_sharedBack (kept items rest : List α) :
    items.take (items.length - sharedBack kept items) ++
      (kept.drop (kept.length - sharedBack kept items) ++ rest) = items ++ rest := by
  rw [← drop_sharedBack, take_append_drop_append]

/-- The shared front of other items completes what a list has behind it. -/
theorem sharedFront_append_drop (kept items rest : List α) :
    kept.take (sharedFront kept items) ++ (items.drop (sharedFront kept items) ++ rest) =
      items ++ rest := by
  rw [← take_sharedFront, take_append_drop_append]

/-- Moving an edit towards the front changes neither list. -/
theorem leads_up (fuel : Nat) (focus : Focus α) (leads : Script.Leads old new focus.script) :
    Script.Leads old new (up fuel focus).script := by
  fun_induction up fuel focus with
  | case1 | case2 | case8 => exact leads
  | case3 fuel focus kept rest items step before shared _ tail ih =>
    -- The insertion turns around by as many items as it passes, which it ends with.
    refine ih (leads.congr ?_ ?_)
    · simp [Focus.script, step, before, Edit.old, old_keepFirst, tail, shared,
        take_append_drop_append]
    · simp [Focus.script, step, before, Edit.new, new_keepFirst, tail, shared,
        take_append_drop_append, take_append_sharedBack]
  | case4 fuel focus other rest items step before ih
  | case5 fuel focus other rest items step before ih
  | case6 fuel focus other rest items step before ih
  | case7 fuel focus other rest items step before ih =>
    -- Edits that trade places or join account for the same items.
    refine ih (leads.congr ?_ ?_) <;> simp [Focus.script, step, before, Edit.old, Edit.new]

/-- Moving an edit towards the end changes neither list. -/
theorem leads_down (fuel : Nat) (focus : Focus α) (leads : Script.Leads old new focus.script) :
    Script.Leads old new (down fuel focus).script := by
  fun_induction down fuel focus with
  | case1 | case2 | case8 => exact leads
  | case3 fuel focus items kept rest after step shared _ head ih =>
    -- The same turn, with the items that the insertion begins with.
    refine ih (leads.congr ?_ ?_)
    · simp [Focus.script, step, after, Edit.old, old_keepLast, head, shared,
        take_append_drop_append]
    · simp [Focus.script, step, after, Edit.new, new_keepLast, head, shared,
        take_append_drop_append, sharedFront_append_drop]
  | case4 fuel focus items other rest after step ih
  | case5 fuel focus items other rest after step ih
  | case6 fuel focus items other rest after step ih
  | case7 fuel focus items other rest after step ih =>
    refine ih (leads.congr ?_ ?_) <;> simp [Focus.script, step, after, Edit.old, Edit.new]

/-- Settling an edit changes neither list. -/
theorem leads_settle (focus : Focus α) (leads : Script.Leads old new focus.script) :
    Script.Leads old new (settle focus).script :=
  leads_down _ _ (leads_up _ focus leads)

/-- Settling edits one after the other changes neither list. -/
theorem leads_pass {moves : Edit α → Bool} (fuel : Nat) (before rest : Script α)
    (leads : Script.Leads old new (before.reverse ++ rest)) :
    Script.Leads old new (pass moves fuel before rest) := by
  -- The induction follows the pass, for any steps that lie behind it.
  fun_induction pass moves fuel before rest with
  | case1 => exact leads
  | case2 => simpa using leads
  | case3 fuel before step after _ settled ih =>
    -- The step is singled out, moved, and put back in front of what follows it.
    have moved : Script.Leads old new settled.script := leads_settle ⟨before, step, after⟩ leads
    exact ih (by simpa [Focus.script] using moved)
  | case4 fuel before step after _ ih => exact ih (by simpa using leads)

/-- Moving the edits of a script together changes neither list. -/
theorem leads_script {edits : Script α} (leads : Script.Leads old new edits) :
    Script.Leads old new (script edits) :=
  leads_pass _ _ _ (leads_pass _ _ _ leads)

end Compact

namespace Hunk

variable {α : Type}

/-- The stretches of a script make up the same two lists. -/
theorem flatMap_ofScript (script : Script α) :
    (ofScript script).flatMap old = script.old ∧ (ofScript script).flatMap new = script.new := by
  -- A step joins the stretch behind it or makes one of its own, and its items come first.
  induction script with
  | nil => exact ⟨rfl, rfl⟩
  | cons step rest ih =>
    rw [Script.old_cons, Script.new_cons, ← ih.1, ← ih.2, ofScript, List.foldr_cons, ← ofScript]
    unfold push
    split <;> simp_all [old, new, Edit.old, Edit.new]

variable [DecidableEq α]

/-- The stretches between two lists make up the one and the other. -/
theorem flatMap_between (first second : List α) :
    (between first second).flatMap old = first ∧ (between first second).flatMap new = second := by
  -- The script was found along anchors, and its edits were moved together.
  have leads := Compact.leads_script
    (Patience.leads_along (Patience.anchors first second) first second)
  have parts := flatMap_ofScript (Compact.script (Patience.script first second))
  exact ⟨parts.1.trans leads.old, parts.2.trans leads.new⟩

end Hunk

end TaggedTests
