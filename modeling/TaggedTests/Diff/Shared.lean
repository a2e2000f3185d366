/-! What two lists have in common at their ends. -/

namespace TaggedTests

variable {α : Type} [DecidableEq α]

/-- The number of items at the front on which two lists agree. -/
def sharedFront : List α → List α → Nat
  | x :: xs, y :: ys => if x = y then sharedFront xs ys + 1 else 0
  | _, _ => 0

/-- The number of items at the back on which two lists agree. -/
def sharedBack (xs ys : List α) : Nat := sharedFront xs.reverse ys.reverse

/-- The two lists begin with the same items. -/
theorem take_sharedFront (xs ys : List α) :
    ys.take (sharedFront xs ys) = xs.take (sharedFront xs ys) := by
  fun_induction sharedFront xs ys <;> simp_all

/-- The two lists end with the same items. -/
theorem drop_sharedBack (xs ys : List α) :
    ys.drop (ys.length - sharedBack xs ys) = xs.drop (xs.length - sharedBack xs ys) := by
  -- Reversed, the ends are the fronts.
  have same := congrArg List.reverse (take_sharedFront xs.reverse ys.reverse)
  simpa [sharedBack, List.reverse_take] using same

end TaggedTests
