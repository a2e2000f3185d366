import Mathlib.Data.Char
import Mathlib.Data.List.Lex
import Mathlib.Data.Prod.Lex
import TaggedTests.Path

/-! Paths are ordered as lists of components are, and paths of equal components are the same. -/

namespace TaggedTests

namespace Component

/-- What components are compared by: their kind, and the text of a name. -/
def key : Component → ℕ ×ₗ Text
  | root => toLex (0, [])
  | current => toLex (1, [])
  | parent => toLex (2, [])
  | name text => toLex (3, text)

/-- Components of equal keys are equal. -/
theorem key_injective : Function.Injective key := by
  intro first second same
  cases first <;> cases second <;> simp_all [key]

instance : LinearOrder Component := LinearOrder.lift' key key_injective

/-- Components are compared by their keys. -/
theorem lt_eq_true_iff {first second : Component} : first.lt second = true ↔ first < second := by
  have keys : first < second ↔ key first < key second := Iff.rfl
  -- Components are compared by their rank first, as their keys are.
  rw [keys, Prod.Lex.lt_iff]
  cases first <;> cases second <;> simp [lt, rank, key]

end Component

namespace Path

/-- Lists of components are compared at the first place where they differ. -/
theorem componentsLt_eq_true_iff {first second : List Component} :
    componentsLt first second = true ↔ first < second := by
  fun_induction componentsLt first second with
  | case1 => simp
  | case2 => simp
  | case3 => simp
  | case4 head rest other others ih =>
    rw [List.cons_lt_cons_iff, Bool.or_eq_true, Bool.and_eq_true, Bool.not_eq_true',
      Component.lt_eq_true_iff, ih, ← Bool.not_eq_true, Component.lt_eq_true_iff]
    -- Where neither component comes before the other, they are equal.
    rcases lt_trichotomy head other with before | rfl | behind
    · simp [before]
    · simp
    · simp [behind, behind.asymm, behind.ne']

/-- Paths are compared by their components. -/
theorem lt_eq_true_iff {first second : Text} :
    lt first second = true ↔ components first < components second :=
  componentsLt_eq_true_iff

/-- Two spellings of one path. -/
def Same (first second : Text) : Prop := components first = components second

instance (first second : Text) : Decidable (Same first second) :=
  inferInstanceAs (Decidable (components first = components second))

/-- Neither of two spellings comes before the other exactly when they are of one path. -/
theorem same_iff_not_lt {first second : Text} :
    Same first second ↔ lt first second ≠ true ∧ lt second first ≠ true := by
  rw [Ne, Ne, lt_eq_true_iff, lt_eq_true_iff, Same]
  constructor
  · -- Equal paths are not less than each other, and of others one is less.
    intro same
    simp [same]
  · rintro ⟨before, behind⟩
    exact le_antisymm (not_lt.1 behind) (not_lt.1 before)

/-- What comes before a path comes before all that the path comes before. -/
theorem lt_trans {first second third : Text} (before : lt first second = true)
    (behind : lt second third = true) : lt first third = true := by
  rw [lt_eq_true_iff] at before behind ⊢
  exact before.trans behind

/-- A path that comes before another is not the same. -/
theorem not_same_of_lt {first second : Text} (before : lt first second = true) :
    ¬ Same first second := fun same => (same_iff_not_lt.1 same).1 before

end Path

end TaggedTests
