/-!
Edit scripts: how one list becomes another.

A script carries the items that it keeps, deletes and inserts, so both lists can be read off it.
-/

namespace TaggedTests

/-- A step of an edit script. -/
inductive Edit (α : Type) where
  | keep (items : List α)
  | delete (items : List α)
  | insert (items : List α)
  deriving DecidableEq, Repr

namespace Edit

variable {α : Type}

/-- The items that a step accounts for in the old list. -/
def old : Edit α → List α
  | keep items | delete items => items
  | insert _ => []

/-- The items that a step accounts for in the new list. -/
def new : Edit α → List α
  | keep items | insert items => items
  | delete _ => []

/-- The items that a step keeps. -/
def kept : Edit α → List α
  | keep items => items
  | delete _ | insert _ => []

/-- The items that a step carries. -/
def items : Edit α → List α
  | keep items | delete items | insert items => items

end Edit

/-- Steps from an old list to a new one. -/
abbrev Script (α : Type) := List (Edit α)

namespace Script

variable {α : Type}

/-- The list that a script starts from. -/
def old (script : Script α) : List α := script.flatMap Edit.old

/-- The list that a script leads to. -/
def new (script : Script α) : List α := script.flatMap Edit.new

/-- The items that a script keeps, in order. -/
def kept (script : Script α) : List α := script.flatMap Edit.kept

/-- The number of steps and items of a script. -/
def weight (script : Script α) : Nat :=
  script.foldr (fun step total => step.items.length + 1 + total) 0

/-- The script that keeps some items; no step is needed for none. -/
def keeping (items : List α) : Script α := if items.isEmpty then [] else [.keep items]

/-- The script that deletes some items. -/
def deleting (items : List α) : Script α := if items.isEmpty then [] else [.delete items]

/-- The script that inserts some items. -/
def inserting (items : List α) : Script α := if items.isEmpty then [] else [.insert items]

@[simp] theorem old_nil : old ([] : Script α) = [] := rfl

@[simp] theorem new_nil : new ([] : Script α) = [] := rfl

@[simp] theorem old_cons (step : Edit α) (script : Script α) :
    old (step :: script) = step.old ++ old script := rfl

@[simp] theorem new_cons (step : Edit α) (script : Script α) :
    new (step :: script) = step.new ++ new script := rfl

@[simp] theorem old_append (first second : Script α) :
    old (first ++ second) = old first ++ old second := by
  simp [old]

@[simp] theorem new_append (first second : Script α) :
    new (first ++ second) = new first ++ new second := by
  simp [new]

@[simp] theorem old_keeping (items : List α) : old (keeping items) = items := by
  cases items <;> simp [keeping, Edit.old]

@[simp] theorem new_keeping (items : List α) : new (keeping items) = items := by
  cases items <;> simp [keeping, Edit.new]

@[simp] theorem old_deleting (items : List α) : old (deleting items) = items := by
  cases items <;> simp [deleting, Edit.old]

@[simp] theorem new_deleting (items : List α) : new (deleting items) = [] := by
  cases items <;> simp [deleting, Edit.new]

@[simp] theorem old_inserting (items : List α) : old (inserting items) = [] := by
  cases items <;> simp [inserting, Edit.old]

@[simp] theorem new_inserting (items : List α) : new (inserting items) = items := by
  cases items <;> simp [inserting, Edit.new]

end Script

end TaggedTests
