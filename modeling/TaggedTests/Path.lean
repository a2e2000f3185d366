import TaggedTests.Text.Basic

/-! Paths by their components, which slashes separate. -/

namespace TaggedTests

/-- A component of a path. The order of declaration is the order in which paths are sorted. -/
inductive Component where
  | root
  /-- The directory itself, where a path begins with it. -/
  | current
  | parent
  | name (text : Text)
  deriving DecidableEq, Repr

namespace Component

/-- The place of a kind of component in the order of paths. -/
def rank : Component → Nat
  | root => 0
  | current => 1
  | parent => 2
  | name _ => 3

/-- Does a component come before another? -/
def lt (first second : Component) : Bool :=
  match first, second with
  | name left, name right => left < right
  | _, _ => first.rank < second.rank

/-- The component that a part between slashes stands for. -/
def ofPart (part : Text) : Component := if part = ['.', '.'] then parent else name part

end Component

namespace Path

/-- The parts between slashes that are neither empty nor a lone point. -/
def parts (path : Text) : List Text :=
  (path.splitOn '/').filter fun part => part ≠ [] ∧ part ≠ ['.']

/-- Is the path absolute? -/
def isAbsolute (path : Text) : Bool := path.head? = some '/'

/-- The components of a path; points between slashes count only at the beginning. -/
def components (path : Text) : List Component :=
  let rest := (parts path).map Component.ofPart
  if isAbsolute path then .root :: rest
  else if path.head? = some '.' ∧ (path.tail.isEmpty ∨ path.tail.head? = some '/') then
    .current :: rest
  else rest

/-- The name at the end of a path, if it ends in one. -/
def fileName? (path : Text) : Option Text :=
  match (components path).getLast? with
  | some (.name text) => some text
  | _ => none

/-- What follows the last point of the name at the end; a name that begins there has no
extension. -/
def extension? (path : Text) : Option Text := do
  let name ← fileName? path
  let after := (name.reverse.takeWhile (· ≠ '.')).reverse
  if after.length + 1 < name.length then some after else none

/-- A path seen from a directory; an absolute path stays as it is. -/
def join (directory path : Text) : Text :=
  if isAbsolute path ∨ directory = [] then path
  else if directory.getLast? = some '/' then directory ++ path
  else directory ++ '/' :: path

/-- The absolute path along some names. -/
def absolute (names : List Text) : Text := '/' :: ['/'].intercalate names

/-- Does a list of components come before another? -/
def componentsLt : List Component → List Component → Bool
  | [], [] => false
  | [], _ :: _ => true
  | _ :: _, [] => false
  | first :: rest, second :: others =>
    first.lt second || (!second.lt first && componentsLt rest others)

/-- Does a path come before another? -/
def lt (first second : Text) : Bool := componentsLt (components first) (components second)

end Path

end TaggedTests
