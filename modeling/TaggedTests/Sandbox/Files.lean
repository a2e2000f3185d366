import TaggedTests.Path
import TaggedTests.Text.Integer
import TaggedTests.Text.Utf8

/-! Trees of files in memory, and what an operation on a path finds there. -/

namespace TaggedTests

/-- Why the system refuses an operation. -/
inductive OsError where
  | notFound
  | argumentTooLong
  | badFormat
  | badDescriptor
  | permission
  | alreadyExists
  | notDirectory
  | isDirectory
  | nameTooLong
  | notEmpty
  deriving DecidableEq, Repr

namespace OsError

/-- The number of an error. -/
def number : OsError → Nat
  | notFound => 2
  | argumentTooLong => 7
  | badFormat => 8
  | badDescriptor => 9
  | permission => 13
  | alreadyExists => 17
  | notDirectory => 20
  | isDirectory => 21
  | nameTooLong => 36
  | notEmpty => 39

/-- The wording of an error. -/
def reason : OsError → Text
  | notFound => "No such file or directory".toList
  | argumentTooLong => "Argument list too long".toList
  | badFormat => "Exec format error".toList
  | badDescriptor => "Bad file descriptor".toList
  | permission => "Permission denied".toList
  | alreadyExists => "File exists".toList
  | notDirectory => "Not a directory".toList
  | isDirectory => "Is a directory".toList
  | nameTooLong => "File name too long".toList
  | notEmpty => "Directory not empty".toList

/-- The wording with the number. -/
def message (error : OsError) : Text :=
  error.reason ++ " (os error ".toList ++ Text.ofNat error.number ++ [')']

end OsError

/-- What is found at a place in the tree. -/
inductive Node where
  | file (content : Bytes) (executable : Bool)
  | directory (entries : List (Text × Node))
  /-- A program that belongs to the system. -/
  | tool (name : Text)
  /-- A device that swallows what is written to it and gives nothing or null bytes without end. -/
  | device (endless : Bool)

/-- A place in the tree: the names on the way to it from the root. -/
abbrev Place := List Text

namespace Node

/-- The entries of a directory; anything else has none. -/
def entries : Node → List (Text × Node)
  | directory entries => entries
  | _ => []

/-- Is it a directory? -/
def isDirectory : Node → Bool
  | directory _ => true
  | _ => false

/-- What is found below a node. -/
def at? : Node → Place → Option Node
  | node, [] => some node
  | node, name :: rest => (node.entries.lookup name).bind fun child => child.at? rest

/-- Every file below a node, by its place from there. -/
def files : Node → List (Place × Bytes)
  | file content _ => [([], content)]
  | directory entries =>
    entries.attach.flatMap fun entry =>
      (files entry.1.2).map fun (place, content) => (entry.1.1 :: place, content)
  | tool _ | device _ => []
decreasing_by
  have member := List.sizeOf_lt_of_mem entry.2
  have inner : sizeOf entry.1.2 < sizeOf entry.1 := by
    rcases entry.1 with ⟨name, child⟩
    simp only [Prod.mk.sizeOf_spec]
    omega
  simp only [directory.sizeOf_spec]
  omega

/-- Entries in the order of their names with one put, replaced or removed. -/
def setEntry (name : Text) (child : Option Node) (entries : List (Text × Node)) :
    List (Text × Node) :=
  let before := entries.takeWhile fun entry => entry.1 < name
  let after := (entries.dropWhile fun entry => entry.1 < name).filter fun entry => entry.1 ≠ name
  before ++ (child.map fun node => (name, node)).toList ++ after

/-- The tree with something put at a place or removed there, missing directories being made. -/
def set (child : Option Node) : Place → Node → Node
  | [], node => child.getD node
  | [name], node => directory (setEntry name child node.entries)
  | name :: rest, node =>
    let inner := (node.entries.lookup name).getD (directory [])
    directory (setEntry name (some (set child rest inner)) node.entries)

/-- The number of bytes that a name can have. -/
def nameLimit : Nat := 255

/-- The number of bytes that a path can have. -/
def pathLimit : Nat := 4095

/-- Is a text longer than a number of bytes? -/
def isLonger (text : Text) (limit : Nat) : Bool := limit < (Text.utf8 text).length

/-- Goes one component further from a place, which has to be a directory. -/
def step (root : Node) (place : Place) (component : Component) : Except OsError Place :=
  match root.at? place with
  | none => .error .notFound
  | some (directory _) =>
    match component with
    | .root => .ok []
    | .current => .ok place
    | .parent => .ok place.dropLast
    | .name text => if isLonger text nameLimit then .error .nameTooLong else .ok (place ++ [text])
  | some _ => .error .notDirectory

/-- Does a path ask for a directory by the way it ends? -/
def asksForDirectory (path : Text) : Bool :=
  path.getLast? = some '/' || "/.".toList.isSuffixOf path

/-- The place that a path leads to from a directory; only the way there has to exist. -/
def resolve (root : Node) (here : Place) (path : Text) : Except OsError Place := do
  if path.isEmpty then throw .notFound
  if isLonger path pathLimit then throw .nameTooLong
  let place ← (Path.components path).foldlM (step root) here
  match root.at? place with
  | some node =>
    if asksForDirectory path ∧ !node.isDirectory then throw .notDirectory else return place
  | none => return place

/-- What a path leads to from a directory. -/
def find (root : Node) (here : Place) (path : Text) : Except OsError Node := do
  let place ← root.resolve here path
  match root.at? place with
  | none => throw .notFound
  | some node => return node

/-- The place of a file that is about to be written. -/
def writable (root : Node) (here : Place) (path : Text) : Except OsError Place := do
  let place ← root.resolve here path
  match root.at? place with
  | some (directory _) => throw .isDirectory
  | some (tool _) => throw .permission
  | some _ => return place
  | none => if asksForDirectory path then throw .isDirectory else return place

/-- The bytes of a file; of a device or a program no more than its beginning is told. -/
def content : Node → Bytes
  | file content _ => content
  | tool _ => [0x7f, 0x45, 0x4c, 0x46, 0x02, 0x01, 0x01, 0x00, 0xff]
  | directory _ | device _ => []

/-- The tree with other bytes in a file, which is created if it is missing; devices
stay as they are. -/
def setContent (root : Node) (place : Place) (content : Bytes) : Node :=
  match root.at? place with
  | some (file _ executable) => root.set (some (file content executable)) place
  | some _ => root
  | none => root.set (some (file content false)) place

end Node

end TaggedTests
