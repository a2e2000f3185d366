import TaggedTests.Sandbox.Tool

/-! Finding the program that a command names: the search path, permissions and interpreter lines. -/

namespace TaggedTests

namespace Launch

/-- A program of the system with the name that it is called by and its arguments. -/
structure Plan where
  tool : Text
  name : Text
  args : List Text

/-- Directories that are searched without a search path. -/
def usualPath : Text := "/bin:/usr/bin".toList

/-- Can a node be run? -/
def canRun (node : Node) : Bool :=
  match node with
  | .file _ executable => executable
  | .tool _ => true
  | .directory _ | .device _ => false

/-- Looks for a command in directories; one that must not be run counts unless another is found. -/
def search (root : Node) (here : Place) (command : Text) : OsError → List Text → Except OsError Text
  | error, [] => .error error
  | error, directory :: rest =>
    let path := Path.join (if directory.isEmpty then ['.'] else directory) command
    match root.find here path with
    | .ok node => if canRun node then .ok path else search root here command .permission rest
    | .error _ => search root here command error rest

/-- The path of a command: itself if it holds a slash, or else what the search path leads to. -/
def locate (root : Node) (here : Place) (searchPath : Option Text) (command : Text) :
    Except OsError Text :=
  if command.isEmpty then .error .notFound
  else if !command.elem '/' ∧ Node.isLonger command Node.nameLimit then .error .nameTooLong
  else if command.elem '/' then
    match root.find here command with
    | .ok node => if canRun node then .ok command else .error .permission
    | .error error => .error error
  else search root here command .notFound ((searchPath.getD usualPath).splitOn ':')

/-- The first line of a file that begins with a number sign and an exclamation mark. -/
def interpreterLine? (content : Bytes) : Option Text :=
  match content with
  | 0x23 :: 0x21 :: rest => some (Text.ofUtf8Lossy (rest.takeWhile (· ≠ 10)))
  | _ => none

/-- Is the character a blank in an interpreter line? -/
def isLineBlank (c : Char) : Bool := c = ' ' || c = '\t'

/-- An interpreter with the one argument that its line may give. -/
def interpreter? (line : Text) : Option (Text × List Text) :=
  let trimmed :=
    ((line.dropWhile isLineBlank).reverse.dropWhile isLineBlank).reverse
  let path := trimmed.takeWhile fun c => !isLineBlank c
  let arg := (trimmed.drop path.length).dropWhile isLineBlank
  if path.isEmpty then none else some (path, if arg.isEmpty then [] else [arg])

/--
The program that running a file comes down to, through a number of interpreters at most.

The name is the one that the file is called by, and gives way to that of an interpreter.
-/
def interpret (root : Node) (here : Place) :
    Nat → Text → Text → List Text → Except OsError Plan
  | 0, _, _, _ => .error .notFound
  | fuel + 1, name, path, args =>
    match root.find here path with
    | .error error => .error error
    | .ok (.tool tool) => .ok ⟨tool, name, args⟩
    | .ok (.file content true) =>
      match (interpreterLine? content).bind interpreter? with
      | some (interpreter, given) =>
        interpret root here fuel interpreter interpreter (given ++ path :: args)
      | none => .error .badFormat
    | .ok _ => .error .permission

/-- The number of interpreters that may come after each other. -/
def interpreterLimit : Nat := 5

/-- The number of bytes that a single argument can have. -/
def argumentLimit : Nat := 131071

/-- The program that a command with arguments comes down to. -/
def plan (root : Node) (here : Place) (searchPath : Option Text) (command : Text)
    (args : List Text) : Except OsError Plan := do
  let path ← locate root here searchPath command
  let found ← interpret root here interpreterLimit command path args
  if args.any fun arg => Node.isLonger arg argumentLimit then throw .argumentTooLong
  return found

/-- The program that a command comes down to, with a shell for a file that names no interpreter. -/
def planOrScript (root : Node) (here : Place) (searchPath : Option Text) (command : Text)
    (args : List Text) : Except OsError Plan :=
  match plan root here searchPath command args with
  | .error .badFormat => do
    let path ← locate root here searchPath command
    return ⟨"sh".toList, "/bin/sh".toList, path :: args⟩
  | found => found

end Launch

end TaggedTests
