import TaggedTests.Sandbox.Tool.Streams

/-! Programs that change the tree of files or look at it. -/

namespace TaggedTests

namespace Tool

/-- Does something with each operand, complaining of those for which it fails. -/
def eachOperand (complaint : Text) (operands : List Text)
    (act : Text → Act (Except OsError Unit)) (process : Process)
    (quoted : Text → Text := Quoting.name) : Act Nat := do
  let mut code := 0
  for path in operands do
    match ← act path with
    | .ok _ => continue
    | .error error =>
      process.complain (complaint ++ ' ' :: quoted path ++ ": ".toList ++ error.reason)
      code := 1
  return code

/-- Creates files that are missing. -/
def touch : Program := fun args process => do
  let (_, operands) := splitOptions args
  if operands.isEmpty then
    process.refuse "missing file operand".toList
    return 1
  eachOperand "cannot touch".toList operands (fun path => do
    match ← process.find path with
    | .ok _ => return .ok ()
    | .error _ => process.writeFile path []) process

/-- Removes files, and directories if asked to. -/
def rm : Program := fun args process => do
  let (options, operands) := splitOptions args
  let deep := hasLetter options 'r' || hasLetter options 'R'
  let forced := hasLetter options 'f'
  if operands.isEmpty ∧ !forced then
    process.refuse "missing operand".toList
    return 1
  eachOperand "cannot remove".toList operands (fun path => do
    let world ← get
    match world.root.resolve process.directory path with
    | .error error =>
      return if forced ∧ (error = .notFound ∨ error = .notDirectory) then .ok () else .error error
    | .ok place =>
      match world.root.at? place with
      | none => return if forced then .ok () else .error .notFound
      | some node =>
        if node.isDirectory ∧ !deep then return .error .isDirectory
        Process.put place none
        return .ok ()) process

/-- Makes a directory. -/
def makeDirectory (process : Process) (path : Text) : Act (Except OsError Unit) := do
  let world ← get
  match world.root.resolve process.directory path with
  | .error error => return .error error
  | .ok place =>
    match world.root.at? place with
    | some _ => return .error .alreadyExists
    | none =>
      Process.put place (some (.directory []))
      return .ok ()

/-- Makes the directories on the way to a path that are missing. -/
def makeDirectories (process : Process) (path : Text) : Act (Except OsError Unit) := do
  let start := if Path.isAbsolute path then ['/'] else []
  let mut soFar := start
  for part in Path.parts path do
    soFar := Path.join soFar part
    match ← process.find soFar with
    | .ok (.directory _) => continue
    | .ok _ => return .error .notDirectory
    | .error _ =>
      match ← makeDirectory process soFar with
      | .ok _ => continue
      | .error error => return .error error
  return .ok ()

/-- Makes directories. -/
def mkdir : Program := fun args process => do
  let (options, operands) := splitOptions args
  let make := if hasLetter options 'p' then makeDirectories process else makeDirectory process
  eachOperand "cannot create directory".toList operands make process Quoting.escaped

/-- Removes empty directories. -/
def rmdir : Program := fun args process => do
  let (_, operands) := splitOptions args
  eachOperand "failed to remove".toList operands (fun path => do
    let world ← get
    match world.root.resolve process.directory path with
    | .error error => return .error error
    | .ok place =>
      match world.root.at? place with
      | none => return .error .notFound
      | some (.directory []) =>
        Process.put place none
        return .ok ()
      | some (.directory _) => return .error .notEmpty
      | some _ => return .error .notDirectory) process

/-- Does a mode make files executable, stop them from being so, or leave that alone? -/
def executableMode? (mode : Text) : Option Bool :=
  if mode.all Char.isDigit then some (mode.any fun c => c = '1' ∨ c = '3' ∨ c = '5' ∨ c = '7')
  else if !mode.elem 'x' then none
  else if mode.elem '-' then some false
  else some true

/-- Makes files executable or stops them from being so. -/
def chmod : Program := fun args process => do
  match args with
  | [mode] =>
    process.refuse ("missing operand after ".toList ++ Quoting.escaped mode)
    return 1
  | mode :: operands =>
    eachOperand "cannot access".toList operands (fun path => do
      let world ← get
      match world.root.resolve process.directory path with
      | .error error => return .error error
      | .ok place =>
        match world.root.at? place with
        | none => return .error .notFound
        | some (.file content executable) =>
          Process.put place (some (.file content ((executableMode? mode).getD executable)))
          return .ok ()
        | some _ => return .ok ()) process
  | [] =>
    process.refuse "missing operand".toList
    return 1

/-- The path under which something is put at a target, which may be a directory. -/
def targetPath (process : Process) (source target : Text) : Act Text := do
  match ← process.find target with
  | .ok (.directory _) => return Path.join target ((Path.fileName? source).getD source)
  | _ => return target

/-- Puts copies of files at the last operand, or the files themselves if it moves them. -/
def transfer (moves : Bool) : Program := fun args process => do
  let (options, operands) := splitOptions args
  let deep := moves || hasLetter options 'r' || hasLetter options 'R' || hasLetter options 'a'
  match operands.reverse with
  | [source] =>
    process.refuse ("missing destination file operand after ".toList ++ Quoting.name source)
    return 1
  | target :: sources =>
    eachOperand "cannot stat".toList sources.reverse (fun source => do
      match ← process.find source with
      | .error error => return .error error
      | .ok node =>
        if node.isDirectory ∧ !deep then return .error .isDirectory
        let path ← targetPath process source target
        match ← process.resolve path with
        | .error error => return .error error
        | .ok place =>
          if moves then
            match ← process.resolve source with
            | .ok origin => Process.put origin none
            | .error _ => return .ok ()
          Process.put place (some node)
          return .ok ()) process
  | [] =>
    process.refuse "missing file operand".toList
    return 1

/-- The names that are shown of a directory, with hidden ones and those of links if asked to. -/
def shownNames (hidden links : Bool) (entries : List (Text × Node)) : List Text :=
  (if links then [".".toList, "..".toList] else []) ++
    (entries.map Prod.fst).filter fun name => hidden || name.head? ≠ some '.'

/-- Lists files and directories. -/
def ls : Program := fun args process => do
  let (options, operands) := splitOptions args
  let links := hasLetter options 'a'
  let hidden := links || hasLetter options 'A'
  let mut code := 0
  for path in if operands.isEmpty then [['.']] else operands do
    match ← process.find path with
    | .ok (.directory entries) =>
      process.print ((shownNames hidden links entries).flatMap fun name => name ++ ['\n'])
    | .ok _ => process.print (path ++ ['\n'])
    | .error error =>
      process.complain
        ("cannot access ".toList ++ Quoting.name path ++ ": ".toList ++ error.reason)
      code := 2
  return code

end Tool

end TaggedTests
