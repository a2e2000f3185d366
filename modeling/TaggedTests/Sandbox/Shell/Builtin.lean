import TaggedTests.Sandbox.Launch
import TaggedTests.Sandbox.Shell.Session

/-! The commands of the shell itself that run no other commands. -/

namespace TaggedTests

namespace Shell

/-- What a command of the shell does with its arguments. -/
abbrev Builtin := List Text → Run Flow

namespace Builtin

/-- Leaves a status. -/
def leave (status : Nat) : Run Flow := do
  setStatus status
  return .next

/-- Complains of a failure that the shell goes on after. -/
def fail (text : Text) : Run Flow := do
  complain text
  leave 2

/-- Complains of a failure that ends the shell. -/
def failHard (text : Text) : Run Flow := do
  abort text
  return .exiting

/-- What is said of a text that is no number. -/
def illegal (text : Text) : Text := "Illegal number: ".toList ++ text

/-- A program of the system as a command of the shell. -/
def ofProgram (program : Tool.Program) : Builtin := fun args => do
  let process ← child (complaintName (← get))
  leave (← act (program args process))

/-- Leaves the shell or a function with a status, that of the last command if none is given. -/
def exit (flow : Flow) : Builtin := fun args => do
  match args.head? with
  | none => return flow
  | some arg =>
    match Tool.natural? arg with
    | some number =>
      setStatus number
      return flow
    | none => failHard (illegal arg)

/-- Leaves loops or goes on with them. -/
def leaveLoops (flow : Nat → Flow) : Builtin := fun args => do
  let loops := (← get).loops
  let levels := args.head?.elim (some 1) Tool.natural?
  match levels with
  | none | some 0 => failHard (illegal (args.headD []))
  | some levels =>
    setStatus 0
    return if loops = 0 then .next else flow (min levels loops)

/-- Drops arguments. -/
def shift : Builtin := fun args => do
  match args.head?.elim (some 1) Tool.natural? with
  | none => failHard (illegal (args.headD []))
  | some count =>
    if (← get).args.length < count then failHard "can't shift that many".toList
    else
      modify fun session => { session with args := session.args.drop count }
      leave 0

/-- What is said of a letter that there is no option of. -/
def illegalOption (letter : Char) : Text := "Illegal option -".toList ++ [letter]

/-- Do arguments ask for a directory's own path? The last letter counts, and the rest is what
follows; a letter that is no option is refused. -/
def directoryOptions : Bool → List Text → Except Char (Bool × List Text)
  | physical, ['-', '-'] :: rest => .ok (physical, rest)
  | _, ('-' :: c :: more) :: rest =>
    match (c :: more).find? fun letter => letter ≠ 'L' ∧ letter ≠ 'P' with
    | some letter => .error letter
    | none => directoryOptions ((c :: more).getLast? = some 'P') rest
  | physical, rest => .ok (physical, rest)

/-- The place that a path leads to by its text alone, whether or not what it passes exists. -/
def textualPlace (here : Place) (path : Text) : Place :=
  (Path.components path).foldl (fun place component =>
    match component with
    | .root => []
    | .current => place
    | .parent => place.dropLast
    | .name name => place ++ [name]) here

/-- Goes to a directory, which is shown if asked for; complaints name it as it was given. -/
def enter (physical shows : Bool) (given path : Text) : Run Flow := do
  let session ← get
  let here := session.process.directory
  let place? :=
    if physical then (session.world.root.resolve here path).toOption
    else some (textualPlace here path)
  match place?.filter fun place => (session.world.root.at? place).any Node.isDirectory with
  | none => fail ("can't cd to ".toList ++ given)
  | some place =>
    modify fun session => { session with process := { session.process with directory := place } }
    for (name, value) in [("OLDPWD", here), ("PWD", place)] do
      assign name.toList (Path.absolute value)
      exportVariable name.toList
    if shows then act (session.process.print (Path.absolute place ++ ['\n']))
    leave 0

/-- The first directory of a search path that holds a directory of the given name. -/
def heldBy? (session : Session) (path : Text) : List Text → Option (Text × Bool)
  | [] => none
  | directory :: rest =>
    let candidate := if directory.isEmpty then path else Path.join directory path
    match session.world.root.find session.process.directory candidate with
    | .ok (.directory _) => some (candidate, !directory.isEmpty)
    | _ => heldBy? session path rest

/-- Goes to a directory: the one given, the home directory, or for a hyphen the last one. -/
def cd : Builtin := fun args => do
  match directoryOptions false args with
  | .error letter => fail (illegalOption letter)
  | .ok (physical, rest) =>
    let (given, shows) ←
      match rest.head? with
      | none => pure ((← valueOf? "HOME".toList).getD [], false)
      | some ['-'] => pure ((← valueOf? "OLDPWD".toList).getD [], true)
      | some path => pure (path, false)
    let path := if given.isEmpty then ['.'] else given
    -- The search path is not for what begins at the root or with dots.
    let first := (path.splitOn '/').headD []
    let isSearched := !first.isEmpty && first ≠ ['.'] && first ≠ ['.', '.']
    let directories := ((← valueOf? "CDPATH".toList).getD []).splitOn ':'
    let session ← get
    match if isSearched then heldBy? session path directories else none with
    | some (found, isElsewhere) => enter physical (shows || isElsewhere) given found
    | none => enter physical shows given path

/-- Prints the directory that the shell is in. -/
def pwd : Builtin := fun args => do
  match directoryOptions false args with
  | .error letter => fail (illegalOption letter)
  | .ok _ =>
    let process := (← get).process
    act (process.print (Path.absolute process.directory ++ ['\n']))
    leave 0

/-- Options with that of a letter put on or off, if there is one. -/
def setLetter? (on : Bool) (options : Options) (letter : Char) : Option Options :=
  match letter with
  | 'e' => some { options with stopsOnError := on }
  | 'u' => some { options with refusesUnset := on }
  | 'x' => some { options with traces := on }
  | 'f' => some { options with keepsPatterns := on }
  | _ => if "abCEiImnsvV".toList.elem letter then some options else none

/-- The letters of options that have names. -/
def optionNames : List (String × Text) :=
  [("errexit", ['e']), ("nounset", ['u']), ("xtrace", ['x']), ("noglob", ['f'])]

/-- Options with those of letters put on or off, or the first letter that there is no option of. -/
def setLetters (on : Bool) : Options → Text → Except Char Options
  | options, [] => .ok options
  | options, letter :: rest =>
    match setLetter? on options letter with
    | some changed => setLetters on changed rest
    | none => .error letter

/-- Sets options and arguments of the shell. -/
def set : Builtin
  | [] => leave 0
  | ['-', '-'] :: rest => do
    modify fun session => { session with args := rest }
    leave 0
  | [sign, 'o'] :: name :: rest => do
    let letters := (optionNames.lookup (String.ofList name)).getD []
    modify fun session =>
      { session with options := (setLetters (sign = '-') session.options letters).toOption.getD {} }
    set rest
  | (sign :: letter :: letters) :: rest => do
    if sign = '-' ∨ sign = '+' then
      match setLetters (sign = '-') (← get).options (letter :: letters) with
      | .ok options =>
        modify fun session => { session with options := options }
        set rest
      | .error unknown => failHard (illegalOption unknown)
    else
      modify fun session => { session with args := (sign :: letter :: letters) :: rest }
      leave 0
  | args => do
    modify fun session => { session with args := args }
    leave 0

/-- Assigns what arguments give values to, and marks all variables that they name. -/
def declare (mark : Variable → Variable) : Builtin := fun args => do
  for arg in args.filter fun arg => arg ≠ ['-', 'p'] do
    match assignment? arg with
    | some (name, value) =>
      assign name value
      changeVariable name mark
    | none => changeVariable arg mark
  leave (if (← get).aborted then 2 else 0)

/-- Makes variables a function's own. -/
def makeLocal : Builtin := fun args => do
  if (← get).outer.isNone then failHard "not in a function".toList
  else
    for arg in args do
      let name := (assignment? arg).elim arg Prod.fst
      modify fun session =>
        { session with
          outer := session.outer.map fun kept => (name, session.bindings.lookup name) :: kept }
    declare id args

/-- Drops variables or functions. -/
def unset : Builtin := fun args => do
  let (options, names) := Tool.splitOptions args
  if Tool.hasLetter options 'f' then
    modify fun session =>
      { session with functions := session.functions.filter fun pair => !names.elem pair.1 }
    leave 0
  else
    let isReadOnly (session : Session) (name : Text) : Bool :=
      ((session.bindings.lookup name).map Variable.readOnly).getD false
    match names.find? (isReadOnly (← get)) with
    | some name => failHard (name ++ ": is read only".toList)
    | none =>
      modify fun session =>
        { session with bindings := session.bindings.filter fun pair => !names.elem pair.1 }
      leave 0

/-- The signals by their names; zero stands for the end of the shell. -/
def signals : List (String × Nat) :=
  [("EXIT", 0), ("HUP", 1), ("INT", 2), ("QUIT", 3), ("ABRT", 6), ("KILL", 9), ("USR1", 10),
    ("SEGV", 11), ("USR2", 12), ("PIPE", 13), ("ALRM", 14), ("TERM", 15), ("CHLD", 17)]

/-- The number of a signal by its number or its name. -/
def signal? (text : Text) : Option Nat :=
  match Tool.natural? text with
  | some number => if number < 65 then some number else none
  | none => signals.lookup (String.ofList text)

/-- Decides what to do on signals. -/
def trap : Builtin := fun args => do
  let (action, names) : Text × List Text :=
    match args with
    | action :: first :: rest => (action, first :: rest)
    | names => (['-'], names)
  for name in names do
    match signal? name with
    | none =>
      act ({ (← get).process with name := "trap".toList }.complain (name ++ ": bad trap".toList))
      return ← leave 1
    | some number =>
      modify fun session =>
        let others := session.traps.filter fun pair => pair.1 ≠ number
        { session with
          traps := if action = ['-'] then others else (number, action) :: others }
  leave 0

/-- The signal and the targets that arguments ask for, or a letter that is no option. -/
def killRequest (args : List Text) : Except Char (Nat × List Text) :=
  match args with
  | ['-', 's'] :: name :: rest => .ok ((signal? name).getD 15, rest)
  | ('-' :: c :: name) :: rest =>
    match signal? (c :: name) with
    | some number => .ok (number, rest)
    | none => .error c
  | rest => .ok (15, rest)

/-- Sends a signal to a process: to the shell itself, or to a job, which ends at once. -/
def sendSignal (signal id : Nat) : Run Flow := do
  let session ← get
  if signal = 0 ∧ id = session.id then leave 0
  else if id = session.id then
    match if signal = 9 then none else session.traps.lookup signal with
    | none => return .killed signal
    | some action =>
      modify fun session => { session with called := some action }
      leave 0
  else if session.world.jobs.any fun job => job.id = id then
    act (modify fun world =>
      let now := world.clock
      { world with
        jobs := world.jobs.map fun job =>
          if job.id = id ∧ signal ≠ 0 ∧ now < job.ends then
            { job with ends := now, status := 128 + signal }
          else job })
    leave 0
  else
    complain "No such process\n".toList
    leave 1

/-- Sends a signal to processes. -/
def kill : Builtin := fun args => do
  match killRequest args with
  | .error letter => fail (illegalOption letter)
  | .ok (_, []) =>
    fail ("Usage: kill [-s sigspec | -signum | -sigspec] [pid | job]... or\n" ++
      "kill -l [exitstatus]").toList
  | .ok (signal, targets) =>
    let mut status := 0
    for target in targets do
      match Tool.natural? target with
      | none => return ← fail (illegal target)
      | some id =>
        match ← sendSignal signal id with
        | .next => status := max status (← get).status
        | flow => return flow
    leave status

/-- Says how a signal has ended something, if that is worth a word. -/
def tellEnding (ending : Ending) : Run Unit := do
  let text? : Option String :=
    match ending with
    | .killed 3 => some "Quit"
    | .killed 6 => some "Aborted"
    | .killed 9 => some "Killed"
    | .killed 11 => some "Segmentation fault"
    | .killed 14 => some "Alarm clock"
    | .killed 15 => some "Terminated"
    | _ => none
  match text? with
  | some text => act ((← get).process.writeText 2 (text.toList ++ ['\n']))
  | none => return

/-- Waits for jobs, all of them if none is given. -/
def wait : Builtin := fun args => do
  let jobs := (← get).world.jobs
  if args.isEmpty then
    act (World.waitUntil (jobs.foldl (fun time job => max time job.ends) 0))
    leave 0
  else
    for arg in args do
      match jobs.find? fun job => some job.id = Tool.natural? arg with
      | none => setStatus 127
      | some job =>
        act (World.waitUntil job.ends)
        if 128 < job.status then tellEnding (.killed (job.status - 128))
        setStatus job.status
    return .next

/-- Takes the backslashes out of a line. -/
def withoutBackslashes : Text → Text
  | '\\' :: c :: rest => c :: withoutBackslashes rest
  | c :: rest => c :: withoutBackslashes rest
  | [] => []

/-- Hands the fields of a line to variables, the last one taking all that is left. -/
def assignFields (separators : Text) : List Text → Text → Run Unit
  | [], _ => return
  | [name], text =>
    let isBlank (c : Char) : Bool := separators.elem c && (c = ' ' || c = '\t' || c = '\n')
    assign name (((text.dropWhile isBlank).reverse.dropWhile isBlank).reverse)
  | name :: rest, text => do
    let start := text.dropWhile fun c => separators.elem c && (c = ' ' || c = '\t')
    let field := start.takeWhile fun c => !separators.elem c
    assign name field
    assignFields separators rest (start.drop (field.length + 1))

/-- Reads a line into variables; its end must be there for success. -/
def read : Builtin := fun args => do
  let (options, names) := Tool.splitOptions args
  if names.isEmpty then return ← fail "arg count".toList
  match names.find? fun name => !isName name with
  | some name => fail (name ++ ": bad variable name".toList)
  | none =>
    match (← get).process.descriptors.lookup 0 with
    | none => leave 1
    | some id =>
      let (bytes, ended) ← act (World.readLine id)
      let line := Text.ofUtf8Lossy (bytes.filter (· ≠ 0))
      let text := if Tool.hasLetter options 'r' then line else withoutBackslashes line
      assignFields (← separators) names text
      leave (if ended then 0 else 1)

/-- Shows which permissions new files lack. -/
def umask : Builtin := fun args => do
  if args.isEmpty then act ((← get).process.print "0022\n".toList)
  leave 0

/-- The commands of the shell whose errors end it. -/
def special : List String :=
  [".", ":", "break", "continue", "eval", "exec", "exit", "export", "readonly", "return", "set",
    "shift", "times", "trap", "unset"]

/-- The other commands of the shell. -/
def ordinary : List String :=
  ["[", "alias", "cd", "command", "echo", "false", "hash", "kill", "local", "printf", "pwd", "read",
    "test", "true", "type", "ulimit", "umask", "wait"]

/-- Is the text the name of a command whose errors end the shell? -/
def isSpecial (name : Text) : Bool := special.elem (String.ofList name)

/-- Tells what a name stands for, in a sentence or, if it is to be brief, in a word. -/
def describe (brief : Bool) (name : Text) : Run Flow := do
  let session ← get
  let tell (word : Text) (sentence : String) : Run Flow := do
    act (session.process.print ((if brief then word else name ++ sentence.toList) ++ ['\n']))
    leave 0
  let key := String.ofList name
  if keywords.elem name then tell name " is a shell keyword"
  else if isSpecial name then tell name " is a special shell builtin"
  else if (session.functions.lookup name).isSome then tell name " is a shell function"
  else if ordinary.elem key then tell name " is a shell builtin"
  else
    let searchPath := ((session.bindings.lookup "PATH".toList).map Variable.value).getD []
    match Launch.locate session.world.root session.process.directory (some searchPath) name with
    | .ok path => tell path (" is " ++ String.ofList path)
    | .error _ =>
      if !brief then act (session.process.print (name ++ ": not found\n".toList))
      leave 127

/-- Tells what names stand for. -/
def type (brief : Bool) : Builtin := fun args => do
  let mut status := 0
  for name in args do
    let _ ← describe brief name
    status := max status (← get).status
  leave status

end Builtin

open Builtin in
/-- The command of the shell of a name, if it runs no others. -/
def builtin? (name : Text) : Option Builtin :=
  match String.ofList name with
  | ":" | "true" | "hash" | "ulimit" | "times" | "alias" => some fun _ => leave 0
  | "false" => some fun _ => leave 1
  | "echo" => some (ofProgram Tool.shellEcho)
  | "printf" => some (ofProgram Tool.shellPrintf)
  | "test" => some (ofProgram Tool.shellTest)
  | "[" => some (ofProgram Tool.shellBracketTest)
  | "pwd" => some Builtin.pwd
  | "exit" => some (Builtin.exit .exiting)
  | "return" => some (Builtin.exit .returning)
  | "break" => some (leaveLoops .breaking)
  | "continue" => some (leaveLoops .continuing)
  | "cd" => some cd
  | "shift" => some shift
  | "set" => some Builtin.set
  | "export" => some (declare fun found => { found with exported := true })
  | "readonly" => some (declare fun found => { found with readOnly := true })
  | "local" => some makeLocal
  | "unset" => some unset
  | "trap" => some trap
  | "read" => some Builtin.read
  | "kill" => some kill
  | "wait" => some wait
  | "umask" => some umask
  | "type" => some (type false)
  | _ => none

end Shell

end TaggedTests
