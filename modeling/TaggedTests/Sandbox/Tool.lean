import TaggedTests.Duration.Seconds
import TaggedTests.Sandbox.Tool.Concatenation
import TaggedTests.Sandbox.Tool.Condition
import TaggedTests.Sandbox.Tool.Printf
import TaggedTests.Sandbox.Tool.Trees

/-! The programs that belong to the system, by their names. -/

namespace TaggedTests

namespace Tool

/-- Prints its arguments; letters behind the first dash may drop the line end or allow escapes. -/
def echo : Program := fun args process => do
  let isOption (arg : Text) : Bool :=
    match arg with
    | '-' :: c :: rest => (c :: rest).all fun d => d = 'n' ∨ d = 'e' ∨ d = 'E'
    | _ => false
  let options := args.takeWhile isOption
  let words := [' '].intercalate (args.drop options.length)
  let (bytes, stopped) :=
    if hasLetter options 'e' then
      let unescaped := Printf.unescape .echo words
      (unescaped.bytes, unescaped.stopped)
    else (Text.utf8 words, false)
  process.writeBytes 1 (bytes ++ if stopped ∨ hasLetter options 'n' then [] else [10])
  return 0

/-- Prints its arguments with escapes, as the shell does. -/
def shellEcho : Program := fun args process => do
  let (silent, words) :=
    match args with
    | ['-', 'n'] :: rest => (true, rest)
    | words => (false, words)
  let unescaped := Printf.unescape .shell ([' '].intercalate words)
  process.writeBytes 1 (unescaped.bytes ++ if unescaped.stopped ∨ silent then [] else [10])
  return 0

/-- Prints arguments under a format, each complaint where it belongs. -/
def printProgram (format : Text) (args : List Text) (process : Process) : Act Nat := do
  let printed := Printf.run .program format args
  let mut shown := 0
  for (place, fault) in printed.faults do
    process.writeBytes 1 ((printed.output.take place).drop shown)
    process.complain (fault.message .program)
    shown := place
  process.writeBytes 1 (printed.output.drop shown)
  match if printed.stopped then none else printed.args.head? with
  | some arg =>
    process.complain
      ("warning: ignoring excess arguments, starting with ".toList ++ Quoting.escaped arg)
  | none => pure ()
  return if printed.faults.all fun fault => fault.2.isWarning then 0 else 1

/-- Prints arguments under a format, all complaints first. -/
def printShell (format : Text) (args : List Text) (process : Process) : Act Nat := do
  let printed := Printf.run .shell format args
  for (_, fault) in printed.faults do process.complain (fault.message .shell)
  process.writeBytes 1 printed.output
  return if printed.faults.isEmpty then 0
    else if printed.faults.any fun fault => fault.2.stops then 2 else 1

/-- Prints arguments under a format. -/
def printf : Program := fun args process => do
  match if args.head? = some "--".toList then args.tail else args with
  | format :: rest => printProgram format rest process
  | [] =>
    process.refuse "missing operand".toList
    return 1

/-- Prints arguments under a format, as the shell does. -/
def shellPrintf : Program := fun args process => do
  let print (operands : List Text) : Act Nat := do
    match operands with
    | format :: rest => printShell format rest process
    | [] =>
      process.complain "usage: printf format [arg ...]".toList
      return 2
  match args with
  | ['-', '-'] :: rest => print rest
  | ('-' :: c :: _) :: _ =>
    process.complain ("Illegal option -".toList ++ [c])
    return 2
  | operands => print operands

/-- Tells by the exit code whether a condition holds, given the wording of what is wrong with it. -/
def judge (wording : Condition.Fault → Text) (words : List Text) (process : Process) : Act Nat := do
  match Condition.evaluate (← get).root process.directory words with
  | .ok holds => return if holds then 0 else 1
  | .error fault =>
    process.complain (wording fault)
    return 2

/-- Tells by its exit code whether a condition holds. -/
def test : Program := judge Condition.Fault.programMessage

/-- Tells by the exit code whether a condition holds, as the shell does. -/
def shellTest : Program := judge Condition.Fault.message

/-- The condition of a test that has to end with a bracket, given what is said if it does not. -/
def bracketed (missing : String) (test : Program) : Program := fun args process => do
  if args.getLast? = some [']'] then test args.dropLast process
  else
    process.complain missing.toList
    return 2

/-- The condition of a test in brackets. -/
def bracketTest : Program := bracketed "missing ']'" test

/-- The condition of a test in brackets, as the shell reads it. -/
def shellBracketTest : Program := bracketed "missing ]" shellTest

/-- The nanoseconds that an operand asks to wait for. -/
def delay? (operand : Text) : Option Nat :=
  let unit := operand.getLast?
  let (number, factor) : Text × Nat :=
    if unit = some 's' then (operand.dropLast, 1)
    else if unit = some 'm' then (operand.dropLast, 60)
    else if unit = some 'h' then (operand.dropLast, 3600)
    else if unit = some 'd' then (operand.dropLast, 86400)
    else (operand, 1)
  match (Duration.readNumber? number).map Duration.ofSeconds with
  | some (.ok duration) => some (duration.nanos * factor)
  | _ => none

/-- Waits. -/
def sleep : Program := fun args process => do
  if args.isEmpty then
    process.refuse "missing operand".toList
    return 1
  if args.any fun arg => arg = "inf".toList ∨ arg = "infinity".toList then
    World.exhaust
    return 0
  match args.find? fun arg => (delay? arg).isNone with
  | some arg =>
    process.refuse ("invalid time interval ".toList ++ Quoting.escaped arg)
    return 1
  | none =>
    for nanos in args.filterMap delay? do World.pass nanos
    return 0

/-- Prints the last component of a path. -/
def basename : Program := fun args process => do
  match args with
  | [] =>
    process.refuse "missing operand".toList
    return 1
  | path :: rest =>
    let name := ((Path.parts path).getLast?).getD ['/']
    let ending := rest.headD []
    let shown :=
      if ending.isSuffixOf name ∧ ending ≠ name then name.take (name.length - ending.length)
      else name
    process.print (shown ++ ['\n'])
    return 0

/-- Prints paths without their last components. -/
def dirname : Program := fun args process => do
  if args.isEmpty then
    process.refuse "missing operand".toList
    return 1
  for path in args do
    let parts := (Path.parts path).dropLast
    let shown :=
      if Path.isAbsolute path then Path.absolute parts
      else if parts.isEmpty then ['.'] else ['/'].intercalate parts
    process.print (shown ++ ['\n'])
  return 0

/-- Prints the directory that it runs in. -/
def pwd : Program := fun _ process => do
  process.print (Path.absolute process.directory ++ ['\n'])
  return 0

/-- Does nothing, with an exit code. -/
def exits (code : Nat) : Program := fun _ _ => return code

/-- The programs of the system. -/
def programs : List (String × Program) :=
  [("cat", cat), ("head", head), ("tail", tail), ("tr", tr), ("wc", wc), ("sort", sort),
    ("uniq", uniq), ("rev", rev), ("seq", seq), ("yes", yes), ("tee", tee), ("touch", touch),
    ("rm", rm), ("mkdir", mkdir), ("rmdir", rmdir), ("chmod", chmod),
    ("cp", transfer false), ("mv", transfer true), ("ls", ls),
    ("echo", echo), ("printf", printf), ("test", test), ("[", bracketTest), ("sleep", sleep),
    ("basename", basename), ("dirname", dirname), ("pwd", pwd), ("true", exits 0),
    ("false", exits 1)]

/-- Names of programs that start others, and so are no programs by themselves. -/
def launchers : List String := ["sh", "dash", "env", "nice", "nohup"]

/-- Runs a program of the system, which fails if it has nowhere to print to and would print. -/
def run (name : Text) (args : List Text) (process : Process) : Act Nat := do
  match programs.lookup (String.ofList name) with
  | none => return 127
  | some program =>
    let reason := OsError.badDescriptor.reason
    if (process.descriptors.lookup 1).isSome then program args process
    else if name = "cat".toList then
      -- It looks at its output before anything else.
      process.complain ("standard output: ".toList ++ reason)
      return 1
    else
      let lost ← World.openChannel (.sink [])
      let code ← program args { process with descriptors := (1, lost) :: process.descriptors }
      if (← World.collected lost).isEmpty then return code
      process.complain ("write error: ".toList ++ reason)
      return if name = "ls".toList then 2 else 1

end Tool

end TaggedTests
