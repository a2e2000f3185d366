import TaggedTests.Duration
import TaggedTests.Sandbox.Files

/-!
The state that processes share: files, open channels and the time.

What is written to a channel is kept with the time at which it was written, so that output of
processes that run beside each other can be put in order.
-/

namespace TaggedTests

/-- Something that a process can read from or write to. -/
inductive Channel where
  /-- Bytes to be read, which end at some time or never. -/
  | source (bytes : Bytes) (ends : Option Nat)
  /-- Null bytes without end. -/
  | zeros
  /-- Collects what is written, the latest first, each with its time. -/
  | sink (chunks : List (Nat × Bytes))
  /-- Collects what is written until another program reads it. -/
  | pipe (chunks : List (Nat × Bytes))
  /-- Writes into a file from a position on, or at its end. -/
  | file (place : Place) (position : Option Nat)
  /-- Gives nothing and swallows what is written. -/
  | null

/-- A process that runs on beside the one that started it. -/
structure Job where
  id : Nat
  /-- The time at which it ends. -/
  ends : Nat
  /-- The channels that it keeps open. -/
  holds : List Nat
  status : Nat

/-- The state that processes share. -/
structure World where
  root : Node
  channels : Array Channel
  /-- The time in nanoseconds. -/
  clock : Nat
  /-- The time after which nothing is done any more. -/
  deadline : Option Nat
  /-- The number of steps that may still be taken. -/
  steps : Nat
  jobs : List Job

/-- What a process does to the world. -/
abbrev Act := StateM World

namespace World

/-- Opens a channel, giving its number. -/
def openChannel (channel : Channel) : Act Nat := do
  let world ← get
  set { world with channels := world.channels.push channel }
  return world.channels.size

/-- The channel of a number. -/
def channel (id : Nat) : Act Channel := do
  return ((← get).channels[id]?).getD .null

/-- Puts something else in place of a channel. -/
def setChannel (id : Nat) (channel : Channel) : Act Unit :=
  modify fun world => { world with channels := world.channels.setIfInBounds id channel }

/-- Uses up all steps, as something without end does. -/
def exhaust : Act Unit := modify fun world => { world with steps := 0 }

/-- Is the deadline over? -/
def isOverdue (world : World) : Bool := world.deadline.any fun deadline => deadline < world.clock

/-- Takes a step, if there is one left and the deadline is not over. -/
def takeStep : Act Bool := do
  let world ← get
  set { world with steps := world.steps - 1 }
  return 0 < world.steps && !world.isOverdue

/-- Lets time go on until some time. -/
def waitUntil (time : Nat) : Act Unit :=
  modify fun world => { world with clock := max world.clock time }

/-- Lets an amount of time pass. -/
def pass (nanos : Nat) : Act Unit := modify fun world => { world with clock := world.clock + nanos }

/-- Waits for the end of something, which may never come. -/
def awaitEnd : Option Nat → Act Unit
  | some time => waitUntil time
  | none => exhaust

/-- As many null bytes as are passed on at once. -/
def nullBlock : Bytes := List.replicate 65536 0

/-- Bytes with others written over them from a position on. -/
def overwrite (old : Bytes) (position : Nat) (new : Bytes) : Bytes :=
  old.take position ++ List.replicate (position - old.length) 0 ++ new ++
    old.drop (position + new.length)

/-- Writes bytes to a channel. -/
def write (id : Nat) (bytes : Bytes) : Act Unit := do
  if bytes.isEmpty then return
  match ← channel id with
  | .sink chunks => setChannel id (.sink (((← get).clock, bytes) :: chunks))
  | .pipe chunks => setChannel id (.pipe (((← get).clock, bytes) :: chunks))
  | .file place position =>
    modify fun world =>
      let old := ((world.root.at? place).map Node.content).getD []
      let start := position.getD old.length
      { world with root := world.root.setContent place (overwrite old start bytes) }
    setChannel id (.file place (position.map (· + bytes.length)))
  | .source _ _ | .zeros | .null => return

/-- Reads a number of bytes at most, or all of them. -/
def read (id : Nat) (count : Option Nat) : Act Bytes := do
  match ← channel id with
  | .source bytes ends =>
    let wanted := count.getD bytes.length
    -- Only who asks for more than there is has to wait for the end.
    if bytes.length < wanted ∨ count.isNone then awaitEnd ends
    setChannel id (.source (bytes.drop wanted) ends)
    return bytes.take wanted
  | .zeros =>
    match count with
    | some wanted => return List.replicate wanted 0
    | none =>
      exhaust
      return nullBlock
  | .sink _ | .pipe _ | .file _ _ | .null => return []

/-- Reads a line, giving it without its ending, and whether it had one. -/
def readLine (id : Nat) : Act (Bytes × Bool) := do
  match ← channel id with
  | .source bytes ends =>
    let line := bytes.takeWhile (· ≠ 10)
    match bytes.drop line.length with
    | [] =>
      awaitEnd ends
      setChannel id (.source [] ends)
      return (line, false)
    | _ :: rest =>
      setChannel id (.source rest ends)
      return (line, true)
  | .zeros =>
    exhaust
    return ([], false)
  | _ => return ([], false)

/-- Reads lines, giving them with their endings; what is there behind them is lost. -/
def readLines (id : Nat) : Nat → Act Bytes
  | 0 => do
    match ← channel id with
    | .source _ ends => setChannel id (.source [] ends)
    | _ => pure ()
    return []
  | count + 1 => do
    let (line, ended) ← readLine id
    if ended then return line ++ 10 :: (← readLines id count) else return line

/-- Everything collected by a channel, in the order of time. -/
def collected (id : Nat) : Act Bytes := do
  match ← channel id with
  | .sink chunks | .pipe chunks =>
    -- Sorting keeps the order of what was written at one time.
    let ordered := chunks.reverse.mergeSort fun first second => first.1 ≤ second.1
    return ordered.flatMap Prod.snd
  | _ => return []

/-- Turns what a channel collected into something to be read. -/
def turn (id : Nat) (ends : Option Nat) : Act Unit := do
  let bytes ← collected id
  setChannel id (.source bytes ends)

/-- The channel of a file that is read. -/
def reading (node : Node) : Channel :=
  match node with
  | .device true => .zeros
  | .device false => .null
  | node => .source node.content (some 0)

end World

/-- What a process has of its own. -/
structure Process where
  /-- The name under which it complains. -/
  name : Text
  directory : Place
  environment : List (Text × Text)
  /-- The channels of its descriptors. -/
  descriptors : List (Nat × Nat)

/-- How a process ended. -/
inductive Ending where
  | exited (code : Nat)
  | killed (signal : Nat)
  deriving DecidableEq, Repr

/-- The status that a shell gives to an ending. -/
def Ending.status : Ending → Nat
  | exited code => code
  | killed signal => 128 + signal

namespace Process

/-- The value of a variable of the environment. -/
def valueOf? (process : Process) (name : Text) : Option Text := process.environment.lookup name

/-- Writes bytes to a descriptor. -/
def writeBytes (process : Process) (descriptor : Nat) (bytes : Bytes) : Act Unit :=
  match process.descriptors.lookup descriptor with
  | some id => World.write id bytes
  | none => return

/-- Writes a text to a descriptor. -/
def writeText (process : Process) (descriptor : Nat) (text : Text) : Act Unit :=
  process.writeBytes descriptor (Text.utf8 text)

/-- Prints a text. -/
def print (process : Process) (text : Text) : Act Unit := process.writeText 1 text

/-- Complains in a line that begins with its name. -/
def complain (process : Process) (text : Text) : Act Unit :=
  process.writeText 2 (process.name ++ ": ".toList ++ text ++ ['\n'])

/-- Complains of arguments that it cannot be used with, and says where to find help. -/
def refuse (process : Process) (text : Text) : Act Unit := do
  process.complain text
  process.writeText 2
    ("Try '".toList ++ process.name ++ " --help' for more information.\n".toList)

/-- Reads from the standard input, all of it unless a number of bytes is given. -/
def readInput (process : Process) (count : Option Nat) : Act Bytes :=
  match process.descriptors.lookup 0 with
  | some id => World.read id count
  | none => return []

/-- Reads lines from the standard input. -/
def readInputLines (process : Process) (count : Nat) : Act Bytes :=
  match process.descriptors.lookup 0 with
  | some id => World.readLines id count
  | none => return []

/-- What a path leads to. -/
def find (process : Process) (path : Text) : Act (Except OsError Node) := do
  return (← get).root.find process.directory path

/-- The bytes of a file. -/
def readFile (process : Process) (path : Text) : Act (Except OsError Bytes) := do
  match ← process.find path with
  | .error error => return .error error
  | .ok (.directory _) => return .error .isDirectory
  | .ok (.device true) =>
    World.exhaust
    return .ok World.nullBlock
  | .ok node => return .ok node.content

/-- The place that a path leads to. -/
def resolve (process : Process) (path : Text) : Act (Except OsError Place) := do
  return (← get).root.resolve process.directory path

/-- Puts bytes in place of a file, creating it if it is missing. -/
def writeFile (process : Process) (path : Text) (bytes : Bytes) : Act (Except OsError Unit) := do
  let world ← get
  match world.root.writable process.directory path with
  | .error error => return .error error
  | .ok place =>
    set { world with root := world.root.setContent place bytes }
    return .ok ()

/-- Puts something at a place or removes it. -/
def put (place : Place) (node : Option Node) : Act Unit :=
  modify fun world => { world with root := world.root.set node place }

end Process

end TaggedTests
