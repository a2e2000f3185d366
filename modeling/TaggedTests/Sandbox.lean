import TaggedTests.Sandbox.Shell.Evaluate
import TaggedTests.Workspace

/-! A host in memory: a small system with a shell, its usual programs and a tree of files. -/

namespace TaggedTests

/-- The files of a sandbox, and what its programs start from. -/
structure Sandbox where
  root : Node
  directory : Place
  environment : List (Text × Text)

namespace Sandbox

/-- The directory that files are put into. -/
def home : Place := ["work".toList]

/-- The programs of the system as entries of a directory. -/
def programs : List (Text × Node) :=
  (Tool.programs.map Prod.fst ++ Tool.launchers).foldl (fun entries name =>
    Node.setEntry name.toList (some (.tool name.toList)) entries) []

/-- The files that a system is set up with, none of which can be run. -/
def setup : List (Text × Node) :=
  ["group", "hostname", "hosts", "passwd"].map fun name => (name.toList, .file [] false)

/-- The tree of the system before any file is put into it. -/
def system : Node :=
  let empty (name : String) : Text × Node := (name.toList, .directory [])
  .directory [("bin".toList, .directory programs),
    ("dev".toList, .directory [("null".toList, .device false), ("zero".toList, .device true)]),
    ("etc".toList, .directory setup), empty "home", empty "opt", empty "proc", empty "root",
    empty "sys", empty "tmp",
    ("usr".toList, .directory [("bin".toList, .directory programs)]), empty "var", empty "work"]

/-- Where programs are found without directories of the sandbox's own. -/
def systemPath : Text := "/usr/bin:/bin".toList

/-- Where programs are found in a sandbox that has a directory for its own. -/
def ownPath : Text := "/work/bin:".toList ++ systemPath

/-- The sandbox without files, under a search path. -/
def empty (searchPath : Text) : Sandbox := ⟨system, home, [("PATH".toList, searchPath)]⟩

/-- The sandbox with one more file below its directory, executable if it names its interpreter. -/
def addBytes (sandbox : Sandbox) (path : Text) (content : Bytes) : Sandbox :=
  let node := Node.file content ([0x23, 0x21].isPrefixOf content)
  { sandbox with root := sandbox.root.set (some node) (sandbox.directory ++ Path.parts path) }

/-- The sandbox with one more file that holds a text. -/
def addFile (sandbox : Sandbox) (path content : Text) : Sandbox :=
  sandbox.addBytes path (Text.utf8 content)

/-- The sandbox with an empty directory. -/
def addDirectory (sandbox : Sandbox) (path : Text) : Sandbox :=
  { sandbox with
    root := sandbox.root.set (some (.directory [])) (sandbox.directory ++ Path.parts path) }

/-- The bytes of a file. -/
def fileBytes? (sandbox : Sandbox) (path : Text) : Option Bytes :=
  match sandbox.root.find sandbox.directory path with
  | .ok (.file content _) => some content
  | _ => none

/-- The text of a file, with U+FFFD for what is not text. -/
def fileText? (sandbox : Sandbox) (path : Text) : Option Text :=
  (sandbox.fileBytes? path).map Text.ofUtf8Lossy

/-- Every file below the directory, by its path from there. -/
def files (sandbox : Sandbox) : List (Text × Bytes) :=
  match sandbox.root.at? sandbox.directory with
  | some node => node.files.map fun (place, content) => (['/'].intercalate place, content)
  | none => []

/-- The depth to which commands may be nested. -/
def depth : Nat := 6000

/-- The number of steps that a program may take. -/
def stepLimit : Nat := 40000

/-- The time that it takes to start a program. -/
def startTime : Nat := 1000000

/-- What a program that was started has left. -/
structure Trace where
  ending : Ending
  stdout : Bytes
  stderr : Bytes
  /-- The time at which all output had ended; none if that was never. -/
  ended : Option Nat

/-- Runs a program with an input; its two outputs are one if asked for. -/
def runPlan (sandbox : Sandbox) (plan : Launch.Plan) (stdin : Bytes) (joins : Bool)
    (deadline : Option Nat) : Trace × Sandbox :=
  let world : World := {
    root := sandbox.root
    channels := #[.source stdin (some 0), .sink [], .sink []]
    clock := startTime
    deadline := deadline
    steps := stepLimit
    jobs := [] }
  let process : Process :=
    ⟨plan.name, sandbox.directory, sandbox.environment,
      [(0, 0), (1, 1), (2, if joins then 1 else 2)]⟩
  let (ending, after) := (Shell.start depth plan process).run world
  let (stdout, _) := (World.collected 1).run after
  let (stderr, _) := (World.collected 2).run after
  -- Output ends when nothing that still runs can write to it.
  let holding := after.jobs.filter fun job => job.holds.elem 1
  let ended := holding.foldl (fun time job => max time job.ends) after.clock
  (⟨ending, stdout, stderr, if after.steps = 0 then none else some ended⟩,
    { sandbox with root := after.root })

/-- The program that a command comes down to, or why it cannot be started. -/
def plan (sandbox : Sandbox) (command : Text) (args : List Text) : Except Text Launch.Plan :=
  if (command :: args).any fun text => text.elem '\x00' then
    .error "nul byte found in provided data".toList
  else
    (Launch.plan sandbox.root sandbox.directory (sandbox.environment.lookup "PATH".toList)
      command args).mapError OsError.message

/-- Runs a shell line without input; a signal counts as minus one. -/
def shellLine (line : Text) (sandbox : Sandbox) : Except Text Int × Sandbox :=
  match sandbox.plan "sh".toList ["-c".toList, line] with
  | .error reason =>
    (.error ("Failed to run \x60".toList ++ line ++ "\x60: ".toList ++ reason), sandbox)
  | .ok plan =>
    let (trace, after) := sandbox.runPlan plan [] false none
    match trace.ending with
    | .exited code => (.ok code, after)
    | .killed _ => (.ok (-1), after)

/-- Runs a program under test; output that goes on after the time limit counts as exceeding it. -/
def execute (invocation : Invocation) (args : List Text) (stdin : Text) (limit : Duration)
    (sandbox : Sandbox) : Except Text Execution × Sandbox :=
  match sandbox.plan invocation.program (invocation.args ++ args) with
  | .error reason =>
    (.error ("Failed to run \x60".toList ++ invocation.display ++ "\x60: ".toList ++ reason),
      sandbox)
  | .ok plan =>
    let (trace, after) := sandbox.runPlan plan (Text.utf8 stdin) true (some limit.nanos)
    if trace.ended.any fun time => time ≤ limit.nanos then
      (.ok (.completed (Text.normalizeLines (Text.ofUtf8Lossy trace.stdout))), after)
    else (.ok .timedOut, after)

/-- Does a path hold a null character, which no path can? -/
def hasNull (path : Text) : Bool := path.elem '\x00'

/-- Why a path with a null character leads nowhere. -/
def nullReason : Text := "file name contained an unexpected NUL byte".toList

/-- Reads a file that holds text. -/
def readText (path : Text) (sandbox : Sandbox) : Except Text Text × Sandbox :=
  let answer :=
    if hasNull path then .error nullReason
    else
      match sandbox.root.find sandbox.directory path with
      | .error error => .error error.message
      | .ok (.directory _) => .error OsError.isDirectory.message
      | .ok node =>
        match Text.ofUtf8? node.content with
        | some text => .ok text
        | none => .error "stream did not contain valid UTF-8".toList
  (answer, sandbox)

/-- Puts a text in place of a file or creates it. -/
def writeText (path text : Text) (sandbox : Sandbox) : Except Text Unit × Sandbox :=
  if hasNull path then (.error nullReason, sandbox)
  else
    match sandbox.root.writable sandbox.directory path with
    | .error error => (.error error.message, sandbox)
    | .ok place =>
      (.ok (), { sandbox with root := sandbox.root.setContent place (Text.utf8 text) })

/-- Runs a compiler without input. -/
def compile (compiler : Text) (args : List Text) (sandbox : Sandbox) :
    Option CompilerRun × Sandbox :=
  match sandbox.plan compiler args with
  | .error _ => (none, sandbox)
  | .ok plan =>
    let (trace, after) := sandbox.runPlan plan [] false none
    (some ⟨trace.ending = .exited 0, trace.stdout, trace.stderr⟩, after)

/-- Does a path lead to anything? -/
def pathExists (path : Text) (sandbox : Sandbox) : Bool :=
  !hasNull path && (sandbox.root.find sandbox.directory path).toOption.isSome

/-- The names in a directory, if a path leads to one. -/
def entries (path : Text) (sandbox : Sandbox) : Option (Except Text (List Text)) :=
  match sandbox.root.find sandbox.directory path with
  | .ok (.directory entries) => some (.ok (entries.map Prod.fst))
  | _ => none

/-- The directory for intermediate files. -/
def temporaryPath : Text := "/tmp/build".toList

/-- Makes the directory for intermediate files, emptying one that is there. -/
def temporary (sandbox : Sandbox) : Except Text Text × Sandbox :=
  (.ok temporaryPath,
    { sandbox with root := sandbox.root.set (some (.directory [])) (Path.parts temporaryPath) })

/-- The host that a sandbox is. -/
def host : Host Sandbox := ⟨shellLine, execute⟩

/-- The workspace that a sandbox is. -/
def workspace : Workspace Sandbox where
  toHost := host
  temporary := temporary
  pathExists := pathExists
  entries := entries
  readText := readText
  writeText := writeText
  compile := compile

end Sandbox

end TaggedTests
