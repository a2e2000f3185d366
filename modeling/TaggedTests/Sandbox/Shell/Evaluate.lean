import TaggedTests.Sandbox.Shell.Builtin
import TaggedTests.Sandbox.Tool.Wrapping

/-!
Running shell scripts and the programs they start.

Every command takes a step of the world, so that a script without end runs out of steps.
-/

namespace TaggedTests

namespace Shell

/-- The arguments of a shell: options, a script that is given, and operands. -/
structure ShellArgs where
  options : Options := {}
  isGiven : Bool := false
  fromInput : Bool := false
  operands : List Text := []

/-- Reads the arguments of a shell; a letter that there is no option of is refused. -/
def shellArgs : ShellArgs → List Text → Except Char ShellArgs
  | found, ['-', '-'] :: rest => .ok { found with operands := rest }
  | found, ('-' :: c :: option) :: rest => do
    let letters := c :: option
    let options ← Builtin.setLetters true found.options
      (letters.filter fun letter => letter ≠ 'c' ∧ letter ≠ 's')
    shellArgs
      { found with
        options := options
        isGiven := found.isGiven || letters.elem 'c'
        fromInput := found.fromInput || letters.elem 's' } rest
  | found, rest => .ok { found with operands := rest }

/-- The search path of a shell that is given none. -/
def usualPath : Text := "/usr/local/sbin:/usr/local/bin:/usr/sbin:/usr/bin:/sbin:/bin".toList

/-- A shell that starts to run in a process. -/
def startSession (world : World) (process : Process) (name : Text) (args : List Text)
    (options : Options) : Session where
  world := world
  process := process
  name := name
  args := args
  bindings :=
    let here := Path.absolute process.directory
    let environment := Wrapping.putVariable "PWD".toList here process.environment
    (environment.map fun pair => (pair.1, ⟨pair.2, true, false⟩)) ++
      [("PATH".toList, ⟨usualPath, false, false⟩)]
  functions := []
  options := options
  id := 4000 + world.channels.size

/-- The directory that a process goes to, or why it cannot; it stays where it is without one. -/
def enter (wanted : Option Text) (process : Process) : Act (Except Text Place) := do
  match wanted with
  | none => return .ok process.directory
  | some path =>
    let cannot (error : OsError) : Except Text Place :=
      .error ("cannot change directory to ".toList ++ Quoting.name path ++ ": ".toList ++
        error.reason)
    match ← process.find path, ← process.resolve path with
    | .ok (.directory _), .ok place => return .ok place
    | .ok _, _ => return cannot .notDirectory
    | .error error, _ => return cannot error

/-- Why a file cannot be opened, in the words of the shell. -/
def cannotOpen (path : Text) (error : OsError) : Text :=
  let isMissing := error = .notFound || error = .notDirectory
  "cannot open ".toList ++ path ++ ": ".toList ++
    if isMissing then "No such file".toList else error.reason

/-- The channel of a redirection, or why there is none. -/
def openTarget (kind : RedirectKind) (target : Text) : Run (Except Text (Option Nat)) := do
  let session ← get
  let here := session.process.directory
  let opened (channel : Channel) : Run (Except Text (Option Nat)) := do
    return .ok (some (← act (World.openChannel channel)))
  match kind with
  | .read =>
    match session.world.root.find here target with
    | .ok node => opened (World.reading node)
    | .error error => return .error (cannotOpen target error)
  | .write | .append =>
    match session.world.root.writable here target with
    | .error .notFound | .error .notDirectory =>
      return .error ("cannot create ".toList ++ target ++ ": Directory nonexistent".toList)
    | .error error =>
      return .error ("cannot create ".toList ++ target ++ ": ".toList ++ error.reason)
    | .ok place =>
      match session.world.root.at? place with
      | some (.device _) => opened .null
      | found =>
        let old := (found.map Node.content).getD []
        let content := if kind = .append then old else []
        act (modify fun world => { world with root := world.root.setContent place content })
        opened (.file place (if kind = .append then none else some 0))
  | .duplicate =>
    match Tool.natural? target with
    | some descriptor =>
      match session.process.descriptors.lookup descriptor with
      | some id => return .ok (some id)
      | none => return .error (target ++ ": ".toList ++ OsError.badDescriptor.reason)
    | none => return .ok none
  | .document _ => opened (.source (Text.utf8 target) (some 0))

/-- The descriptors with one opened or closed. -/
def setDescriptor (descriptor : Nat) (channel : Option Nat) (table : List (Nat × Nat)) :
    List (Nat × Nat) :=
  (channel.map fun id => (descriptor, id)).toList ++ table.filter fun pair => pair.1 ≠ descriptor

/-- The descriptors that stay as they are, or copies of them, under redirections. -/
def keptDescriptors (table : List (Nat × Nat)) (targets : List Redirect) : List (Nat × Nat) :=
  targets.foldl (fun table target =>
    let channel :=
      if target.kind = .duplicate then (Tool.natural? target.target).bind fun descriptor =>
        table.lookup descriptor
      else none
    setDescriptor target.descriptor channel table) table

/-- The channels that a command keeps open, of those that are open around it. -/
def heldChannels (table : List (Nat × Nat)) : Command → List Nat
  | .simple _ _ _ targets | .redirected _ targets =>
    (keptDescriptors table targets).map Prod.snd
  | _ => table.map Prod.snd

/-- Runs something with other descriptors than the shell's, which it gets back. -/
def withDescriptors {α : Type} (table : List (Nat × Nat)) (run : Run α) : Run α := do
  let before := (← get).process.descriptors
  modify fun session => { session with process := { session.process with descriptors := table } }
  let answer ← run
  modify fun session => { session with process := { session.process with descriptors := before } }
  return answer

/-- Runs a command of the shell, which fails if it has nowhere to print to and would print. -/
def printing (name : Text) (run : Run Flow) : Run Flow := do
  let table := (← get).process.descriptors
  if (table.lookup 1).isSome then run
  else
    let lost ← act (World.openChannel (.sink []))
    let flow ← withDescriptors (setDescriptor 1 (some lost) table) run
    if (← act (World.collected lost)).isEmpty then return flow
    complain (name ++ ": I/O error".toList)
    setStatus (Nat.lor (← get).status 1)
    return flow

/-- Runs something as a command whose failure is looked at. -/
def tested {α : Type} (run : Run α) : Run α := do
  let before := (← get).isTested
  modify fun session => { session with isTested := true }
  let answer ← run
  modify fun session => { session with isTested := before }
  return answer

/-- Runs something on behalf of a command of the shell, which complaints name. -/
def speaking {α : Type} (speaker : Text) (run : Run α) : Run α := do
  let before := (← get).speaker
  modify fun session => { session with speaker := some speaker }
  let answer ← run
  modify fun session => { session with speaker := before }
  return answer

/-- Runs the body of a loop. -/
def inLoop {α : Type} (run : Run α) : Run α := do
  let before := (← get).loops
  modify fun session => { session with loops := before + 1 }
  let answer ← run
  modify fun session => { session with loops := before }
  return answer

/-- Runs the body of a function with arguments. -/
def inFunction (args : List Text) (run : Run Flow) : Run Flow := do
  let before ← get
  set { before with args := args, loops := 0, outer := some [] }
  let flow ← run
  restore ((← get).outer.getD [])
  modify fun session =>
    { session with args := before.args, loops := before.loops, outer := before.outer }
  return if flow = .returning then .next else flow

/-- Ends the shell if an error has ended it, or if the last command failed and failures end it. -/
def checked (flow : Flow) : Run Flow := do
  let session ← get
  if session.aborted then return .exiting
  if flow = .next ∧ session.status ≠ 0 ∧ session.options.stopsOnError ∧ !session.isTested then
    return .exiting
  return flow

/-- What a loop does after its body: whether it goes on, and how it hands over if it does not. -/
def afterBody : Flow → Option Flow
  | .next | .continuing 1 => none
  | .breaking 1 => some .next
  | .breaking levels => some (.breaking (levels - 1))
  | .continuing levels => some (.continuing (levels - 1))
  | flow => some flow

/-- How a shell ends that hands over in some way. -/
def endingOf (session : Session) : Flow → Ending
  | .killed signal => .killed signal
  | _ => .exited (session.status % 256)

/-- Ends a shell, given how to run a script that it has left for its end. -/
def conclude (run : Text → Run Flow) (flow : Flow) : Run Ending := do
  let session ← get
  match flow, session.traps.lookup 0 with
  | .killed signal, _ => return .killed signal
  | _, none => return endingOf session flow
  | _, some action =>
    set { session with
      aborted := false
      traps := session.traps.filter fun pair => pair.1 ≠ 0 }
    match ← run action with
    | .exiting => return endingOf (← get) .exiting
    | .killed signal => return .killed signal
    | _ => return endingOf session flow

/-- Runs something in a shell of its own, given how to run a script that it leaves for its end. -/
def apart (script : Text → Run Flow) (run : Run Flow) : Run Ending := do
  -- Everything but the world is as before once the shell has ended.
  let before ← get
  set { before with traps := before.traps.filter fun pair => pair.2.isEmpty && pair.1 ≠ 0 }
  let ending ← conclude script (← run)
  let after ← get
  set { before with world := after.world }
  return ending

/-- Shows a command before it runs. -/
def trace (words : List Text) : Run Unit := do
  let session ← get
  if session.options.traces ∧ !words.isEmpty then
    let mark := ((session.bindings.lookup "PS4".toList).map Variable.value).getD "+ ".toList
    act (session.process.writeText 2 (mark ++ [' '].intercalate words ++ ['\n']))

/-- The file that a script is read from: a path, or a name that is found on the search path. -/
def scriptPath? (name : Text) : Run (Option Text) := do
  if name.elem '/' then return some name
  let session ← get
  let directories := ((← valueOf? "PATH".toList).getD []).splitOn ':'
  return (directories.map fun directory => Path.join directory name).find? fun path =>
    match session.world.root.find session.process.directory path with
    | .ok (.file _ _) => true
    | _ => false

/-- Complains of a program that cannot be started, and leaves the status for that. -/
def cannotStart (name : Text) (error : OsError) : Run Flow := do
  -- A program that is there but cannot be run has a status of its own.
  let isMissing := error = .notFound || error = .notDirectory
  if name.isEmpty then
    complain ": Permission denied".toList
    Builtin.leave 127
  else
    complain (name ++ ": ".toList ++ if isMissing then "not found".toList else error.reason)
    Builtin.leave (if isMissing ∨ error = .nameTooLong then 127 else 126)

/-- Takes over the status of a program that has ended. -/
def finish (ending : Ending) : Run Flow := do
  Builtin.tellEnding ending
  Builtin.leave ending.status

/-- Uses up all steps where commands are nested too deeply, giving some answer. -/
def runDry {α : Type} (answer : α) : Run α := do
  act World.exhaust
  return answer

mutual

/-- Runs a command. -/
def evaluate : Nat → Command → Run Flow
  | 0, _ => runDry .exiting
  | fuel + 1, command => do
    -- Nothing runs without a step, so that loops end.
    if !(← act World.takeStep) then return .exiting
    match command with
    | .nothing => Builtin.leave 0
    | .sequence first .nothing => evaluate fuel first
    | .sequence first second =>
      match ← evaluate fuel first with
      | .next => evaluate fuel second
      | flow => return flow
    | .both first second =>
      match ← tested (evaluate fuel first) with
      | .next => if (← get).status = 0 then evaluate fuel second else return .next
      | flow => return flow
    | .either first second =>
      match ← tested (evaluate fuel first) with
      | .next => if (← get).status = 0 then return .next else evaluate fuel second
      | flow => return flow
    | .choice condition yes no =>
      match ← tested (evaluate fuel condition) with
      | .next => evaluate fuel (if (← get).status = 0 then yes else no)
      | flow => return flow
    | .loop negated condition body => inLoop (repeatBody fuel negated condition body 0)
    | .each name words body =>
      let values ←
        match words with
        | none => pure (← get).args
        | some raws => expandAll fuel raws
      if values.isEmpty then setStatus 0
      inLoop (eachValue fuel name body values)
    | .select word clauses =>
      let value ← whole (outputOf fuel) word
      selectClause fuel value clauses
    | .define name body =>
      modify fun session => { session with functions := putPair name body session.functions }
      Builtin.leave 0
    | .subshell body =>
      let ending ← apart (scriptLines fuel) (evaluate fuel body)
      setStatus ending.status
      checked .next
    | .background body => startJob fuel body
    | .pipeline negated stages =>
      match negated, stages with
      | true, [stage] =>
        match ← tested (evaluate fuel stage) with
        | .next => Builtin.leave (if (← get).status = 0 then 1 else 0)
        | flow => return flow
      | _, _ =>
        let start := (← get).world.clock
        runStages fuel start start none stages
        if negated then Builtin.leave (if (← get).status = 0 then 1 else 0)
        else checked .next
    | .redirected body targets =>
      match ← redirect fuel targets (← get).process.descriptors with
      | .ok table => withDescriptors table (evaluate fuel body)
      | .error message =>
        complain message
        setStatus 2
        checked .next
    | .simple line assignments words targets =>
      modify fun session => { session with line := line }
      simple fuel assignments words targets

/-- Expands words into fields. -/
def expandAll : Nat → List Text → Run (List Text)
  | 0, _ => runDry []
  | _, [] => return []
  | fuel + 1, raw :: rest => do
    let first ← fields (outputOf fuel) raw
    if (← get).aborted then return []
    let others ← expandAll fuel rest
    return first ++ others

/-- Repeats a body as its condition asks, leaving the status of the last time. -/
def repeatBody : Nat → Bool → Command → Command → Nat → Run Flow
  | 0, _, _, _, _ => runDry .exiting
  | fuel + 1, negated, condition, body, last => do
    if !(← act World.takeStep) then return .exiting
    match ← tested (evaluate fuel condition) with
    | .next =>
      if ((← get).status = 0) = negated then Builtin.leave last
      else
        match afterBody (← evaluate fuel body) with
        | none => repeatBody fuel negated condition body (← get).status
        | some flow => return flow
    | flow => return (afterBody flow).getD .next

/-- Runs a body for each value. -/
def eachValue : Nat → Text → Command → List Text → Run Flow
  | 0, _, _, _ => runDry .exiting
  | _, _, _, [] => checked .next
  | fuel + 1, name, body, value :: rest => do
    assign name value
    if (← get).aborted then return .exiting
    match afterBody (← evaluate fuel body) with
    | none => eachValue fuel name body rest
    | some flow => return flow

/-- Runs the first clause that has a pattern which fits. -/
def selectClause : Nat → Text → List (List Text × Command) → Run Flow
  | 0, _, _ => runDry .next
  | fuel + 1, value, clauses => do
    if (← get).aborted then return .exiting
    match clauses with
    | [] => Builtin.leave 0
    | (patterns, body) :: rest =>
      let items ← patterns.mapM fun raw => do
        return pattern (marksOf (← wholeGlyphs (outputOf fuel) raw))
      if items.any fun item => Pattern.fits item value then evaluate fuel body
      else selectClause fuel value rest

/-- Starts a job that runs on beside the shell. -/
def startJob : Nat → Command → Run Flow
  | 0, _ => runDry .exiting
  | fuel + 1, command => do
    let start := (← get).world.clock
    let silence ← act (World.openChannel .null)
    let table := setDescriptor 0 (some silence) (← get).process.descriptors
    let ending ← withDescriptors table (apart (scriptLines fuel) (evaluate fuel command))
    let session ← get
    let id := 5000 + session.world.channels.size
    let held := heldChannels session.process.descriptors command
    let job : Job := ⟨id, session.world.clock, held, ending.status⟩
    act (modify fun world => { world with clock := start, jobs := world.jobs ++ [job] })
    modify fun session => { session with lastJob := some id }
    Builtin.leave 0

/--
Runs the stages of a pipeline side by side; it ends with the last of them to end.

A stage that never stops writing ends when what it writes is read no more.
-/
def runStages : Nat → Nat → Nat → Option Nat → List Command → Run Unit
  | 0, _, _, _, _ => runDry ()
  | _, _, _, _, [] => return
  | fuel + 1, start, latest, input, stage :: rest => do
    let table := (← get).process.descriptors
    let fed := input.elim table fun id => setDescriptor 0 (some id) table
    let run := apart (scriptLines fuel) (evaluate fuel stage)
    if rest.isEmpty then
      let ending ← withDescriptors fed run
      setStatus ending.status
      act (World.waitUntil latest)
    else
      let output ← act (World.openChannel (.pipe []))
      let steps := (← get).world.steps
      act (modify fun world => { world with steps := steps / 2 })
      let _ ← withDescriptors (setDescriptor 1 (some output) fed) run
      let after := (← get).world
      let ended := after.clock
      let isCut := after.steps = 0 && !(← act (World.collected output)).isEmpty
      act (World.turn output (if isCut then none else some ended))
      let left := if after.steps = 0 ∧ !isCut then 0 else after.steps + (steps - steps / 2)
      act (modify fun world => { world with clock := start, steps := left })
      runStages fuel start (if isCut then latest else max latest ended) (some output) rest

/-- The output of a script without the line ends behind it. -/
def outputOf : Nat → Text → Run Text
  | 0, _ => runDry []
  | fuel + 1, script => do
    let output ← act (World.openChannel (.sink []))
    let table := setDescriptor 1 (some output) (← get).process.descriptors
    let ending ← withDescriptors table (apart (scriptLines fuel) (scriptLines fuel script))
    modify fun session => { session with substituted := some ending.status }
    let bytes ← act (World.collected output)
    let text := Text.ofUtf8Lossy (bytes.filter (· ≠ 0))
    return (text.reverse.dropWhile (· = '\n')).reverse

/-- The descriptors after redirections, or why one of them fails. -/
def redirect : Nat → List Redirect → List (Nat × Nat) → Run (Except Text (List (Nat × Nat)))
  | 0, _, table => runDry (.ok table)
  | _, [], table => return .ok table
  | fuel + 1, target :: rest, table => do
    let text ←
      match target.kind with
      | .document true => pure target.target
      | .document false => documentText (outputOf fuel) target.target
      | _ => whole (outputOf fuel) target.target
    if (← get).aborted then return .ok table
    match ← withDescriptors table (openTarget target.kind text) with
    | .error message => return .error message
    | .ok channel => redirect fuel rest (setDescriptor target.descriptor channel table)

/-- Gives variables their values in order, giving back what was assigned. -/
def assignInOrder : Nat → List (Text × Text) → Run (List Text)
  | 0, _ => runDry []
  | _, [] => return []
  | fuel + 1, (name, raw) :: rest => do
    let value ← whole (outputOf fuel) raw
    if (← get).aborted then return []
    assign name value
    let others ← assignInOrder fuel rest
    return (name ++ '=' :: value) :: others

/-- Runs a simple command. -/
def simple : Nat → List (Text × Text) → List Text → List Redirect → Run Flow
  | 0, _, _, _ => runDry .exiting
  | fuel + 1, assignments, words, targets => do
    modify fun session => { session with substituted := none }
    let expanded ← expandAll fuel words
    if (← get).aborted then return .exiting
    let persists := expanded.head?.elim true Builtin.isSpecial
    match ← redirect fuel targets (← get).process.descriptors with
    | .error message =>
      complain message
      setStatus 2
      if persists ∧ !expanded.isEmpty then return .exiting else checked .next
    | .ok table =>
      let before := (← get).bindings
      let assigned ← assignInOrder fuel assignments
      if (← get).aborted then return .exiting
      trace (assigned ++ expanded)
      match expanded with
      | [] =>
        setStatus ((← get).substituted.getD 0)
        checked .next
      | [['e', 'x', 'e', 'c']] =>
        modify fun session =>
          { session with process := { session.process with descriptors := table } }
        Builtin.leave 0
      | name :: args =>
        if !persists then for pair in assignments do exportVariable pair.1
        let flow ← withDescriptors table (named fuel name args)
        if !persists then restore (assignments.map fun pair => (pair.1, before.lookup pair.1))
        answerSignal fuel
        checked flow

/-- Does what a signal has called for. -/
def answerSignal : Nat → Run Unit
  | 0 => runDry ()
  | fuel + 1 => do
    let session ← get
    match session.called with
    | none => return
    | some action =>
      set { session with called := none }
      let _ ← scriptLines fuel action
      setStatus session.status

/-- Runs a command by its name, which may be that of a function. -/
def named : Nat → Text → List Text → Run Flow
  | 0, _, _ => runDry .exiting
  | fuel + 1, name, args => do
    match (← get).functions.lookup name with
    | some body => inFunction args (evaluate fuel body)
    | none => native fuel name args

/-- Runs a command of the shell or a program. -/
def native : Nat → Text → List Text → Run Flow
  | 0, _, _ => runDry .exiting
  | fuel + 1, name, args => do
    match builtin? name with
    | some run => speaking name (printing name (run args))
    | none =>
      match String.ofList name, args with
      | "eval", args => speaking name (scriptLines fuel ([' '].intercalate args))
      | ".", [] => Builtin.leave 0
      | ".", path :: _ => sourceFile fuel path
      | "command", [] => Builtin.leave 0
      | "command", ['-', 'v'] :: names => Builtin.type true (names.take 1)
      | "command", ['-', 'V'] :: names => Builtin.type false names
      | "command", inner :: rest => native fuel inner rest
      | "exec", [] => Builtin.leave 0
      | "exec", command :: rest =>
        modify fun session =>
          { session with traps := session.traps.filter fun pair => pair.1 ≠ 0 }
        let flow ← speaking name (external fuel command rest)
        return if flow = .next then .exiting else flow
      | _, _ => external fuel name args

/-- Runs the commands of a file in this shell. -/
def sourceFile : Nat → Text → Run Flow
  | 0, _ => runDry .exiting
  | fuel + 1, name => do
    let process := (← get).process
    match ← scriptPath? name with
    | none => speaking ['.'] (Builtin.failHard (name ++ ": not found".toList))
    | some path =>
      match ← act (process.readFile path) with
      | .ok bytes =>
        let flow ← speaking path (scriptLines fuel (Text.ofUtf8Lossy bytes))
        return if flow = .returning then .next else flow
      | .error error => speaking ['.'] (Builtin.failHard (cannotOpen path error))

/-- Starts a program and waits for it. -/
def external : Nat → Text → List Text → Run Flow
  | 0, _, _ => runDry .exiting
  | fuel + 1, name, args => do
    let process ← child name
    let root := (← get).world.root
    let searchPath := (← valueOf? "PATH".toList).getD []
    let found := Launch.locate root process.directory (some searchPath) name
    match found with
    | .error error => cannotStart name error
    | .ok path =>
      match Launch.interpret root process.directory Launch.interpreterLimit name path args with
      | .ok plan => finish (← act (start fuel plan process))
      | .error .badFormat => finish (← act (start fuel ⟨"sh".toList, name, path :: args⟩ process))
      | .error error => cannotStart name error

/-- Runs a program of the system in a process. -/
def start : Nat → Launch.Plan → Process → Act Ending
  | 0, _, _ => do
    World.exhaust
    return .exited 2
  | fuel + 1, plan, process => do
    let process := { process with name := plan.name }
    match String.ofList plan.tool with
    | "sh" | "dash" => shell fuel plan.args process
    | "env" | "nice" | "nohup" => wrap fuel plan process
    | _ =>
      let code ← Tool.run plan.tool plan.args process
      return .exited code

/-- Runs a program that starts another one. -/
def wrap : Nat → Launch.Plan → Process → Act Ending
  | 0, _, _ => do
    World.exhaust
    return .exited 2
  | fuel + 1, plan, process => do
    match Wrapping.ofArgs plan.tool process.environment plan.args with
    | .error (.usage reason) =>
      process.refuse reason
      return .exited 125
    | .error (.other reason) =>
      process.complain reason
      return .exited 125
    | .ok wrapping =>
      match wrapping.command, ← enter wrapping.directory process with
      | [], _ =>
        process.print wrapping.shown
        return .exited 0
      | _, .error reason =>
        process.complain reason
        return .exited 125
      | command :: rest, .ok directory =>
        let inner :=
          { process with environment := wrapping.environment, directory := directory }
        let searchPath := inner.valueOf? "PATH".toList
        match Launch.planOrScript (← get).root directory searchPath command rest with
        | .ok plan => start fuel plan inner
        | .error error =>
          process.complain
            (Wrapping.failure plan.tool command ++ ": ".toList ++ error.reason)
          if error = .notFound ∧ Wrapping.hints plan.tool command then
            process.complain "use -[v]S to pass options in shebang lines".toList
          return .exited (if error = .notFound then 127 else 126)

/-- Runs a shell in a process. -/
def shell : Nat → List Text → Process → Act Ending
  | 0, _, _ => do
    World.exhaust
    return .exited 2
  | fuel + 1, args, process => do
    let refuse (text : Text) : Act Ending := do
      process.complain ("0: ".toList ++ text)
      return .exited 2
    match shellArgs {} args with
    | .error letter => refuse (Builtin.illegalOption letter)
    | .ok given =>
      let run (name : Text) (operands : List Text) (script : Text) : Act Ending := do
        let (ending, after) :=
          (shellMain fuel script).run
            (startSession (← get) process name operands given.options)
        set after.world
        return ending
      match given.isGiven, given.operands with
      | true, script :: rest => run (rest.headD process.name) rest.tail script
      | true, [] => refuse "-c requires an argument".toList
      | false, operands =>
        match if given.fromInput then none else operands.head? with
        | some path =>
          match ← process.readFile path with
          | .ok bytes => run path operands.tail (Text.ofUtf8Lossy bytes)
          | .error error => refuse (cannotOpen path error)
        | none =>
          let bytes ← process.readInput none
          run process.name operands (Text.ofUtf8Lossy bytes)

/-- Runs a whole script and what it leaves for its end. -/
def shellMain : Nat → Text → Run Ending
  | 0, _ => runDry (.exited 2)
  | fuel + 1, script => do
    conclude (scriptLines fuel) (← scriptLines fuel script)

/-- Runs the commands of a script as far as it can be read. -/
def scriptLines : Nat → Text → Run Flow
  | 0, _ => runDry .exiting
  | fuel + 1, script => do
    let (commands, error) := parse script
    if commands.isEmpty then setStatus 0
    match ← inOrder fuel commands with
    | .next =>
      match error with
      | none => return .next
      | some found =>
        modify fun session => { session with line := found.line }
        Builtin.failHard found.message
    | flow => return flow

/-- Runs commands in order until one of them leaves. -/
def inOrder : Nat → List Command → Run Flow
  | 0, _ => runDry .exiting
  | _, [] => return .next
  | fuel + 1, command :: rest => do
    match ← evaluate fuel command with
    | .next => inOrder fuel rest
    | flow => return flow

end

end Shell

end TaggedTests
