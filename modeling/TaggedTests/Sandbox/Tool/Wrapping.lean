import TaggedTests.Sandbox.Numeral
import TaggedTests.Sandbox.Tool.Options
import TaggedTests.Sandbox.World

/-! Programs that start another program: what they ask for it to be started with. -/

namespace TaggedTests

/-- How a program is to be started by another. -/
structure Wrapping where
  environment : List (Text × Text)
  /-- The directory to go to. -/
  directory : Option Text
  /-- What is printed if there is no command. -/
  shown : Text
  command : List Text

/-- Why a program starts no other. -/
inductive Refusal where
  /-- It cannot be used in this way. -/
  | usage (reason : Text)
  | other (reason : Text)
  deriving DecidableEq, Repr

namespace Wrapping

/-- Options that stand in front of a command. -/
structure LeadingTable where
  /-- Letters of options without a value. -/
  flags : List Char
  /-- Letters of options with one. -/
  valued : List Char
  /-- Options that are spelled out, with their letters. -/
  words : List (String × Char)

/-- An option as it is used, with its value or nothing. -/
abbrev Given := Char × Text

/-- What an argument in front of a command is. -/
inductive Lead where
  /-- No option, and so the command. -/
  | command
  /-- The end of the options. -/
  | ending
  | options (given : List Given)
  /-- Options of which the last has its value in the next argument. -/
  | open (given : List Given) (letter : Char) (complaint : Text)
  | wrong (reason : Text)

namespace LeadingTable

/-- The options that letters behind one hyphen are. -/
def cluster (table : LeadingTable) : List Char → Lead
  | [] => .options []
  | letter :: rest =>
    if table.valued.elem letter then
      if rest.isEmpty then
        .open [] letter ("option requires an argument -- '".toList ++ [letter, '\''])
      else .options [(letter, rest)]
    else if table.flags.elem letter then
      match table.cluster rest with
      | .options given => .options ((letter, []) :: given)
      | .open given last complaint => .open ((letter, []) :: given) last complaint
      | other => other
    else .wrong ("invalid option -- '".toList ++ [letter, '\''])

/-- The option that a word behind two hyphens is. -/
def spelled (table : LeadingTable) (word : Text) : Lead :=
  let (name, value) :=
    match Text.cut? ['='] word with
    | some (name, value) => (name, some value)
    | none => (word, none)
  -- What is shown is the whole name, also where it was cut short.
  let shown (letter : Char) : Text :=
    let known := (table.words.find? fun known => known.2 = letter).elim name (·.1.toList)
    "option '--".toList ++ known ++ ['\'']
  match Tool.OptionTable.letterOf ⟨table.flags ++ table.valued, table.words⟩ name with
  | .error reason => .wrong reason
  | .ok letter =>
    match table.valued.elem letter, value with
    | true, some value => .options [(letter, value)]
    | true, none => .open [] letter (shown letter ++ " requires an argument".toList)
    | false, none => .options [(letter, [])]
    | false, some _ => .wrong (shown letter ++ " doesn't allow an argument".toList)

/-- What an argument is. -/
def lead (table : LeadingTable) : Text → Lead
  | ['-', '-'] => .ending
  | '-' :: '-' :: word => table.spelled word
  | '-' :: c :: more => table.cluster (c :: more)
  | _ => .command

end LeadingTable

/-- The options in front of a command and the command, or what is wrong with the options. -/
def leading (lead : Text → Lead) : List Text → Except Text (List Given × List Text)
  | [] => .ok ([], [])
  | arg :: rest =>
    match lead arg with
    | .command => .ok ([], arg :: rest)
    | .ending => .ok ([], rest)
    | .wrong reason => .error reason
    | .options given => do
      let (more, command) ← leading lead rest
      return (given ++ more, command)
    | .open given letter complaint =>
      match rest with
      | [] => .error complaint
      | value :: rest => do
        let (more, command) ← leading lead rest
        return (given ++ (letter, value) :: more, command)

/-- An environment with a variable put where it was, or behind all others. -/
def putVariable (name value : Text) (environment : List (Text × Text)) : List (Text × Text) :=
  if (environment.lookup name).isSome then
    environment.map fun pair => if pair.1 = name then (name, value) else pair
  else environment ++ [(name, value)]

/-- An environment with variables put into it by the assignments in front of a command. -/
def putAll : List (Text × Text) → List Text → List (Text × Text) × List Text
  | environment, word :: rest =>
    match Text.cut? ['='] word with
    | some (name, value) => putAll (putVariable name value environment) rest
    | none => (environment, word :: rest)
  | environment, [] => (environment, [])

/-- An environment without some of its variables, if all of the names can be those of any. -/
def unsetAll (names : List Text) (environment : List (Text × Text)) :
    Except Refusal (List (Text × Text)) :=
  match names.find? fun name => name.isEmpty || name.elem '=' with
  | some name =>
    .error (.other ("cannot unset ".toList ++ Quoting.escaped name ++
      ": Invalid argument".toList))
  | none => .ok (environment.filter fun pair => !names.elem pair.1)

/-- The options of `env`. -/
def environmentTable : LeadingTable where
  flags := ['i', '0']
  valued := ['u', 'C']
  words := [("ignore-environment", 'i'), ("null", '0'), ("unset", 'u'), ("chdir", 'C')]

/-- What `env` asks for. -/
def ofEnvironment (inherited : List (Text × Text)) (args : List Text) :
    Except Refusal Wrapping := do
  let (given, rest) ← (leading environmentTable.lead args).mapError Refusal.usage
  let letters := given.map Prod.fst
  -- A hyphen alone stands behind all other options.
  let (clears, words) :=
    match rest with
    | ['-'] :: words => (true, words)
    | words => (letters.elem 'i', words)
  let kept ← if clears then .ok []
    else unsetAll ((given.filter fun option => option.1 = 'u').map Prod.snd) inherited
  let (environment, command) := putAll kept words
  let directory := ((given.filter fun option => option.1 = 'C').getLast?).map Prod.snd
  if letters.elem '0' ∧ !command.isEmpty then
    .error (.usage "cannot specify --null (-0) with command".toList)
  else if directory.isSome ∧ command.isEmpty then
    .error (.usage "must specify command with --chdir (-C)".toList)
  else
    let ending := if letters.elem '0' then '\x00' else '\n'
    let shown := environment.flatMap fun pair => pair.1 ++ '=' :: pair.2 ++ [ending]
    return ⟨environment, directory, shown, command⟩

/-- The options of `nice`. -/
def priorityTable : LeadingTable := ⟨[], ['n'], [("adjustment", 'n')]⟩

/-- What an argument of `nice` is, which may be a number behind a hyphen. -/
def priorityLead (arg : Text) : Lead :=
  let isNumber (text : Text) : Bool := text.head?.any Char.isDigit
  match arg with
  | '-' :: rest =>
    let digits := if rest.head? = some '-' ∨ rest.head? = some '+' then rest.tail else rest
    if isNumber digits then .options [('n', rest)] else priorityTable.lead arg
  | _ => .command

/-- Is the text an integer, however large? -/
def isInteger (text : Text) : Bool :=
  (Numeral.read? false text).any fun numeral => numeral.rest.isEmpty

/-- What `nice` asks for. -/
def ofPriority (inherited : List (Text × Text)) (args : List Text) : Except Refusal Wrapping := do
  let (given, command) ← (leading priorityLead args).mapError Refusal.usage
  match given.getLast?.map Prod.snd with
  | none => return ⟨inherited, none, "0\n".toList, command⟩
  | some adjustment =>
    if !isInteger adjustment then
      .error (.other ("invalid adjustment ".toList ++ Quoting.escaped adjustment))
    else if command.isEmpty then
      .error (.usage "a command must be given with an adjustment".toList)
    else return ⟨inherited, none, [], command⟩

/-- What `nohup` asks for. -/
def ofUnhung (inherited : List (Text × Text)) (args : List Text) : Except Refusal Wrapping := do
  let (_, command) ← (leading (LeadingTable.lead ⟨[], [], []⟩) args).mapError Refusal.usage
  if command.isEmpty then .error (.usage "missing operand".toList)
  else return ⟨inherited, none, [], command⟩

/-- What a program that starts others asks for. -/
def ofArgs (tool : Text) (inherited : List (Text × Text)) (args : List Text) :
    Except Refusal Wrapping :=
  match String.ofList tool with
  | "nice" => ofPriority inherited args
  | "nohup" => ofUnhung inherited args
  | _ => ofEnvironment inherited args

/-- The complaint of a command that cannot be started, without the reason. -/
def failure (tool command : Text) : Text :=
  if tool = "nohup".toList then "failed to run command ".toList ++ Quoting.escaped command
  else Quoting.escaped command

/-- Is a complaint about a missing command followed by a hint at what it may have meant? -/
def hints (tool command : Text) : Bool :=
  tool = "env".toList && command.any fun c => c = ' ' || ('\t' ≤ c && c ≤ '\r')

end Wrapping

end TaggedTests
