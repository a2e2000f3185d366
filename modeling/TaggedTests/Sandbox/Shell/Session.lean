import TaggedTests.Sandbox.Shell.Arithmetic
import TaggedTests.Sandbox.World

/-! A running shell: its variables, and how words are expanded into fields. -/

namespace TaggedTests

namespace Shell

/-- The value of a variable, whether programs that are started see it, and whether it may change. -/
structure Variable where
  value : Text
  exported : Bool := false
  readOnly : Bool := false
  deriving DecidableEq, Repr

/-- Options of a shell. -/
structure Options where
  /-- Does a failing command end the shell? -/
  stopsOnError : Bool := false
  /-- Is a parameter without a value an error? -/
  refusesUnset : Bool := false
  /-- Are commands shown before they run? -/
  traces : Bool := false
  /-- Do patterns stand for themselves? -/
  keepsPatterns : Bool := false

/-- The state of a running shell. -/
structure Session where
  world : World
  process : Process
  /-- The name that the shell goes by. -/
  name : Text
  args : List Text
  bindings : List (Text × Variable)
  functions : List (Text × Command)
  options : Options
  /-- The status of the last command. -/
  status : Nat := 0
  /-- The line of the last command. -/
  line : Nat := 1
  id : Nat
  /-- The job that was started last. -/
  lastJob : Option Nat := none
  /-- Is the command one whose failure is looked at? -/
  isTested : Bool := false
  /-- The number of loops around the command. -/
  loops : Nat := 0
  /-- The status of the last script that the command has taken the output of. -/
  substituted : Option Nat := none
  /-- Has an error ended the shell? -/
  aborted : Bool := false
  /-- The command of the shell that is at work, which complaints name. -/
  speaker : Option Text := none
  /-- What to do on signals, by their numbers; zero stands for the end of the shell. -/
  traps : List (Nat × Text) := []
  /-- What a signal has called for. -/
  called : Option Text := none
  /-- In a function, what variables were before it made them its own, the last one first. -/
  outer : Option (List (Text × Option Variable)) := none

/-- What a shell does. -/
abbrev Run := StateM Session

/-- How a command hands over to what follows. -/
inductive Flow where
  | next
  | breaking (levels : Nat)
  | continuing (levels : Nat)
  | returning
  | exiting
  | killed (signal : Nat)
  deriving DecidableEq, Repr

/-- Lets the world act. -/
def act {α : Type} (act : Act α) : Run α := fun session =>
  let (answer, world) := act session.world
  (answer, { session with world := world })

/-- Sets the status of the last command. -/
def setStatus (status : Nat) : Run Unit := modify fun session => { session with status := status }

/-- What a complaint begins with: the name of the shell, the line and the command at work. -/
def complaintName (session : Session) : Text :=
  let speaker := session.speaker.elim [] fun name => ": ".toList ++ name
  session.name ++ ": ".toList ++ Text.ofNat session.line ++ speaker

/-- Complains with the name of the shell and the line in front. -/
def complain (text : Text) : Run Unit := do
  let session ← get
  act ({ session.process with name := complaintName session }.complain text)

/-- Complains of something that ends the shell. -/
def abort (text : Text) : Run Unit := do
  complain text
  modify fun session => { session with status := 2, aborted := true }

/-- Puts a value under a key, replacing one that is there. -/
def putPair {α : Type} (key : Text) (value : α) (pairs : List (Text × α)) : List (Text × α) :=
  (key, value) :: pairs.filter fun pair => pair.1 ≠ key

/-- Gives a variable a value. -/
def assign (name value : Text) : Run Unit := do
  let session ← get
  let old := (session.bindings.lookup name).getD ⟨[], false, false⟩
  if old.readOnly then abort (name ++ ": is read only".toList)
  else
    set { session with bindings := putPair name { old with value := value } session.bindings }

/-- Changes a variable, if there is one of that name. -/
def changeVariable (name : Text) (change : Variable → Variable) : Run Unit :=
  modify fun session =>
    match session.bindings.lookup name with
    | some found => { session with bindings := putPair name (change found) session.bindings }
    | none => session

/-- Lets programs that are started see a variable. -/
def exportVariable (name : Text) : Run Unit :=
  changeVariable name fun found => { found with exported := true }

/-- Makes variables what they were, the ones in front first. -/
def restore (kept : List (Text × Option Variable)) : Run Unit :=
  modify fun session =>
    let put (bindings : List (Text × Variable)) (pair : Text × Option Variable) :=
      let others := bindings.filter fun other => other.1 ≠ pair.1
      (pair.2.map fun old => (pair.1, old)).toList ++ others
    { session with bindings := kept.foldl put session.bindings }

/-- The value of a variable. -/
def valueOf? (name : Text) : Run (Option Text) := do
  return ((← get).bindings.lookup name).map Variable.value

/-- The process of a program that the shell starts under a name. -/
def child (name : Text) : Run Process := do
  let session ← get
  let exported := session.bindings.filter fun pair => pair.2.exported
  return { session.process with
    name := name
    environment := exported.map fun pair => (pair.1, pair.2.value) }

/-- The characters that separate fields. -/
def separators : Run Text := do
  return (← valueOf? "IFS".toList).getD " \t\n".toList

/-- The value of a parameter other than `@` and `*`. -/
def parameter? (name : Text) : Run (Option Text) := do
  let session ← get
  match name with
  | ['#'] => return some (Text.ofNat session.args.length)
  | ['?'] => return some (Text.ofNat session.status)
  | ['$'] => return some (Text.ofNat session.id)
  | ['!'] => return session.lastJob.map Text.ofNat
  | ['-'] => return some []
  | ['0'] => return some session.name
  | ['@'] | ['*'] =>
    return if session.args.isEmpty then none else some ([' '].intercalate session.args)
  | _ =>
    match name.mapM Text.digit? with
    | some digits => return session.args[Text.ofDigits 10 digits - 1]?
    | none => valueOf? name

/-- An element of an expanded word. -/
inductive Glyph where
  /-- A character; one that comes from a value may separate fields. -/
  | mark (char : Char) (quoted splits : Bool)
  /-- Quotes with nothing in them, which make a field all the same. -/
  | quotes
  /-- The border between two arguments. -/
  | cut
  deriving DecidableEq, Repr

/-- An element that may separate fields unless it is quoted. -/
def Glyph.loosened : Glyph → Glyph
  | .mark c quoted _ => .mark c quoted (!quoted)
  | glyph => glyph

/-- The elements of a value. -/
def glyphsOf (value : Text) (quoted : Bool) : List Glyph :=
  if quoted ∧ value.isEmpty then [.quotes]
  else value.map fun c => .mark c quoted (!quoted)

/-- The elements of all arguments. -/
def argumentGlyphs (joined quoted : Bool) : Run (List Glyph) := do
  let args := (← get).args
  if joined ∧ quoted then
    let between := (← separators).take 1
    return glyphsOf (between.intercalate args) true
  else return [Glyph.cut].intercalate (args.map fun arg => glyphsOf arg quoted)

/-- The text of elements, with blanks at borders. -/
def textOf (glyphs : List Glyph) : Text :=
  glyphs.flatMap fun
    | .mark c _ _ => [c]
    | .quotes => []
    | .cut => [' ']

/-- The marks of elements, as patterns are read from them. -/
def marksOf (glyphs : List Glyph) : List Mark :=
  glyphs.flatMap fun
    | .mark c quoted _ => [⟨c, quoted⟩]
    | .quotes => []
    | .cut => [⟨' ', true⟩]

/-- The value without what a pattern fits at one of its ends. -/
def trimmed (operator : Text) (items : Pattern) (value : Text) : Text :=
  let cuts := (List.range (value.length + 1))
  let fromFront (n : Nat) : Bool := items.fits (value.take n)
  let fromBack (n : Nat) : Bool := items.fits (value.drop (value.length - n))
  match String.ofList operator with
  | "#" => value.drop ((cuts.find? fromFront).getD 0)
  | "##" => value.drop ((cuts.reverse.find? fromFront).getD 0)
  | "%" => value.take (value.length - (cuts.find? fromBack).getD 0)
  | _ => value.take (value.length - (cuts.reverse.find? fromBack).getD 0)

/-- The value of an arithmetic expression, whose assignments take effect. -/
def calculate (expression : Text) : Run Text := do
  let before := (← get).bindings.map fun pair => (pair.1, pair.2.value)
  match Calc.evaluate before expression with
  | .error fault =>
    abort (fault.message expression)
    return []
  | .ok (value, after) =>
    for pair in (after.take (after.length - before.length)).reverse do assign pair.1 pair.2
    return Text.ofInt value

/-- The value of a parameter; a missing one ends the shell if that is an error. -/
def wanted (name : Text) : Run Text := do
  match ← parameter? name with
  | some value => return value
  | none =>
    if (← get).options.refusesUnset ∧ name ≠ ['@'] ∧ name ≠ ['*'] then
      abort (name ++ ": parameter not set".toList)
    return []

mutual

/-- The elements of parts, with a way to get the output of scripts. -/
def expandParts (outputOf : Text → Run Text) : Nat → List WordPart → Run (List Glyph)
  | 0, _ => return []
  | _, [] => return []
  | fuel + 1, part :: rest => do
    let first ← expandPart outputOf fuel part
    if (← get).aborted then return []
    let others ← expandParts outputOf fuel rest
    return first ++ others

/-- The elements of a part. -/
def expandPart (outputOf : Text → Run Text) : Nat → WordPart → Run (List Glyph)
  | 0, _ => return []
  | fuel + 1, part => do
    match part with
    | .plain text quoted =>
      return if quoted ∧ text.isEmpty then [.quotes] else text.map fun c => .mark c quoted false
    | .malformed =>
      abort "Bad substitution".toList
      return []
    | .output script quoted => return glyphsOf (← outputOf script) quoted
    | .arithmetic expression quoted =>
      let expanded ← expandParts outputOf fuel (documentParts expression)
      return glyphsOf (← calculate (textOf expanded)) quoted
    | .parameter name operator word quoted =>
      if operator.isEmpty ∧ (name = ['@'] ∨ name = ['*']) then
        argumentGlyphs (name = ['*']) quoted
      else adjusted outputOf fuel name operator word quoted

/-- The elements of a parameter whose value an operator adjusts. -/
def adjusted (outputOf : Text → Run Text) : Nat → Text → Text → Text → Bool → Run (List Glyph)
  | 0, _, _, _, _ => return []
  | fuel + 1, name, operator, word, quoted => do
    let value ← parameter? name
    let isSet := if operator.head? = some ':' then value.getD [] ≠ [] else value.isSome
    let expanded : Run (List Glyph) := do
      let glyphs ← expandParts outputOf fuel (partsFrom (word.length + 1) quoted word)
      return if quoted then glyphs else glyphs.map Glyph.loosened
    match String.ofList operator with
    | "length" => return glyphsOf (Text.ofNat (Text.utf8 (← wanted name)).length) quoted
    | "-" | ":-" => if isSet then return glyphsOf (value.getD []) quoted else expanded
    | "+" | ":+" => if isSet then expanded else return if quoted then [.quotes] else []
    | "=" | ":=" =>
      if isSet then return glyphsOf (value.getD []) quoted
      let glyphs ← expanded
      assign name (textOf glyphs)
      return glyphs
    | "?" | ":?" =>
      if isSet then return glyphsOf (value.getD []) quoted
      let message := textOf (← expanded)
      let usual := if operator = ['?'] then "parameter not set" else "parameter not set or null"
      abort (name ++ ": ".toList ++ if message.isEmpty then usual.toList else message)
      return []
    | "#" | "##" | "%" | "%%" =>
      let items := pattern (marksOf (← expandParts outputOf fuel (parts word)))
      return glyphsOf (trimmed operator items (← wanted name)) quoted
    | _ => return glyphsOf (← wanted name) quoted

end

/-- Cuts elements into fields at separators and borders. -/
def splitFields (separators : Text) : Option (List Mark) → List Glyph → List (List Mark)
  | current, [] => current.toList
  | current, .quotes :: rest => splitFields separators (some (current.getD [])) rest
  | current, .cut :: rest => current.toList ++ splitFields separators none rest
  | current, .mark c quoted splits :: rest =>
    if splits ∧ separators.elem c then
      if c = ' ' ∨ c = '\t' ∨ c = '\n' then current.toList ++ splitFields separators none rest
      else current.getD [] :: splitFields separators none rest
    else splitFields separators (some (current.getD [] ++ [⟨c, quoted⟩])) rest

/-- Cuts marks at slashes. -/
def splitSlashes (marks : List Mark) : List (List Mark) :=
  marks.splitOnP fun mark => mark.char = '/'

/-- The text of marks. -/
def markText (marks : List Mark) : Text := marks.map Mark.char

/-- The paths below one that fit patterns for their components. -/
def matchingPaths (root : Node) (here : Place) : Text → List (List Mark) → List Text
  | found, [] => [found]
  | found, component :: rest =>
    let base (name : Text) : Text := found ++ name ++ if rest.isEmpty then [] else ['/']
    if !isPattern component then
      let next := base (markText component)
      if (root.find here next).toOption.isSome then matchingPaths root here next rest else []
    else
      let entries := ((root.find here (if found.isEmpty then ['.'] else found)).toOption.map
        Node.entries).getD []
      let hidden := (component.head?.map Mark.char) = some '.'
      let all := [".".toList, "..".toList] ++ entries.map Prod.fst
      let names := all.filter fun name =>
        (hidden || name.head? ≠ some '.') && (pattern component).fits name
      names.flatMap fun name =>
        let next := base name
        if rest.isEmpty ∨ (root.find here next).toOption.isSome then
          matchingPaths root here next rest
        else []

/-- The paths that a field stands for, or its text if there are none. -/
def pathsOf (field : List Mark) : Run (List Text) := do
  let session ← get
  if session.options.keepsPatterns || !isPattern field then return [markText field]
  let found := matchingPaths session.world.root session.process.directory [] (splitSlashes field)
  return if found.isEmpty then [markText field] else found

/-- The steps that expanding a word may take. -/
def expansionFuel (raw : Text) : Nat := 4 * raw.length + 64

/-- The fields that a word expands into. -/
def fields (outputOf : Text → Run Text) (raw : Text) : Run (List Text) := do
  let glyphs ← expandParts outputOf (expansionFuel raw) (parts raw)
  let cut := splitFields (← separators) none glyphs
  let paths ← cut.mapM pathsOf
  return paths.flatten

/-- The elements of a word that is not cut into fields. -/
def wholeGlyphs (outputOf : Text → Run Text) (raw : Text) : Run (List Glyph) :=
  expandParts outputOf (expansionFuel raw) (parts raw)

/-- The text that a word expands into without being cut into fields. -/
def whole (outputOf : Text → Run Text) (raw : Text) : Run Text := do
  return textOf (← wholeGlyphs outputOf raw)

/-- The text of a document that is expanded. -/
def documentText (outputOf : Text → Run Text) (raw : Text) : Run Text := do
  return textOf (← expandParts outputOf (expansionFuel raw) (documentParts raw))

end Shell

end TaggedTests
