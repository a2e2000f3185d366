import TaggedTests.Sandbox.Shell.Token
import TaggedTests.Text.Integer

/-! Commands of a shell script, read from its tokens. Words keep their quotes until they are
expanded. -/

namespace TaggedTests

namespace Shell

/-- What a redirection does with its target. -/
inductive RedirectKind where
  | read
  | write
  | append
  | duplicate
  /-- The target is a document, expanded unless it is plain. -/
  | document (isPlain : Bool)
  deriving DecidableEq, Repr

/-- A redirection of a descriptor. -/
structure Redirect where
  descriptor : Nat
  kind : RedirectKind
  target : Text
  deriving DecidableEq, Repr

/-- A command. -/
inductive Command where
  | simple (line : Nat) (assignments : List (Text × Text)) (words : List Text)
    (redirects : List Redirect)
  | pipeline (negated : Bool) (stages : List Command)
  | both (first second : Command)
  | either (first second : Command)
  | sequence (first second : Command)
  | background (command : Command)
  | subshell (command : Command)
  | redirected (command : Command) (redirects : List Redirect)
  | choice (condition yes no : Command)
  /-- Repeats a body while its condition succeeds or, if it is negated, fails. -/
  | loop (negated : Bool) (condition body : Command)
  /-- Runs a body for each of some words, or for each argument. -/
  | each (name : Text) (words : Option (List Text)) (body : Command)
  | select (word : Text) (clauses : List (List Text × Command))
  | define (name : Text) (body : Command)
  | nothing

/-- Why a script cannot be read on. -/
inductive GrammarFault where
  /-- Something cannot stand where it does; something else may have to. -/
  | unexpected (found : Text) (expected : Option Text)
  /-- A quote or a bracket stays open. -/
  | unclosed (closer : Char)
  | loopVariable
  | functionName
  deriving DecidableEq, Repr

/-- What is wrong in a line of a script. -/
structure GrammarError where
  line : Nat
  fault : GrammarFault
  deriving DecidableEq, Repr

namespace GrammarFault

/-- The end of a script as something that is found. -/
def ending : Text := "end of file".toList

/-- The wording of a fault. -/
def wording : GrammarFault → Text
  | unexpected found none => found ++ " unexpected".toList
  | unexpected found (some expected) =>
    found ++ " unexpected (expecting ".toList ++ expected ++ [')']
  | unclosed '\x7d' => "Missing '\x7d'".toList
  | unclosed '\x60' => "EOF in backquote substitution".toList
  | unclosed ')' => ending ++ " unexpected (expecting \")\")".toList
  | unclosed _ => "Unterminated quoted string".toList
  | loopVariable => "Bad for loop variable".toList
  | functionName => "Bad function name".toList

/-- Does a fault lie at the end of a script? -/
def isAtEnd : GrammarFault → Bool
  | unexpected found _ => found = ending
  | unclosed _ => true
  | loopVariable | functionName => false

end GrammarFault

/-- The wording of a grammar error. -/
def GrammarError.message (error : GrammarError) : Text :=
  "Syntax error: ".toList ++ error.fault.wording

/-- Words that end a list of commands. -/
def closingWords : List Text :=
  ["then", "else", "elif", "fi", "do", "done", "esac", "\x7d"].map String.toList

/-- Words that have a meaning of their own where a command may begin. -/
def keywords : List Text :=
  closingWords ++ ["if", "while", "until", "for", "case", "in", "!", "\x7b"].map String.toList

/-- Does an operator redirect? -/
def isRedirection (operator : Text) : Bool :=
  operator.head? = some '<' || operator.head? = some '>'

/-- A text in double quotes. -/
def inQuotes (text : Text) : Text := '"' :: text ++ ['"']

/-- A token as grammar errors name it. -/
def Token.shown : Token → Text
  | word raw _ => if keywords.elem raw then inQuotes raw else "word".toList
  | operator text _ => if isRedirection text then "redirection".toList else inQuotes text
  | document _ _ _ | descriptor _ _ => "redirection".toList
  | newline _ => "newline".toList
  | unclosed _ _ => GrammarFault.ending

/-- The tokens without a redirection that lacks its target at the front. -/
def dropRedirection : List Token → List Token
  | .descriptor _ _ :: .operator _ _ :: rest => rest
  | .operator text line :: rest =>
    if isRedirection text then rest else .operator text line :: rest
  | tokens => tokens

/-- The error of the first token, which cannot stand there; something else may be expected. -/
def misplaced (tokens : List Token) (expected : Option Text) : GrammarError :=
  match dropRedirection tokens with
  | .unclosed closer line :: _ => ⟨line, .unclosed closer⟩
  | token :: _ => ⟨token.line, .unexpected token.shown expected⟩
  | [] => ⟨1, .unexpected GrammarFault.ending expected⟩

/-- The tokens after line ends. -/
def skipNewlines : List Token → List Token
  | .newline _ :: rest => skipNewlines rest
  | tokens => tokens

/-- The tokens after a word that has to come first. -/
def expectWord (word : Text) (tokens : List Token) : Except GrammarError (List Token) :=
  let error := misplaced tokens (some (inQuotes word))
  match tokens with
  | .word raw _ :: rest => if raw = word then .ok rest else .error error
  | _ => .error error

/-- The tokens after an operator that has to come first. -/
def expectOperator (operator : Text) (tokens : List Token) : Except GrammarError (List Token) :=
  let error := misplaced tokens (some (inQuotes operator))
  match tokens with
  | .operator text _ :: rest => if text = operator then .ok rest else .error error
  | _ => .error error

/-- Can a character begin a name? -/
def beginsName (c : Char) : Bool := c.isAlpha || c = '_'

/-- Is a text the name of a variable? -/
def isName (text : Text) : Bool :=
  match text with
  | [] => false
  | c :: rest => beginsName c && rest.all fun d => d.isAlphanum || d = '_'

/-- The name and the value of a word that assigns. -/
def assignment? (raw : Text) : Option (Text × Text) :=
  match Text.cut? ['='] raw with
  | some (name, value) => if isName name then some (name, value) else none
  | none => none

/-- The descriptor that a redirection affects unless it says otherwise. -/
def usualDescriptor (operator : Text) : Nat := if operator.head? = some '<' then 0 else 1

/-- The kind of a redirection, if an operator makes one. -/
def redirectKind? (operator : Text) : Option RedirectKind :=
  if operator = ['<'] then some .read
  else if operator = ['>'] ∨ operator = ">|".toList then some .write
  else if operator = ">>".toList then some .append
  else if operator = ">&".toList ∨ operator = "<&".toList then some .duplicate
  else none

/-- Reads a redirection, if the tokens begin with one. -/
def redirect? : List Token → Option (Redirect × List Token)
  | .descriptor number _ :: .operator operator _ :: .word target _ :: rest =>
    (redirectKind? operator).map fun kind => (⟨number, kind, target⟩, rest)
  | .operator operator _ :: .word target _ :: rest =>
    (redirectKind? operator).map fun kind => (⟨usualDescriptor operator, kind, target⟩, rest)
  | .operator _ _ :: .document body isPlain _ :: rest => some (⟨0, .document isPlain, body⟩, rest)
  | _ => none

/-- Reads redirections as long as they come. -/
def redirects : Nat → List Token → List Redirect × List Token
  | 0, tokens => ([], tokens)
  | fuel + 1, tokens =>
    match redirect? tokens with
    | none => ([], tokens)
    | some (redirect, rest) =>
      let (more, after) := redirects fuel rest
      (redirect :: more, after)

/-- The parts of a simple command as far as they are read. -/
structure SimpleParts where
  assignments : List (Text × Text) := []
  words : List Text := []
  redirects : List Redirect := []

/-- Reads the parts of a simple command. -/
def simpleParts : Nat → SimpleParts → List Token → SimpleParts × List Token
  | 0, parts, tokens => (parts, tokens)
  | fuel + 1, parts, tokens =>
    match redirect? tokens with
    | some (redirect, rest) =>
      simpleParts fuel { parts with redirects := parts.redirects ++ [redirect] } rest
    | none =>
      match tokens with
      | .word raw _ :: rest =>
        match if parts.words.isEmpty then assignment? raw else none with
        | some pair =>
          simpleParts fuel { parts with assignments := parts.assignments ++ [pair] } rest
        | none => simpleParts fuel { parts with words := parts.words ++ [raw] } rest
      | _ => (parts, tokens)

/-- The words up to the end of a line. -/
def wordsOfLine : List Token → List Text × List Token
  | .word raw _ :: rest =>
    let (words, after) := wordsOfLine rest
    (raw :: words, after)
  | tokens => ([], tokens)

/-- The patterns of a clause, which bars separate, up to the parenthesis after them. -/
def clausePatterns : List Token → Except GrammarError (List Text × List Token)
  | .word raw _ :: .operator ['|'] _ :: rest => do
    let (patterns, after) ← clausePatterns rest
    return (raw :: patterns, after)
  | .word raw _ :: rest => do return ([raw], ← expectOperator [')'] rest)
  | tokens => .error (misplaced (tokens.drop 1) (some (inQuotes [')'])))

/-- The tokens after one semicolon and line ends, which may stand before a body. -/
def skipSeparator : List Token → List Token
  | .operator [';'] _ :: rest => skipNewlines rest
  | tokens => skipNewlines tokens

mutual

/-- Reads commands, if there are any, up to a word or an operator that ends them. -/
def commands : Nat → List Token → Except GrammarError (Command × List Token)
  | 0, tokens => .error (misplaced tokens none)
  | fuel + 1, tokens =>
    match skipNewlines tokens with
    | .word raw line :: rest =>
      if closingWords.elem raw then .ok (.nothing, .word raw line :: rest)
      else commandsFrom fuel (.word raw line :: rest)
    | .operator text line :: rest =>
      if text = [')'] ∨ text = ";;".toList then .ok (.nothing, .operator text line :: rest)
      else commandsFrom fuel (.operator text line :: rest)
    | others => commandsFrom fuel others

/-- Reads at least one command, unless the script ends, and those that follow it. -/
def commandsFrom : Nat → List Token → Except GrammarError (Command × List Token)
  | 0, tokens => .error (misplaced tokens none)
  | fuel + 1, tokens => do
    let others := skipNewlines tokens
    if others.isEmpty then return (.nothing, [])
    let (first, rest) ← conditional fuel others
    match rest with
    | .operator ['&'] _ :: more => do
      let (others, after) ← commands fuel more
      return (.sequence (.background first) others, after)
    | .operator [';'] _ :: more | .newline _ :: more => do
      let (others, after) ← commands fuel more
      return (.sequence first others, after)
    | after => return (first, after)

/-- Reads pipelines joined by `&&` and `||`. -/
def conditional : Nat → List Token → Except GrammarError (Command × List Token)
  | 0, tokens => .error (misplaced tokens none)
  | fuel + 1, tokens => do
    let (first, rest) ← pipeline fuel tokens
    conditionalRest fuel first rest

/-- Reads what is joined to a pipeline. -/
def conditionalRest : Nat → Command → List Token → Except GrammarError (Command × List Token)
  | 0, _, tokens => .error (misplaced tokens none)
  | fuel + 1, first, tokens =>
    match tokens with
    | .operator ['&', '&'] _ :: rest => do
      let (second, after) ← pipeline fuel (skipNewlines rest)
      conditionalRest fuel (.both first second) after
    | .operator ['|', '|'] _ :: rest => do
      let (second, after) ← pipeline fuel (skipNewlines rest)
      conditionalRest fuel (.either first second) after
    | after => return (first, after)

/-- Reads a pipeline. -/
def pipeline : Nat → List Token → Except GrammarError (Command × List Token)
  | 0, tokens => .error (misplaced tokens none)
  | fuel + 1, tokens =>
    match tokens with
    | .word ['!'] _ :: rest => do
      let (stages, after) ← stages fuel rest
      return (.pipeline true stages, after)
    | _ => do
      let (stages, after) ← stages fuel tokens
      match stages with
      | [command] => return (command, after)
      | _ => return (.pipeline false stages, after)

/-- Reads commands joined by bars. -/
def stages : Nat → List Token → Except GrammarError (List Command × List Token)
  | 0, tokens => .error (misplaced tokens none)
  | fuel + 1, tokens => do
    let (first, rest) ← command fuel tokens
    match rest with
    | .operator ['|'] _ :: more => do
      let (others, after) ← stages fuel (skipNewlines more)
      return (first :: others, after)
    | after => return ([first], after)

/-- Reads one command with its redirections. -/
def command : Nat → List Token → Except GrammarError (Command × List Token)
  | 0, tokens => .error (misplaced tokens none)
  | fuel + 1, tokens => do
    match ← compound? fuel tokens with
    | some (found, rest) =>
      let (targets, after) := redirects rest.length rest
      return (if targets.isEmpty then found else .redirected found targets, after)
    | none =>
      match tokens with
      | .word name line :: .operator ['('] bracket :: rest => do
        if (assignment? name).isSome then throw (misplaced [.operator ['('] bracket] none)
        let opened ← expectOperator [')'] rest
        if !isName name then throw ⟨line, .functionName⟩
        let (body, after) ← command fuel (skipNewlines opened)
        return (.define name body, after)
      | _ =>
        let (parts, rest) := simpleParts tokens.length {} tokens
        if parts.words.isEmpty ∧ parts.assignments.isEmpty ∧ parts.redirects.isEmpty then
          throw (misplaced tokens none)
        let line := (tokens.head?.map Token.line).getD 1
        return (.simple line parts.assignments parts.words parts.redirects, rest)

/-- Reads a command that holds others, if the tokens begin with one. -/
def compound? : Nat → List Token → Except GrammarError (Option (Command × List Token))
  | 0, tokens => .error (misplaced tokens none)
  | fuel + 1, tokens =>
    match tokens with
    | .operator ['('] _ :: rest => do
      let (body, after) ← commandsFrom fuel rest
      return some (.subshell body, ← expectOperator [')'] after)
    | .word raw _ :: rest =>
      if raw = ['\x7b'] then do
        let (body, after) ← commandsFrom fuel rest
        return some (body, ← expectWord ['\x7d'] after)
      else if raw = "if".toList then do
        let (found, after) ← choice fuel rest
        return some (found, after)
      else if raw = "while".toList ∨ raw = "until".toList then do
        let (condition, after) ← commandsFrom fuel rest
        let (body, more) ← doGroup fuel after
        return some (.loop (raw = "until".toList) condition body, more)
      else if raw = "for".toList then do
        let (found, after) ← forLoop fuel rest
        return some (found, after)
      else if raw = "case".toList then do
        let (found, after) ← selection fuel rest
        return some (found, after)
      else if raw = ['!'] ∨ closingWords.elem raw then throw (misplaced tokens none)
      else return none
    | _ => return none

/-- Reads a choice from behind its `if` or `elif`. -/
def choice : Nat → List Token → Except GrammarError (Command × List Token)
  | 0, tokens => .error (misplaced tokens none)
  | fuel + 1, tokens => do
    let (condition, afterCondition) ← commandsFrom fuel tokens
    let (yes, afterYes) ← commandsFrom fuel (← expectWord "then".toList afterCondition)
    match afterYes with
    | .word ['e', 'l', 'i', 'f'] _ :: rest => do
      let (no, after) ← choice fuel rest
      return (.choice condition yes no, after)
    | .word ['e', 'l', 's', 'e'] _ :: rest => do
      let (no, after) ← commandsFrom fuel rest
      return (.choice condition yes no, ← expectWord "fi".toList after)
    | after => return (.choice condition yes .nothing, ← expectWord "fi".toList after)

/-- Reads the body of a loop between `do` and `done`. -/
def doGroup : Nat → List Token → Except GrammarError (Command × List Token)
  | 0, tokens => .error (misplaced tokens none)
  | fuel + 1, tokens => do
    let (body, after) ← commandsFrom fuel (← expectWord "do".toList (skipSeparator tokens))
    return (body, ← expectWord "done".toList after)

/-- Reads a loop over words from behind its `for`. -/
def forLoop : Nat → List Token → Except GrammarError (Command × List Token)
  | 0, tokens => .error (misplaced tokens none)
  | fuel + 1, tokens =>
    match tokens with
    | .word name line :: rest => do
      if !isName name then throw ⟨line, .loopVariable⟩
      match skipNewlines rest with
      | .word ['i', 'n'] _ :: more => do
        let (words, after) := wordsOfLine more
        match after with
        | .newline _ :: others | .operator [';'] _ :: others => do
          let (body, final) ← doGroup fuel others
          return (.each name (some words) body, final)
        | _ => throw (misplaced after none)
      | _ => do
        let (body, final) ← doGroup fuel rest
        return (.each name none body, final)
    | token :: _ => throw ⟨token.line, .loopVariable⟩
    | [] => throw ⟨1, .loopVariable⟩

/-- Reads a selection by patterns from behind its `case`. -/
def selection : Nat → List Token → Except GrammarError (Command × List Token)
  | 0, tokens => .error (misplaced tokens none)
  | fuel + 1, tokens =>
    match tokens with
    | .word word _ :: rest => do
      let inside ← expectWord "in".toList (skipNewlines rest)
      let (found, after) ← clauses fuel (skipNewlines inside)
      return (.select word found, after)
    | _ => .error (misplaced tokens (some "word".toList))

/-- Reads the clauses of a selection up to its `esac`. -/
def clauses : Nat → List Token → Except GrammarError (List (List Text × Command) × List Token)
  | 0, tokens => .error (misplaced tokens none)
  | fuel + 1, tokens =>
    match tokens with
    | .word ['e', 's', 'a', 'c'] _ :: rest => return ([], rest)
    | _ => do
      let opened :=
        match tokens with
        | .operator ['('] _ :: rest => rest
        | _ => tokens
      let (patterns, inside) ← clausePatterns opened
      let (body, after) ← commands fuel inside
      match after with
      | .operator [';', ';'] _ :: rest => do
        let (others, final) ← clauses fuel (skipNewlines rest)
        return ((patterns, body) :: others, final)
      | .word ['e', 's', 'a', 'c'] _ :: rest => return ([(patterns, body)], rest)
      | _ => throw (misplaced after (some (inQuotes ";;".toList)))

end

/-- The steps that reading tokens may take. -/
def parseFuel (tokens : List Token) : Nat := 12 * tokens.length + 24

/-- Reads a script line by line: its commands and, where reading stops, what is wrong there. -/
def parseLines : Nat → List Token → List Command × Option GrammarError
  | 0, tokens => ([], some (misplaced tokens none))
  | fuel + 1, tokens =>
    match skipNewlines tokens with
    | [] => ([], none)
    | others =>
      match parseLine fuel others with
      | .error error => ([], some error)
      | .ok (command, rest) =>
        let (later, error) := parseLines fuel rest
        (command :: later, error)
where
  /-- Reads the commands of one line. -/
  parseLine (fuel : Nat) (tokens : List Token) : Except GrammarError (Command × List Token) :=
    match fuel with
    | 0 => .error (misplaced tokens none)
    | fuel + 1 => do
      let (first, rest) ← conditional (parseFuel tokens) tokens
      match rest with
      | [] => return (first, [])
      | .newline _ :: more => return (first, more)
      | .operator ['&'] _ :: more => joined fuel (.background first) more
      | .operator [';'] _ :: more => joined fuel first more
      | _ => throw (misplaced rest none)
  /-- Reads what follows a command on its line. -/
  joined (fuel : Nat) (first : Command) (rest : List Token) :
      Except GrammarError (Command × List Token) :=
    match fuel, rest with
    | _, [] => .ok (first, [])
    | _, .newline _ :: more => .ok (first, more)
    | 0, _ => .error (misplaced rest none)
    | fuel + 1, _ => do
      let (others, after) ← parseLine fuel rest
      return (.sequence first others, after)

/-- The commands of a script, and what is wrong where reading stops. -/
def parse (script : Text) : List Command × Option GrammarError :=
  let found := tokens script
  let (commands, error) := parseLines (2 * found.length + 2) found
  (commands, error.map fun error =>
    if error.fault.isAtEnd then { error with line := lineEnds script + 1 } else error)

end Shell

end TaggedTests
