import TaggedTests.Text.Integer

/-! Tokens of a shell script: words with their quotes, operators and line ends. -/

namespace TaggedTests

namespace Shell

/-- A token with the number of its line. -/
inductive Token where
  | word (raw : Text) (line : Nat)
  | operator (text : Text) (line : Nat)
  /-- A number that stands right before a redirection. -/
  | descriptor (number line : Nat)
  /-- The body of a document that stands in the script; a plain one is not expanded. -/
  | document (body : Text) (isPlain : Bool) (line : Nat)
  | newline (line : Nat)
  /-- A quote or a bracket that stays open, by the character that would close it. -/
  | unclosed (closer : Char) (line : Nat)
  deriving DecidableEq, Repr

namespace Token

/-- The line that a token stands in. -/
def line : Token → Nat
  | word _ line | operator _ line | descriptor _ line | document _ _ line | newline line
  | unclosed _ line => line

end Token

/-- Does a character end a word that is not quoted? -/
def endsWord (c : Char) : Bool := " \t\n;&|<>()".toList.elem c

/-- How far a scan goes. -/
inductive ScanEnd where
  /-- To the character that ends a word outside quotes. -/
  | word
  /-- To the closer of the bracket that was open at the start. -/
  | closer
  deriving DecidableEq, Repr

/-- Does a scan stop in front of a character? -/
def stopsAt (goal : ScanEnd) (closers : List Char) (c : Char) : Bool :=
  closers.isEmpty && (goal = .closer || endsWord c)

/-- The closers that are open after a character outside single quotes. -/
def closersAfter (closers : List Char) (c : Char) : List Char :=
  if closers.head? = some c then closers.tail
  else if closers.head? = some '\'' then closers
  else if c = '"' ∨ c = '\x60' ∨ (c = '\'' ∧ closers.head? ≠ some '"') then c :: closers
  else if c = '(' ∧ closers.head? = some ')' then ')' :: closers
  else closers

/-- What a scan has passed and what follows, or a closer that is missing. -/
abbrev Scan := Except Char (Text × Text)

/-- Puts characters in front of what a scan has passed. -/
def passing (passed : Text) (found : Scan) : Scan :=
  found.map fun (inside, after) => (passed ++ inside, after)

/--
Scans a text over quotes and brackets, giving what was passed and what follows.

The closers are those of the quotes and brackets that are open, the innermost first.
-/
def scanTo (goal : ScanEnd) : List Char → Text → Scan
  | [], [] => .ok ([], [])
  | closer :: closers, [] => .error (if closers.elem '\x60' then '\x60' else closer)
  | closers, '\\' :: c :: rest =>
    if stopsAt goal closers '\\' then .ok ([], '\\' :: c :: rest)
    else if closers.head? = some '\'' then passing ['\\'] (scanTo goal closers (c :: rest))
    else passing ['\\', c] (scanTo goal closers rest)
  | closers, '$' :: '(' :: rest =>
    if stopsAt goal closers '$' then .ok ([], '$' :: '(' :: rest)
    else if closers.head? = some '\'' then passing ['$'] (scanTo goal closers ('(' :: rest))
    else passing ['$', '('] (scanTo goal (')' :: closers) rest)
  | closers, '$' :: '\x7b' :: rest =>
    if stopsAt goal closers '$' then .ok ([], '$' :: '\x7b' :: rest)
    else if closers.head? = some '\'' then passing ['$'] (scanTo goal closers ('\x7b' :: rest))
    else passing ['$', '\x7b'] (scanTo goal ('\x7d' :: closers) rest)
  | closers, c :: rest =>
    if stopsAt goal closers c then .ok ([], c :: rest)
    else passing [c] (scanTo goal (closersAfter closers c) rest)

/-- Reads a word up to the character that ends it. -/
def scanWord (text : Text) : Scan := scanTo .word [] text

/-- The inside of a bracket whose closer is given, and the text after the closer. -/
def scanGroup (closer : Char) (text : Text) : Scan :=
  (scanTo .closer [closer] text).map fun (inside, after) => (inside.dropLast, after)

/-- The operators, longer ones before their beginnings. -/
def operators : List Text :=
  ["<<-", "&&", "||", ";;", "<<", ">>", "<&", ">&", "<>", ">|", ";", "&", "|", "(", ")", "<",
    ">"].map String.toList

/-- The operator that a text starts with. -/
def operatorAt? (text : Text) : Option Text := operators.find? fun operator =>
  operator.isPrefixOf text

/-- A word without quotes and backslashes. -/
def unquoted (raw : Text) : Text := raw.filter fun c => c ≠ '\'' ∧ c ≠ '"' ∧ c ≠ '\\'

/-- The lines of a document up to the one that ends it, and the text after that. -/
def documentBody (delimiter : Text) (stripsTabs : Bool) : Nat → Text → Text × Text
  | 0, text => ([], text)
  | _, [] => ([], [])
  | fuel + 1, text =>
    let raw := text.takeWhile (· ≠ '\n')
    let ending := (text.drop raw.length).take 1
    let rest := (text.drop raw.length).drop 1
    let line := if stripsTabs then raw.dropWhile (· = '\t') else raw
    if line = delimiter then ([], rest)
    else
      let (body, more) := documentBody delimiter stripsTabs fuel rest
      (line ++ ending ++ body, more)

/-- A document that has been announced on a line. -/
structure Announced where
  delimiter : Text
  isPlain : Bool
  stripsTabs : Bool

/-- Reads the bodies of announced documents, giving them and the text after the last. -/
def documentBodies : List Announced → Text → List (Text × Bool) × Text
  | [], text => ([], text)
  | announced :: rest, text =>
    let (body, more) :=
      documentBody announced.delimiter announced.stripsTabs (text.length + 1) text
    let (bodies, after) := documentBodies rest more
    ((body, announced.isPlain) :: bodies, after)

/-- Puts bodies in place of the documents announced among tokens, which carry empty ones. -/
def fillDocuments : List (Text × Bool) → List Token → List Token
  | (body, isPlain) :: bodies, .document _ _ line :: tokens =>
    .document body isPlain line :: fillDocuments bodies tokens
  | bodies, token :: tokens => token :: fillDocuments bodies tokens
  | _, [] => []

/-- A reader of tokens: the tokens of the line so far and the documents announced in it. -/
structure Scanner where
  line : Nat
  pending : List Announced
  /-- The tokens of the line, the last one first. -/
  current : List Token

/-- Counts the line ends of a text. -/
def lineEnds (text : Text) : Nat := text.count '\n'

/-- The token of a word, given the text after it. -/
def wordToken (raw : Text) (line : Nat) (after : Text) : Token :=
  match raw.mapM Text.digit?, after with
  | some digits, '<' :: _ | some digits, '>' :: _ => .descriptor (Text.ofDigits 10 digits) line
  | _, _ => .word raw line

/-- The tokens of a script, read with a number of steps at most. -/
def scan : Nat → Scanner → Text → List Token
  | 0, scanner, _ => scanner.current.reverse
  | _, scanner, [] => scanner.current.reverse
  | fuel + 1, scanner, '\\' :: '\n' :: rest =>
    scan fuel { scanner with line := scanner.line + 1 } rest
  | fuel + 1, scanner, '\n' :: rest =>
    let (bodies, more) := documentBodies scanner.pending rest
    let used := lineEnds (rest.take (rest.length - more.length))
    fillDocuments bodies (.newline scanner.line :: scanner.current).reverse ++
      scan fuel ⟨scanner.line + 1 + used, [], []⟩ more
  | fuel + 1, scanner, c :: rest =>
    if c = ' ' ∨ c = '\t' then scan fuel scanner rest
    else if c = '#' then scan fuel scanner (rest.dropWhile (· ≠ '\n'))
    else
      match operatorAt? (c :: rest) with
      | some operator =>
        let after := (c :: rest).drop operator.length
        let token := Token.operator operator scanner.line
        if operator = "<<".toList ∨ operator = "<<-".toList then
          match scanWord (after.dropWhile (· = ' ')) with
          | .ok ([], more) => scan fuel { scanner with current := token :: scanner.current } more
          | .ok (raw, more) =>
            let announced : Announced :=
              ⟨unquoted raw, unquoted raw ≠ raw, operator = "<<-".toList⟩
            scan fuel { scanner with
              pending := scanner.pending ++ [announced]
              current := .document [] false scanner.line :: token :: scanner.current } more
          | .error closer => (.unclosed closer scanner.line :: scanner.current).reverse
        else scan fuel { scanner with current := token :: scanner.current } after
      | none =>
        match scanWord (c :: rest) with
        | .ok (raw, more) =>
          scan fuel { scanner with
            line := scanner.line + lineEnds raw
            current := wordToken raw scanner.line more :: scanner.current } more
        | .error closer => (.unclosed closer scanner.line :: scanner.current).reverse

/-- The tokens of a script. -/
def tokens (script : Text) : List Token := scan (script.length + 1) ⟨1, [], []⟩ script

end Shell

end TaggedTests
