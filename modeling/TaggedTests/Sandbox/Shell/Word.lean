import TaggedTests.Sandbox.Shell.Command
import TaggedTests.Sandbox.Shell.Pattern

/-! The parts of a shell word: plain text, parameters, substituted output and arithmetic. -/

namespace TaggedTests

namespace Shell

/-- A part of a word, with whether it stands in quotes. -/
inductive WordPart where
  | plain (text : Text) (quoted : Bool)
  /-- A parameter; an operator with a word may adjust its value. -/
  | parameter (name operator word : Text) (quoted : Bool)
  /-- Braces behind a dollar sign with something else in them. -/
  | malformed
  | output (script : Text) (quoted : Bool)
  | arithmetic (expression : Text) (quoted : Bool)
  deriving DecidableEq, Repr

/-- Is the character a parameter by itself? -/
def isSpecialParameter (c : Char) : Bool := c.isDigit || "@*#?$!-".toList.elem c

/-- The operators that may follow the name of a parameter, longer ones first. -/
def parameterOperators : List Text :=
  [":-", ":=", ":+", ":?", "%%", "##", "-", "=", "+", "?", "%", "#"].map String.toList

/-- The name at the front of a text. -/
def leadingName (text : Text) : Text :=
  match text with
  | [] => []
  | c :: rest =>
    if beginsName c then c :: rest.takeWhile fun d => d.isAlphanum || d = '_'
    else if c.isDigit then c :: rest.takeWhile Char.isDigit
    else if isSpecialParameter c then [c]
    else []

/-- The parameter that stands between braces. -/
def bracedParameter (inside : Text) (quoted : Bool) : WordPart :=
  match inside with
  | '#' :: c :: rest =>
    if leadingName (c :: rest) = c :: rest then .parameter (c :: rest) "length".toList [] quoted
    else adjusted
  | _ => adjusted
where
  /-- The parameter with the operator that follows its name. -/
  adjusted : WordPart :=
    let name := leadingName inside
    let rest := inside.drop name.length
    match parameterOperators.find? fun operator => operator.isPrefixOf rest with
    | some operator =>
      if name.isEmpty then .malformed
      else .parameter name operator (rest.drop operator.length) quoted
    | none =>
      if name.isEmpty ∨ !rest.isEmpty then .malformed else .parameter name [] [] quoted

/-- A script between backquotes without the backslashes that protect it there. -/
def unescapeBackquoted : Text → Text
  | '\\' :: c :: rest =>
    if c = '$' ∨ c = '\x60' ∨ c = '\\' then c :: unescapeBackquoted rest
    else '\\' :: c :: unescapeBackquoted rest
  | c :: rest => c :: unescapeBackquoted rest
  | [] => []

/-- Reads what a dollar sign introduces, from behind it. -/
def dollarPart (quoted : Bool) (text : Text) : WordPart × Text :=
  match text with
  | '(' :: '(' :: rest =>
    match scanGroup ')' ('(' :: rest) with
    | .ok (inside, after) =>
      if inside.getLast? = some ')' then (.arithmetic (inside.drop 1).dropLast quoted, after)
      else (.output inside quoted, after)
    | .error _ => (.plain ['$'] quoted, text)
  | '(' :: rest =>
    match scanGroup ')' rest with
    | .ok (inside, after) => (.output inside quoted, after)
    | .error _ => (.plain ['$'] quoted, text)
  | '\x7b' :: rest =>
    match scanGroup '\x7d' rest with
    | .ok (inside, after) => (bracedParameter inside quoted, after)
    | .error _ => (.plain ['$'] quoted, text)
  | c :: rest =>
    if beginsName c then
      let name := leadingName text
      (.parameter name [] [] quoted, text.drop name.length)
    else if isSpecialParameter c then (.parameter [c] [] [] quoted, rest)
    else (.plain ['$'] quoted, text)
  | [] => (.plain ['$'] quoted, [])

/-- The parts of a word, read with a number of steps at most. -/
def partsFrom : Nat → Bool → Text → List WordPart
  | 0, _, _ => []
  | _, _, [] => []
  | fuel + 1, quoted, '$' :: rest =>
    let (part, after) := dollarPart quoted rest
    part :: partsFrom fuel quoted after
  | fuel + 1, quoted, '\x60' :: rest =>
    match scanGroup '\x60' rest with
    | .ok (inside, after) =>
      .output (unescapeBackquoted inside) quoted :: partsFrom fuel quoted after
    | .error _ => .plain ['\x60'] quoted :: partsFrom fuel quoted rest
  | fuel + 1, false, '\'' :: rest =>
    .plain (rest.takeWhile (· ≠ '\'')) true ::
      partsFrom fuel false ((rest.dropWhile (· ≠ '\'')).drop 1)
  | fuel + 1, false, '"' :: '"' :: rest => .plain [] true :: partsFrom fuel false rest
  | fuel + 1, quoted, '"' :: rest => partsFrom fuel (!quoted) rest
  | fuel + 1, quoted, '\\' :: c :: rest =>
    if c = '\n' then partsFrom fuel quoted rest
    else if quoted ∧ !"$\x60\"\\".toList.elem c then
      .plain ['\\', c] true :: partsFrom fuel quoted rest
    else .plain [c] true :: partsFrom fuel quoted rest
  | fuel + 1, quoted, c :: rest => .plain [c] quoted :: partsFrom fuel quoted rest

/-- The parts of a word. -/
def parts (raw : Text) : List WordPart := partsFrom (raw.length + 1) false raw

/-- The parts of a text in which only dollar signs, backquotes and backslashes have a meaning. -/
def documentParts (raw : Text) : List WordPart := partsFrom (raw.length + 1) true (protect raw)
where
  /-- The text with its double quotes protected. -/
  protect : Text → Text
    | '\\' :: c :: rest => '\\' :: c :: protect rest
    | '"' :: rest => '\\' :: '"' :: protect rest
    | c :: rest => c :: protect rest
    | [] => []

end Shell

end TaggedTests
