import TaggedTests.Sandbox.Numeral
import TaggedTests.Sandbox.Tool.Quoting
import TaggedTests.Sandbox.World

/-! Conditions on files, texts and numbers. -/

namespace TaggedTests

namespace Condition

/-- Why words are no condition. -/
inductive Fault where
  | illegalNumber (operand : Text)
  | missingArgument (operator : Text)
  /-- Words follow the one where the condition could end. -/
  | unexpectedOperator (last : Text)
  | unclosed
  deriving DecidableEq, Repr

/-- The wording of a fault. -/
def Fault.message : Fault → Text
  | illegalNumber operand => "Illegal number: ".toList ++ operand
  | missingArgument operator => operator ++ ": argument expected".toList
  | unexpectedOperator last =>
    if last.isEmpty then "unexpected operator".toList else last ++ ": unexpected operator".toList
  | unclosed => "closing paren expected".toList

/-- The wording of a fault by a program that is no shell. -/
def Fault.programMessage : Fault → Text
  | illegalNumber operand => "invalid integer ".toList ++ Quoting.escaped operand
  | missingArgument operator => "missing argument after ".toList ++ Quoting.escaped operator
  | fault => fault.message

/-- What a condition says, or why it cannot be understood. -/
abbrev Verdict := Except Fault Bool

/-- The integer that an operand stands for. -/
def integer (operand : Text) : Except Fault Int :=
  match Numeral.whole? false operand with
  | some value => .ok value
  | none => .error (.illegalNumber operand)

/-- The answer to a question about one operand, if an operator asks one. -/
def unary? (root : Node) (here : Place) (operator operand : Text) : Option Bool :=
  let found := (root.find here operand).toOption
  match String.ofList operator with
  | "-n" => some !operand.isEmpty
  | "-z" => some operand.isEmpty
  | "-e" | "-r" | "-w" => some found.isSome
  | "-f" => some (match found with | some (.file _ _) | some (.tool _) => true | _ => false)
  | "-d" => some ((found.map Node.isDirectory).getD false)
  | "-c" => some (match found with | some (.device _) => true | _ => false)
  | "-s" => some (match found with
      | some (.file content _) => !content.isEmpty
      | some (.tool _) | some (.directory _) => true
      | _ => false)
  | "-x" => some (match found with
      | some (.file _ executable) => executable
      | some (.tool _) | some (.directory _) => true
      | _ => false)
  | "-O" | "-G" => some found.isSome
  | "-h" | "-L" | "-b" | "-p" | "-S" | "-g" | "-k" | "-u" | "-t" => some false
  | _ => none

/-- Is the text an operator between two operands? -/
def isBinary (operator : Text) : Bool :=
  ["=", "!=", "<", ">", "-eq", "-ne", "-lt", "-le", "-gt", "-ge", "-nt", "-ot", "-ef"].elem
    (String.ofList operator)

/-- The answer to a comparison. -/
def binary (left operator right : Text) : Verdict :=
  let numbers (compare : Int → Int → Bool) : Verdict := do
    return compare (← integer left) (← integer right)
  match String.ofList operator with
  | "=" => .ok (left = right)
  | "!=" => .ok (left ≠ right)
  | "<" => .ok (left < right)
  | ">" => .ok (right < left)
  | "-eq" => numbers fun a b => a = b
  | "-ne" => numbers fun a b => a ≠ b
  | "-lt" => numbers fun a b => a < b
  | "-le" => numbers fun a b => a ≤ b
  | "-gt" => numbers fun a b => b < a
  | "-ge" => numbers fun a b => b ≤ a
  | _ => .ok false

/-- Does what follows an operator turn it into an operand? -/
def makesOperand : List Text → Bool
  | [] => true
  | [_] => false
  | next :: _ => isBinary next

/-- Reads one operand, a question about it or a comparison. -/
def primary (root : Node) (here : Place) : List Text → Except Fault (Bool × List Text)
  | [] => .ok (false, [])
  | word :: rest =>
    match if makesOperand rest then none else (rest.head?).bind (unary? root here word) with
    | some answer => .ok (answer, rest.tail)
    | none =>
      match rest with
      | operator :: more =>
        if isBinary operator then
          match more with
          | [] => .error (.missingArgument operator)
          | right :: after => (binary word operator right).map fun answer => (answer, after)
        else .ok (!word.isEmpty, rest)
      | [] => .ok (!word.isEmpty, [])

mutual

/-- Reads alternatives joined by `-o`. -/
def anyOf (root : Node) (here : Place) : Nat → List Text → Except Fault (Bool × List Text)
  | 0, words => .ok (false, words)
  | fuel + 1, words => do
    let (first, rest) ← allOf root here fuel words
    match rest with
    | ['-', 'o'] :: more => do
      let (second, after) ← anyOf root here fuel more
      return (first || second, after)
    | after => return (first, after)

/-- Reads conditions joined by `-a`. -/
def allOf (root : Node) (here : Place) : Nat → List Text → Except Fault (Bool × List Text)
  | 0, words => .ok (false, words)
  | fuel + 1, words => do
    let (first, rest) ← single root here fuel words
    match rest with
    | ['-', 'a'] :: more => do
      let (second, after) ← allOf root here fuel more
      return (first && second, after)
    | after => return (first, after)

/-- Reads one condition, which may be negated or stand in brackets. -/
def single (root : Node) (here : Place) : Nat → List Text → Except Fault (Bool × List Text)
  | 0, words => .ok (false, words)
  | fuel + 1, words =>
    match words with
    | ['!'] :: next :: rest => do
      let (answer, after) ← single root here fuel (next :: rest)
      return (!answer, after)
    | ['('] :: next :: rest => do
      let (answer, after) ← anyOf root here fuel (next :: rest)
      match after with
      | [')'] :: more => return (answer, more)
      | _ => throw .unclosed
    | _ => primary root here words

end

/-- Reads words all of which have to belong to the condition. -/
def whole (root : Node) (here : Place) (words : List Text) : Verdict := do
  let (answer, rest) ← anyOf root here (8 * words.length + 8) words
  if rest.isEmpty then return answer
  let last := (words.take (words.length - rest.length)).getLast?
  throw (.unexpectedOperator (last.getD []))

/-- What some words say of a tree of files seen from a directory; no words are false. -/
def evaluate (root : Node) (here : Place) (words : List Text) : Verdict :=
  match words with
  | [] => .ok false
  | [left, operator, right] =>
    if isBinary operator then binary left operator right
    else if left = ['!'] then (whole root here [operator, right]).map (!·)
    else whole root here words
  | ['!'] :: rest =>
    if rest.length = 3 then (evaluate root here rest).map (!·) else whole root here words
  | _ => whole root here words

end Condition

end TaggedTests
