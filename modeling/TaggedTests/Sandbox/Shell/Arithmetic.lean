import TaggedTests.Sandbox.Numeral
import TaggedTests.Sandbox.Shell.Word

/-! Arithmetic of a shell on integers of 64 bits. -/

namespace TaggedTests

namespace Shell

/-- A token of an expression. -/
inductive CalcToken where
  | number (value : Int)
  | name (text : Text)
  | operator (text : String)
  /-- A character that no expression has. -/
  | stray (char : Char)
  deriving DecidableEq, Repr

/-- Why an expression has no value. -/
inductive CalcFault where
  | expected (what : String)
  | divisionByZero
  /-- The value of a variable is no integer. -/
  | illegalNumber (value : Text)
  deriving DecidableEq, Repr

/-- The wording of a fault in an expression. -/
def CalcFault.message (expression : Text) : CalcFault → Text
  | expected what => within ("expecting ".toList ++ what.toList)
  | divisionByZero => within "division by zero".toList
  | illegalNumber value => "Illegal number: ".toList ++ value
where
  /-- The wording of a fault with the expression that it lies in. -/
  within (fault : Text) : Text :=
    "arithmetic expression: ".toList ++ fault ++ ": \"".toList ++ expression ++ ['"']

/-- What is left of an expression, and the values of variables, those assigned last in front. -/
structure Calculation where
  rest : List CalcToken
  bindings : List (Text × Text)

/-- A step of a calculation. -/
abbrev Calc := StateT Calculation (Except CalcFault)

namespace Calc

/-- The operators of expressions, longer ones before their beginnings. -/
def operators : List String :=
  ["<<=", ">>=", "||", "&&", "==", "!=", "<=", ">=", "<<", ">>", "+=", "-=", "*=", "/=", "%=", "&=",
    "^=", "|=", "+", "-", "*", "/", "%", "&", "^", "|", "<", ">", "=", "!", "~", "(", ")", "?", ":"]

/-- The operators that assign. -/
def assigning : List String :=
  ["=", "+=", "-=", "*=", "/=", "%=", "<<=", ">>=", "&=", "^=", "|="]

/-- The operators between two operands, from the loosest level to the tightest. -/
def levels : List (List String) :=
  [["|"], ["^"], ["&"], ["==", "!="], ["<=", ">=", "<", ">"], ["<<", ">>"], ["+", "-"],
    ["*", "/", "%"]]

/-- The tokens of an expression, read with a number of steps at most. -/
def tokensFrom : Nat → Text → List CalcToken
  | 0, _ => []
  | _, [] => []
  | fuel + 1, c :: rest =>
    if Numeral.isBlank c then tokensFrom fuel rest
    else if c.isDigit then
      match Numeral.read? true (c :: rest) with
      | some numeral => .number numeral.value :: tokensFrom fuel numeral.rest
      | none => [.stray c]
    else if beginsName c then
      let name := leadingName (c :: rest)
      .name name :: tokensFrom fuel ((c :: rest).drop name.length)
    else
      match operators.find? fun operator => operator.toList.isPrefixOf (c :: rest) with
      | some operator =>
        .operator operator :: tokensFrom fuel ((c :: rest).drop operator.length)
      | none => .stray c :: tokensFrom fuel rest

/-- The bits of an integer as a word. -/
def word (n : Int) : BitVec 64 := BitVec.ofInt 64 n

/-- An integer brought into 64 bits. -/
def wrap (n : Int) : Int := (word n).toInt

/-- The value of a truth. -/
def truth (b : Bool) : Int := if b then 1 else 0

/-- Applies an operator between two operands. -/
def apply (operator : String) (a b : Int) : Calc Int :=
  match operator with
  | "|" => return (word a ||| word b).toInt
  | "^" => return (word a ^^^ word b).toInt
  | "&" => return (word a &&& word b).toInt
  | "==" => return truth (a = b)
  | "!=" => return truth (a ≠ b)
  | "<=" => return truth (a ≤ b)
  | ">=" => return truth (b ≤ a)
  | "<" => return truth (a < b)
  | ">" => return truth (b < a)
  | "<<" => return (word a <<< (b % 64).toNat).toInt
  | ">>" => return ((word a).sshiftRight (b % 64).toNat).toInt
  | "+" => return wrap (a + b)
  | "-" => return wrap (a - b)
  | "*" => return wrap (a * b)
  | "/" => if b = 0 then throw .divisionByZero else return wrap (a.tdiv b)
  | _ => if b = 0 then throw .divisionByZero else return a.tmod b

/-- The operator at the front, if it is one of some. -/
def operatorOf? (operators : List String) : Calc (Option String) := do
  match (← get).rest with
  | .operator text :: _ => return if operators.elem text then some text else none
  | _ => return none

/-- Drops the token at the front. -/
def skip : Calc Unit :=
  modify fun calculation => { calculation with rest := calculation.rest.tail }

/-- Drops an operator that has to stand at the front. -/
def expect (operator : String) (shown : String) : Calc Unit := do
  match ← operatorOf? [operator] with
  | some _ => skip
  | none => throw (.expected shown)

/-- The integer that a variable stands for, zero if it has no value. -/
def valueOf (name : Text) : Calc Int := do
  let value := ((← get).bindings.lookup name).getD []
  if value.isEmpty then return 0
  match Numeral.whole? true value with
  | some n => return n
  | none => throw (.illegalNumber value)

/-- Gives a variable a value. -/
def assign (name : Text) (value : Int) : Calc Int := do
  modify fun calculation =>
    { calculation with bindings := (name, Text.ofInt value) :: calculation.bindings }
  return value

mutual

/-- Reads an assignment or a choice; the value counts only in an expression that is live. -/
def expression : Nat → Bool → Calc Int
  | 0, _ => throw (.expected "primary")
  | fuel + 1, live => do
    match (← get).rest with
    | .name name :: .operator operator :: rest =>
      if assigning.elem operator then
        modify fun calculation => { calculation with rest := rest }
        let value ← expression fuel live
        if !live then return value
        if operator = "=" then assign name value
        else assign name (← apply (operator.dropEnd 1).copy (← valueOf name) value)
      else choice fuel live
    | _ => choice fuel live

/-- Reads a condition and, behind a question mark, the values that it chooses from. -/
def choice : Nat → Bool → Calc Int
  | 0, _ => throw (.expected "primary")
  | fuel + 1, live => do
    let condition ← anyOf fuel live
    match ← operatorOf? ["?"] with
    | none => return condition
    | some _ =>
      skip
      let yes ← expression fuel (live && condition ≠ 0)
      expect ":" "':'"
      let no ← choice fuel (live && condition = 0)
      return if condition ≠ 0 then yes else no

/-- Reads alternatives. -/
def anyOf : Nat → Bool → Calc Int
  | 0, _ => throw (.expected "primary")
  | fuel + 1, live => do
    let first ← allOf fuel live
    match ← operatorOf? ["||"] with
    | none => return first
    | some _ =>
      skip
      let second ← anyOf fuel (live && first = 0)
      return truth (first ≠ 0 || second ≠ 0)

/-- Reads conditions that have to hold together. -/
def allOf : Nat → Bool → Calc Int
  | 0, _ => throw (.expected "primary")
  | fuel + 1, live => do
    let first ← level fuel live levels
    match ← operatorOf? ["&&"] with
    | none => return first
    | some _ =>
      skip
      let second ← allOf fuel (live && first ≠ 0)
      return truth (first ≠ 0 && second ≠ 0)

/-- Reads operands of one level, tighter levels given after it, joined by its operators. -/
def level : Nat → Bool → List (List String) → Calc Int
  | 0, _, _ => throw (.expected "primary")
  | fuel + 1, live, [] => operand fuel live
  | fuel + 1, live, operators :: tighter => do
    let first ← level fuel live tighter
    levelRest fuel live operators tighter first

/-- Reads what is joined to the operands of a level. -/
def levelRest : Nat → Bool → List String → List (List String) → Int → Calc Int
  | 0, _, _, _, _ => throw (.expected "primary")
  | fuel + 1, live, operators, tighter, first => do
    match ← operatorOf? operators with
    | none => return first
    | some operator =>
      skip
      let second ← level fuel live tighter
      let value ← if live then apply operator first second else pure second
      levelRest fuel live operators tighter value

/-- Reads a number, a variable, a sign or an expression in brackets. -/
def operand : Nat → Bool → Calc Int
  | 0, _ => throw (.expected "primary")
  | fuel + 1, live => do
    let tokens := (← get).rest
    skip
    match tokens with
    | .number value :: _ => return value
    | .name name :: _ => if live then valueOf name else return 0
    | .operator "(" :: _ =>
      let value ← expression fuel live
      expect ")" "')'"
      return value
    | .operator "-" :: _ => return wrap (-(← operand fuel live))
    | .operator "+" :: _ => operand fuel live
    | .operator "~" :: _ => return -(← operand fuel live) - 1
    | .operator "!" :: _ => return truth ((← operand fuel live) = 0)
    | _ => throw (.expected "primary")

end

/-- The value of an expression with the values of variables after it. -/
def evaluate (bindings : List (Text × Text)) (text : Text) :
    Except CalcFault (Int × List (Text × Text)) := do
  let tokens := tokensFrom (text.length + 1) text
  let (value, calculation) ← (expression (16 * tokens.length + 16) true).run ⟨tokens, bindings⟩
  if calculation.rest.isEmpty then return (value, calculation.bindings)
  throw (.expected "EOF")

end Calc

end Shell

end TaggedTests
