import TaggedTests.Sandbox.Tool.Quoting
import TaggedTests.Sandbox.World
import TaggedTests.Text.Blank
import TaggedTests.Text.Lines

/-! Programs that pass bytes from their inputs to their output. -/

namespace TaggedTests

namespace Tool

/-- A program: what it does with its arguments, and the code it exits with. -/
abbrev Program := List Text → Process → Act Nat

/-- Options at the front of arguments, and the operands after them. -/
def splitOptions : List Text → List Text × List Text
  | ['-', '-'] :: rest => ([], rest)
  | ('-' :: c :: option) :: rest =>
    let (options, operands) := splitOptions rest
    (('-' :: c :: option) :: options, operands)
  | operands => ([], operands)

/-- Does some option, which may bundle letters, hold a letter? -/
def hasLetter (options : List Text) (letter : Char) : Bool :=
  options.any fun option => option.tail.elem letter

/-- Complains that a program cannot use a file. -/
def complainOf (path : Text) (error : OsError) (process : Process) : Act Unit :=
  process.complain (Quoting.fileName path ++ ": ".toList ++ error.reason)

/-- Complains that a program cannot open a file. -/
def complainOfOpening (path : Text) (error : OsError) (process : Process) : Act Unit :=
  process.complain
    ("cannot open ".toList ++ Quoting.name path ++ " for reading: ".toList ++ error.reason)

/--
The bytes of the operands, or of the standard input if there are none, and the exit code.

Each operand that cannot be read is complained of.
-/
def inputs (complaint : Text → OsError → Process → Act Unit) (operands : List Text)
    (process : Process) : Act (List Bytes × Nat) := do
  let mut found := []
  let mut code := 0
  for path in if operands.isEmpty then [['-']] else operands do
    if path = ['-'] then found := found ++ [← process.readInput none]
    else
      match ← process.readFile path with
      | .ok bytes => found := found ++ [bytes]
      | .error error =>
        complaint path error process
        code := 1
  return (found, code)

/-- Lines of bytes with their endings. -/
def byteLines (bytes : Bytes) : List Bytes :=
  match bytes with
  | [] => []
  | b :: rest =>
    if b = 10 then [10] :: byteLines rest
    else
      match byteLines rest with
      | [] => [[b]]
      | line :: more => (b :: line) :: more

/-- A line of bytes without its ending. -/
def dropEnding (line : Bytes) : Bytes := if line.getLast? = some 10 then line.dropLast else line

/-- The natural number that a text spells. -/
def natural? (text : Text) : Option Nat :=
  if text.isEmpty then none else (text.mapM Text.digit?).map (Text.ofDigits 10)

/-- How much of an input is wanted: a letter for the unit, and a number as text. -/
structure Amount where
  unit : Char
  count : Text
  operands : List Text

/-- Reads an amount from arguments; ten lines are wanted unless something else is asked for. -/
def amount (args : List Text) : Amount :=
  match args with
  | ['-', 'n'] :: count :: operands => ⟨'n', count, operands⟩
  | ['-', 'c'] :: count :: operands => ⟨'c', count, operands⟩
  | ('-' :: 'n' :: count) :: operands => ⟨'n', count, operands⟩
  | ('-' :: 'c' :: count) :: operands => ⟨'c', count, operands⟩
  | ('-' :: digit :: count) :: operands =>
    if digit.isDigit then ⟨'n', digit :: count, operands⟩ else ⟨'n', "10".toList, operands⟩
  | operands => ⟨'n', "10".toList, operands⟩

/-- The first bytes or lines of an input. -/
def firstOf (wanted : Amount) (bytes : Bytes) : Bytes :=
  match wanted.count with
  | '-' :: count =>
    let n := (natural? count).getD 0
    if wanted.unit = 'c' then bytes.take (bytes.length - n)
    else
      let lines := byteLines bytes
      (lines.take (lines.length - n)).flatten
  | count =>
    let n := (natural? count).getD 0
    if wanted.unit = 'c' then bytes.take n else ((byteLines bytes).take n).flatten

/-- The last bytes or lines of an input, or those from a number on. -/
def lastOf (wanted : Amount) (bytes : Bytes) : Bytes :=
  match wanted.count with
  | '+' :: count =>
    let n := (natural? count).getD 0 - 1
    if wanted.unit = 'c' then bytes.drop n else ((byteLines bytes).drop n).flatten
  | count =>
    let n := (natural? (count.filter (· ≠ '-'))).getD 0
    if wanted.unit = 'c' then bytes.drop (bytes.length - n)
    else
      let lines := byteLines bytes
      (lines.drop (lines.length - n)).flatten

/-- Prints the beginnings of its inputs. -/
def head : Program := fun args process => do
  let wanted := amount args
  if (natural? (wanted.count.dropWhile (· = '-'))).isNone then
    let unit := if wanted.unit = 'c' then "bytes" else "lines"
    process.complain
      ("invalid number of ".toList ++ unit.toList ++ ": ".toList ++ Quoting.escaped wanted.count)
    return 1
  match wanted.unit, natural? wanted.count, wanted.operands with
  | 'c', some count, [] =>
    process.writeBytes 1 (← process.readInput (some count))
    return 0
  | 'n', some count, [] =>
    process.writeBytes 1 (← process.readInputLines count)
    return 0
  | 'c', some count, [path] =>
    match ← process.find path with
    | .ok (.device true) => process.writeBytes 1 (List.replicate count 0)
    | .ok node => process.writeBytes 1 (node.content.take count)
    | .error error =>
      complainOfOpening path error process
      return 1
    return 0
  | _, _, operands =>
    let (found, code) ← inputs complainOfOpening operands process
    for bytes in found do process.writeBytes 1 (firstOf wanted bytes)
    return code

/-- Prints the ends of its inputs. -/
def tail : Program := fun args process => do
  let wanted := amount args
  let (found, code) ← inputs complainOfOpening wanted.operands process
  for bytes in found do process.writeBytes 1 (lastOf wanted bytes)
  return code

/-- The bytes of a named class. -/
def namedClass (name : Text) : Bytes :=
  let all := (List.range 128).map UInt8.ofNat
  let select (keep : Char → Bool) : Bytes := all.filter fun b => keep (Char.ofNat b.toNat)
  match String.ofList name with
  | "lower" => select Char.isLower
  | "upper" => select Char.isUpper
  | "digit" => select Char.isDigit
  | "alpha" => select Char.isAlpha
  | "alnum" => select Char.isAlphanum
  | "space" => [9, 10, 11, 12, 13, 32]
  | "blank" => [9, 32]
  | "punct" => select fun c => '!' ≤ c && c ≤ '~' && !c.isAlphanum
  | _ => []

/-- The bytes that a character or an escape at the front stands for, and the rest. -/
def setByte (text : Text) : Bytes × Text :=
  match text with
  | '\\' :: c :: rest =>
    let digits := ((c :: rest).take 3).takeWhile fun d => '0' ≤ d ∧ d ≤ '7'
    if digits.isEmpty then
      match c with
      | 'n' => ([10], rest)
      | 't' => ([9], rest)
      | 'r' => ([13], rest)
      | _ => (Text.utf8 [c], rest)
    else
      ([UInt8.ofNat (Text.ofDigits 8 (digits.filterMap Text.digit?))],
        (c :: rest).drop digits.length)
  | c :: rest => (Text.utf8 [c], rest)
  | [] => ([], [])

/-- The bytes of a set of characters with ranges and classes, read with a number of steps
at most. -/
def setBytes : Nat → Text → Bytes
  | 0, _ => []
  | _, [] => []
  | fuel + 1, '[' :: ':' :: rest =>
    let name := rest.takeWhile (· ≠ ':')
    namedClass name ++ setBytes fuel (rest.drop (name.length + 2))
  | fuel + 1, text =>
    let (first, rest) := setByte text
    match rest with
    | '-' :: d :: more =>
      let (last, after) := setByte (d :: more)
      match first, last with
      | [low], [high] =>
        (List.range' low.toNat (high.toNat + 1 - low.toNat)).map UInt8.ofNat ++ setBytes fuel after
      | _, _ => first ++ setBytes fuel rest
    | _ => first ++ setBytes fuel rest

/-- Repeated bytes of a set put once. -/
def squeeze (set : Bytes) : Bytes → Bytes
  | a :: b :: rest =>
    if a = b ∧ set.elem a then squeeze set (b :: rest) else a :: squeeze set (b :: rest)
  | bytes => bytes

/-- Replaces, deletes or squeezes bytes. -/
def tr : Program := fun args process => do
  let (options, operands) := splitOptions args
  if operands.isEmpty then
    process.refuse "missing operand".toList
    return 1
  let sets := operands.map fun set => setBytes (set.length + 1) set
  let named := (sets[0]?).getD []
  let first :=
    if hasLetter options 'c' ∨ hasLetter options 'C' then
      ((List.range 256).map UInt8.ofNat).filter fun b => !named.elem b
    else named
  let second := (sets[1]?).getD []
  let bytes ← process.readInput none
  let changed :=
    if hasLetter options 'd' then bytes.filter fun b => !first.elem b
    else if second.isEmpty then bytes
    else bytes.map fun b =>
      match first.idxOf? b with
      | none => b
      | some place => (second[place]?).getD ((second.getLast?).getD b)
  process.writeBytes 1
    (if hasLetter options 's' then squeeze (if second.isEmpty then first else second) changed
      else changed)
  return 0

/-- Is the byte a blank? -/
def isBlankByte (b : UInt8) : Bool := b = 32 || (9 ≤ b && b ≤ 13)

/-- The numbers of lines, words and bytes, as far as letters ask for them. -/
def counts (letters : Text) (bytes : Bytes) : List Nat :=
  let words := (bytes.splitOnP isBlankByte).filter (· ≠ [])
  let all := [('l', bytes.count 10), ('w', words.length), ('c', bytes.length)]
  (all.filter fun count => letters.elem count.1).map Prod.snd

/-- Counts lines, words and bytes. -/
def wc : Program := fun args process => do
  let (options, operands) := splitOptions args
  let (found, code) ← inputs complainOf operands process
  let letters := if options.isEmpty then "lwc".toList else
    options.flatten.map fun c => if c = 'm' then 'c' else c
  let rows := found.zip (if operands.isEmpty then [[]] else operands)
  let rows := if rows.length ≤ 1 then rows else rows ++ [(found.flatten, "total".toList)]
  let width := if operands.isEmpty then 7 else (Text.ofNat found.flatten.length).length
  for (bytes, label) in rows do
    let columns :=
      match counts letters bytes with
      | [count] => [Text.ofNat count]
      | several => several.map fun count => Text.padLeft width (Text.ofNat count)
    process.print
      ([' '].intercalate columns ++ (if label.isEmpty then [] else ' ' :: label) ++ ['\n'])
  return code

/-- The number at the front of a line. -/
def leadingNumber (line : Bytes) : Int :=
  let text := (Text.ofUtf8Lossy line).dropWhile Text.isBlank
  let value (digits : Text) : Int :=
    Int.ofNat (Text.ofDigits 10 ((digits.takeWhile Char.isDigit).filterMap Text.digit?))
  match text with
  | '-' :: digits => -value digits
  | digits => value digits

/-- Sorts lines. -/
def sort : Program := fun args process => do
  let (options, operands) := splitOptions args
  let (found, code) ← inputs complainOf operands process
  let lines := (found.flatMap byteLines).map dropEnding
  let before (a b : Bytes) : Bool :=
    if hasLetter options 'n' ∧ leadingNumber a ≠ leadingNumber b then
      leadingNumber a < leadingNumber b
    else a ≤ b
  let sorted := lines.mergeSort fun a b => if hasLetter options 'r' then before b a else before a b
  let kept :=
    if hasLetter options 'u' then (sorted.splitBy (· == ·)).filterMap List.head? else sorted
  process.writeBytes 1 (kept.flatMap fun line => line ++ [10])
  return code

/-- Joins equal neighbouring lines. -/
def uniq : Program := fun args process => do
  let (options, operands) := splitOptions args
  let (found, code) ← inputs complainOf operands process
  let groups := ((found.flatMap byteLines).map dropEnding).splitBy (· == ·)
  for group in groups do
    let count :=
      if hasLetter options 'c' then Text.padLeft 7 (Text.ofNat group.length) ++ [' '] else []
    process.writeBytes 1 (Text.utf8 count ++ (group.head?).getD [] ++ [10])
  return code

/-- Writes its lines from their ends to their beginnings. -/
def rev : Program := fun args process => do
  let (_, operands) := splitOptions args
  let (found, code) ← inputs complainOf operands process
  for line in found.flatMap byteLines do
    let ending := if line.getLast? = some 10 then ['\n'] else []
    process.print ((Text.ofUtf8Lossy (dropEnding line)).reverse ++ ending)
  return code

/-- Prints numbers from a first to a last one. -/
def seq : Program := fun args process => do
  let numbers := args.filterMap fun arg => (IntegerRange.int64.read arg).toOption
  let (first, step, last) : Int × Int × Int :=
    match numbers with
    | [last] => (1, 1, last)
    | [first, last] => (first, 1, last)
    | first :: step :: last :: _ => (first, step, last)
    | [] => (1, 1, 0)
  if step = 0 then
    World.exhaust
    return 0
  let count := if step < 0 then (first - last) / (-step) else (last - first) / step
  if 0 ≤ count then
    process.print ((List.range (count.toNat + 1)).flatMap fun place : Nat =>
      Text.ofInt (first + step * (place : Int)) ++ ['\n'])
  return 0

/-- Prints a line again and again. -/
def yes : Program := fun args process => do
  let line := (if args.isEmpty then ['y'] else [' '].intercalate args) ++ ['\n']
  process.print ((List.replicate 50000 line).flatten)
  World.exhaust
  return 1

/-- Copies its input to its output and into files. -/
def tee : Program := fun args process => do
  let (_, operands) := splitOptions args
  let bytes ← process.readInput none
  process.writeBytes 1 bytes
  let mut code := 0
  for path in operands do
    match ← process.writeFile path bytes with
    | .ok _ => continue
    | .error error =>
      complainOf path error process
      code := 1
  return code

end Tool

end TaggedTests
