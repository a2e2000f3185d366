import TaggedTests.Toml
import TaggedTests.Toml.Moment
import TaggedTests.Toml.Number
import TaggedTests.Toml.Quoted

/-!
Keys and values of a TOML document.

Brackets and braces may be nested, and keys be joined by points, to a limited depth.
-/

namespace TaggedTests

namespace Toml

/-- The number of brackets and braces that may be open, and of keys that may be joined. -/
def depthLimit : Nat := 127

/-- Is the character one that keys are written with when they stand without quotes? -/
def isBareKey (c : Char) : Bool :=
  ('a' ≤ c && c ≤ 'z') || ('A' ≤ c && c ≤ 'Z') || ('0' ≤ c && c ≤ '9') || c = '_' || c = '-'

/-- Reads one key. -/
def simpleKey : Reader Key :=
  Reader.located do
    let name ← basicString <|> literalString <|> Reader.someRun isBareKey
    return fun extent => ⟨name, extent⟩

/-- Reads keys joined by points, with blanks around each. -/
def dottedKey : Reader (List Key) :=
  Reader.checked do
    let keys ← Reader.inside .key <| Reader.separated (Reader.exactly ['.']) do
      spaces
      let key ← simpleKey
      spaces
      return key
    return if keys.length ≤ depthLimit then .ok keys else .error .tooDeep

/-- Reads what stands between a key and its value. -/
def equals : Reader Unit := (Reader.exactly ['=']).expecting [.char '.', .char '=']

/-- Reads a value that holds no others, given a way to read what it is. -/
def scalarOf (reader : Reader Scalar) : Reader Toml :=
  Reader.located do
    let value ← reader
    return fun extent => scalar extent value

/-- Reads a word that stands for itself, by its first letter. -/
def word (first : Char) : Reader Scalar :=
  if first = 't' then do (Reader.exactly "true".toList).required; return .boolean true
  else if first = 'f' then do (Reader.exactly "false".toList).required; return .boolean false
  else if first = 'i' then do Reader.exactly "inf".toList; return .float false .infinite
  else if first = 'n' then do Reader.exactly "nan".toList; return .float false .notANumber
  else Reader.nothing

/-- Reads a floating-point number as a value. -/
def floatScalar : Reader Scalar := do
  let (negative, magnitude) ← float
  return .float negative magnitude

/-- Reads an integer as a value. -/
def integerScalar : Reader Scalar := do return .integer (← integer)

/-- Reads a value that holds no others, by its first character. -/
def scalarFrom (first : Char) : Reader Scalar :=
  if first = '"' ∨ first = '\'' then do return .string (← string)
  else if first = '+' ∨ first = '-' ∨ Decimal.isDigit first then
    -- An integer comes last, since dates and fractions begin with one.
    (do moment; return .moment) <|> floatScalar <|> integerScalar
  else if first = '_' then integerScalar.expecting [.leadingDigit]
  else if first = '.' then floatScalar.expecting [.leadingDigit]
  else ((word first).inside .string).expecting [.char '"', .char '\'']

/-- Reads the items of an array, given a way to read one unless that would be too deep. -/
def items : Option (Reader Toml) → Reader (List Toml)
  | none => Reader.fault .tooDeep
  | some value => do
    let items ← Reader.optional do
      let items ← Reader.separated (Reader.exactly [',']) do
        blankLines
        let item ← value
        blankLines
        return item
      let _ ← (Reader.exactly [',']).optional
      return items
    blankLines
    return items.getD []

/-- Reads an array, given a way to read an item. -/
def arrayOf (value : Option (Reader Toml)) : Reader Toml :=
  Reader.located do
    Reader.exactly ['[']
    let items ← (items value).required
    ((Reader.exactly [']']).required.inside .array).expecting [.char ']']
    return fun extent => array extent items

/-- An entry of a table: the keys in front of the last one, the last one and the value. -/
abbrev Assignment := List Key × Key × Toml

/-- The assignment of a value to a dotted key. -/
def assignment? (keys : List Key) (value : Toml) : Option Assignment :=
  keys.getLast?.map fun last => (keys.dropLast, last, value)

/-- Reads the entries of a table between braces, given a way to read a value. -/
def assignments : Option (Reader Toml) → Reader (List Assignment)
  | none => Reader.fault .tooDeep
  | some value => do
    let assignments ← Reader.optional <| Reader.separated (Reader.exactly [',']) do
      let keys ← dottedKey
      Reader.required do
        equals
        spaces
        let value ← value
        spaces
        return assignment? keys value
    spaces
    return (assignments.getD []).reduceOption

/-- Reads a table between braces, given a way to read a value. -/
def inlineOf (value : Option (Reader Toml)) : Reader Toml :=
  Reader.located do
    Reader.exactly ['\x7b']
    let entries ← Reader.required <| Reader.checked do
      let assignments ← assignments value
      return assignments.foldlM (fun entries (path, last, value) =>
        assignInline value last [] path entries) []
    ((Reader.exactly ['\x7d']).required.inside .inlineTable).expecting [.char '\x7d']
    return fun extent => inline (some extent) entries

/-- Reads a value, given a way to read the values in it. -/
def valueOf (inner : Option (Reader Toml)) : Reader Toml := fun text =>
  match text with
  | [] => Reader.nothing text
  | '[' :: _ => arrayOf inner text
  | '\x7b' :: _ => inlineOf inner text
  | first :: _ => scalarOf (scalarFrom first) text

/-- Reads a value, given how many brackets and braces it may open. -/
def valueWithin : Nat → Reader Toml
  | 0 => valueOf none
  | depth + 1 => valueOf (some (valueWithin depth))

/-- Reads a value. -/
def value : Reader Toml := valueWithin depthLimit

end Toml

end TaggedTests
