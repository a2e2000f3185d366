import TaggedTests.Toml.Blank

/-!
Strings of a TOML document, in single or in double quotes.

Three quotes open a string of several lines. In double quotes a backslash begins an escape.
-/

namespace TaggedTests

namespace Toml

/-- Reads the character whose code is written in a number of hexadecimal digits. -/
def codePoint (count : Nat) : Reader Char := fun text =>
  let values := (text.take count).filterMap Text.hexDigit?
  let code := Text.ofDigits 16 values
  if values.length < count then Reader.nothing text
  else if code.isValidChar then .found (Char.ofNat code) (text.drop count)
  else Reader.fault .outOfRange text

/-- The characters that may follow a backslash. -/
def escapeLetters : List Char := ['b', 'f', 'n', 'r', 't', 'u', 'U', '\\', '"']

/-- Reads what follows the backslash of an escape, giving the character that it stands for. -/
def escaped : Reader Char := fun text =>
  match text with
  | 'b' :: rest => .found '\x08' rest
  | 'f' :: rest => .found '\x0c' rest
  | 'n' :: rest => .found '\n' rest
  | 'r' :: rest => .found '\r' rest
  | 't' :: rest => .found '\t' rest
  | 'u' :: rest => ((codePoint 4).required.inside .shortCode) rest
  | 'U' :: rest => ((codePoint 8).required.inside .longCode) rest
  | '\\' :: rest => .found '\\' rest
  | '"' :: rest => .found '"' rest
  -- The trouble lies behind the first byte of what follows the backslash.
  | _ :: _ => .wrong ⟨text, 1, some .escape, escapeLetters.map .char, none⟩
  | [] => Reader.nothing text

/-- Reads an escape. -/
def escape : Reader Char := do
  Reader.exactly ['\\']
  escaped

/-- Does a character stand for itself in a string in double quotes? -/
def isBasic (c : Char) : Bool := !isControl c && c ≠ '"' && c ≠ '\\'

/-- Does a character stand for itself in a string in single quotes? -/
def isLiteral (c : Char) : Bool := !isControl c && c ≠ '\''

/-- Reads a string in double quotes that ends in its line. -/
def basicString : Reader Text := do
  Reader.exactly ['"']
  let content ← Reader.many (Reader.one isBasic <|> escape)
  (Reader.exactly ['"']).required.inside .basicString
  return content

/-- Reads a string in single quotes that ends in its line. -/
def literalString : Reader Text :=
  Reader.inside .literalString do
    Reader.exactly ['\'']
    let content ← Reader.run isLiteral
    (Reader.exactly ['\'']).required
    return content

/-- Three quotes. -/
def fence (quote : Char) : Text := [quote, quote, quote]

/-- Reads two quotes or one, if something follows them. -/
def quotesBefore (quote : Char) (next : Reader Unit) : Reader Text :=
  (do Reader.exactly [quote, quote]; next.ahead; return [quote, quote]) <|>
  (do Reader.exactly [quote]; next.ahead; return [quote])

/-- Reads quotes that another character follows, and so do not end a string. -/
def innerQuotes (quote : Char) : Reader Text :=
  quotesBefore quote do
    let _ ← Reader.one (· ≠ quote)

/-- Reads quotes that belong to a string although they stand in front of those that close it. -/
def lastQuotes (quote : Char) : Reader Text :=
  return (← (quotesBefore quote (Reader.exactly (fence quote))).optional).getD []

/-- Reads a backslash at the end of a line with all blanks and line ends that follow. -/
def joinedLine : Reader Unit := do
  Reader.exactly ['\\']
  spaces
  newline
  blanks

/-- Reads some text of a string of several lines in double quotes, in which there are no quotes. -/
def basicContent : Reader Text := do
  -- A backslash before a line end is no escape.
  let content : Reader Text :=
    Reader.someRun isBasic <|> (do joinedLine; return []) <|> (do return [← escape]) <|>
      (do newline; return ['\n'])
  return (← content.many).flatten

/-- Reads some text of a string of several lines in single quotes, in which there are no quotes. -/
def literalContent : Reader Text := do
  let content : Reader Text := Reader.someRun isLiteral <|> (do newline; return ['\n'])
  return (← content.many).flatten

/-- Reads a string of several lines in double quotes. -/
def multilineBasicString : Reader Text :=
  Reader.inside .multilineBasicString do
    Reader.exactly (fence '"')
    let _ ← newline.optional
    let first ← basicContent
    let more ← Reader.many do
      return (← innerQuotes '"') ++ (← basicContent)
    let last ← lastQuotes '"'
    (Reader.exactly (fence '"')).required
    return first ++ more.flatten ++ last

/-- Reads a string of several lines in single quotes. -/
def multilineLiteralString : Reader Text :=
  Reader.inside .multilineLiteralString do
    Reader.exactly (fence '\'')
    let _ ← newline.optional
    let first ← literalContent
    let more ← Reader.many do
      let quotes ← innerQuotes '\''
      let content ← literalContent
      if content.isEmpty then Reader.nothing else return quotes ++ content
    let last ← lastQuotes '\''
    (Reader.exactly (fence '\'')).required
    return first ++ more.flatten ++ last

/-- Reads a string of any kind. -/
def string : Reader Text :=
  multilineBasicString <|> basicString <|> multilineLiteralString <|> literalString

end Toml

end TaggedTests
