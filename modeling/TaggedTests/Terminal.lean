import TaggedTests.Text.Utf8

/-!
What is put out where there is no terminal: text without escape sequences.

An escape sequence begins with an escape character. Of the other control characters only white space
is text. White space is also let through inside a sequence, and with it the text that follows it up
to the next control character, while the sequence goes on behind that.
-/

namespace TaggedTests

namespace Terminal

/-- Where a character stands in relation to escape sequences. -/
inductive Position where
  /-- Outside of them. -/
  | text
  /-- Behind an escape character. -/
  | escape
  /-- Behind an escape character and intermediate characters. -/
  | intermediate
  /-- In a control sequence, which a letter ends. -/
  | control
  /-- In a command to the system, which a bell ends. -/
  | system
  /-- At the beginning of a string for a device. -/
  | device
  /-- In the parameters of such a string. -/
  | deviceParameter
  /-- In the intermediate characters of such a string. -/
  | deviceIntermediate
  /-- In a string that one byte or the beginning of another sequence ends. -/
  | string
  deriving DecidableEq, Repr

/-- How far a text has been gone through. -/
structure State where
  position : Position
  /-- Is text let through because it follows white space in a sequence? -/
  passes : Bool
  deriving DecidableEq, Repr

/-- Outside of escape sequences. -/
def State.start : State := ⟨.text, false⟩

/-- The state in which a text is begun that is written behind another. -/
def State.resume (state : State) : State := ⟨state.position, false⟩

/-- Is the character a control character that counts as white space? -/
def isBlankControl (c : Char) : Bool := c = '\t' || c = '\n' || c = '\x0c' || c = '\r'

/-- Is the character text where no escape sequence is open? -/
def isText (c : Char) : Bool := ('\x20' ≤ c && c ≠ '\x7f') || isBlankControl c

/-- Is the character from `low` to `high`? -/
def isBetween (low high c : Char) : Bool := low ≤ c && c ≤ high

/-- The position behind the first character that follows an escape character. -/
def afterEscape (c : Char) : Position :=
  if c = '[' then .control
  else if c = ']' then .system
  else if c = 'P' then .device
  else if c ∈ "X^_".toList then .string
  else if isBetween '\x20' '\x2f' c then .intermediate
  else if isBetween '\x30' '\x7e' c then .text
  else .escape

/-- The position behind a character of a string for a device that has not reached its content. -/
def afterDevice (position : Position) (c : Char) : Position :=
  if isBetween '\x40' '\x7e' c ∨ c = ':' then .string
  else if isBetween '\x20' '\x2f' c then .deviceIntermediate
  else if isBetween '0' '?' c then
    match position with
    | .device => .deviceParameter
    | .deviceParameter => if isBetween '0' ';' c then .deviceParameter else .string
    | _ => .string
  else position

/-- The position behind a character that is no part of the text, and no escape character. -/
def next (position : Position) (c : Char) : Position :=
  match position with
  | .text => .text
  | .escape => afterEscape c
  | .intermediate => if isBetween '\x30' '\x7e' c then .text else .intermediate
  | .control => if isBetween '\x40' '\x7e' c then .text else .control
  | .system => if c = '\x07' then .text else .system
  | .device | .deviceParameter | .deviceIntermediate => afterDevice position c
  -- One byte ends a string even if it is only a part of a character.
  | .string => if 0x9c ∈ Text.utf8 [c] then .text else .string

/-- Is white space let through at a position? -/
def letsThrough : Position → Bool
  | .escape | .intermediate | .control => true
  | .text | .system | .device | .deviceParameter | .deviceIntermediate | .string => false

/-- Goes on by one character, telling whether it is shown. -/
def step (state : State) (c : Char) : State × Bool :=
  if c = '\x1b' then (⟨.escape, false⟩, false)
  else if c = '\x18' ∨ c = '\x1a' then (.start, false)
  else if state.position = .text then (.start, isText c)
  else if state.passes ∧ isText c then
    -- A character of several bytes ends the sequence that it stands in.
    (if c ≤ '\x7f' then state else .start, true)
  else if letsThrough state.position ∧ isBlankControl c then (⟨state.position, true⟩, true)
  else if state.passes then (state.resume, false)
  else (⟨next state.position c, false⟩, false)

/-- The characters of a text that are shown, and the state behind it. -/
def strip (state : State) : Text → Text × State
  | [] => ([], state)
  | c :: rest =>
    let (onward, isShown) := step state c
    let (shown, final) := strip onward rest
    (if isShown then c :: shown else shown, final)

end Terminal

end TaggedTests
