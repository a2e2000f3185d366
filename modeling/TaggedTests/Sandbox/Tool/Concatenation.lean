import TaggedTests.Sandbox.Tool.Options
import TaggedTests.Sandbox.Tool.Streams

/-! Inputs one after the other, with their lines numbered and hidden characters made visible. -/

namespace TaggedTests

namespace Tool

/-- How inputs are shown. -/
structure CatStyle where
  numbered : Bool
  /-- Are only lines numbered that hold something? -/
  numbersFilled : Bool
  squeezed : Bool
  showsEnds : Bool
  showsTabs : Bool
  showsHidden : Bool

/-- The options for the style. -/
def catOptions : OptionTable where
  letters := "AbeEnstTuv".toList
  words := [("show-all", 'A'), ("number-nonblank", 'b'), ("show-ends", 'E'), ("number", 'n'),
    ("squeeze-blank", 's'), ("show-tabs", 'T'), ("show-nonprinting", 'v')]

/-- The style that letters ask for. -/
def CatStyle.ofLetters (letters : List Char) : CatStyle :=
  let asked (any : String) : Bool := any.toList.any letters.elem
  { numbered := asked "nb"
    numbersFilled := asked "b"
    squeezed := asked "s"
    showsEnds := asked "AeE"
    showsTabs := asked "AtT"
    showsHidden := asked "Aetv" }

/-- Does a style show inputs as they are? -/
def CatStyle.isPlain (style : CatStyle) : Bool :=
  !(style.numbered || style.squeezed || style.showsEnds || style.showsTabs || style.showsHidden)

/-- Where showing inputs has come to. -/
structure CatState where
  /-- The number of the last line that was numbered. -/
  number : Nat
  /-- The number of line ends that were just passed, if a line has not begun since. -/
  lineEnds : Option Nat

/-- A byte below 128 with control characters made visible. -/
def caret (b : UInt8) : Bytes := if b = 127 then [94, 63] else if b < 32 then [94, b + 64] else [b]

/-- A byte of a line as a style shows it, given the byte behind it. -/
def CatStyle.show (style : CatStyle) (b : UInt8) (next : Option UInt8) : Bytes :=
  if b = 9 then (if style.showsTabs then caret b else [b])
  else if style.showsHidden then
    if b < 128 then caret b else 77 :: 45 :: caret (b - 128)
  else if b = 13 ∧ next = some 10 ∧ style.showsEnds then caret b
  else [b]

/-- The number in front of a line. -/
def lineNumber (number : Nat) : Bytes := Text.utf8 (Text.padLeft 6 (Text.ofNat number) ++ ['\t'])

/-- Shows bytes from a state on. -/
def CatStyle.showFrom (style : CatStyle) (state : CatState) : Bytes → Bytes × CatState
  | [] => ([], state)
  | b :: rest =>
    let continued (shown : Bytes) (next : CatState) : Bytes × CatState :=
      let (more, last) := style.showFrom next rest
      (shown ++ more, last)
    if b = 10 then
      match state.lineEnds with
      | none =>
        continued (if style.showsEnds then [36, 10] else [10]) { state with lineEnds := some 0 }
      | some ends =>
        if style.squeezed ∧ 1 ≤ ends then continued [] state
        else
          let isNumbered := style.numbered && !style.numbersFilled
          let number := if isNumbered then state.number + 1 else state.number
          continued ((if isNumbered then lineNumber number else []) ++
            if style.showsEnds then [36, 10] else [10]) ⟨number, some (ends + 1)⟩
    else
      let isNumbered := style.numbered && state.lineEnds.isSome
      let number := if isNumbered then state.number + 1 else state.number
      continued ((if isNumbered then lineNumber number else []) ++ style.show b rest.head?)
        ⟨number, none⟩

/-- The bytes of an operand; a lone dash means the standard input. -/
def readOperand (path : Text) (process : Process) : Act (Except OsError Bytes) := do
  if path ≠ ['-'] then process.readFile path
  else if (process.descriptors.lookup 0).isNone then return .error .badDescriptor
  else return .ok (← process.readInput none)

/-- Prints its inputs one after the other. -/
def cat : Program := fun args process => do
  match catOptions.select args with
  | .error reason =>
    process.refuse reason
    return 1
  | .ok selection =>
    let style := CatStyle.ofLetters selection.letters
    let mut code := 0
    let mut closes := false
    let mut state : CatState := ⟨0, some 0⟩
    for path in if selection.operands.isEmpty then [['-']] else selection.operands do
      match ← readOperand path process with
      | .ok bytes =>
        if style.isPlain then process.writeBytes 1 bytes
        else
          let (shown, next) := style.showFrom state bytes
          process.writeBytes 1 shown
          state := next
      | .error error =>
        complainOf path error process
        code := 1
        closes := closes || path = ['-']
    -- An input that could not be read cannot be closed either.
    if closes then
      process.complain ("closing standard input: ".toList ++ OsError.badDescriptor.reason)
    return code

end Tool

end TaggedTests
