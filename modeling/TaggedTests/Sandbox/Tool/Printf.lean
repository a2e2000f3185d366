import TaggedTests.Sandbox.FloatNumeral
import TaggedTests.Sandbox.Tool.FloatLayout
import TaggedTests.Sandbox.Tool.Quoting

/-! Formatted output: a format with escapes and directives that take arguments in order. -/

namespace TaggedTests

namespace Printf

/-- What is wrong with a format or an argument. -/
inductive Fault where
  | notNumeric (arg : Text)
  | notWhollyNumeric (arg : Text)
  | outOfRange (arg : Text)
  /-- More than one byte behind a quote. -/
  | ignored (bytes : Text)
  | invalidWidth (arg : Text)
  | invalidPrecision (arg : Text)
  | missingHexadecimal
  | invalidCharacter (name : Text)
  | invalidDirective (directive : Text)
  | missingDirective (directive : Text)
  deriving DecidableEq, Repr

/-- Does printing stop at a fault? -/
def Fault.stops : Fault → Bool
  | notNumeric _ | notWhollyNumeric _ | outOfRange _ | ignored _ => false
  | _ => true

/-- Does printing go on as if nothing were wrong? -/
def Fault.isWarning : Fault → Bool
  | ignored _ => true
  | _ => false

/-- Who prints: a shell by itself, or one of the programs for it. -/
inductive Printer where
  | shell
  | program
  | echo
  deriving DecidableEq, Repr

/-- The wording of a fault as a shell tells it. -/
def Fault.shellMessage : Fault → Text
  | notNumeric arg => arg ++ ": expected numeric value".toList
  | notWhollyNumeric arg => arg ++ ": not completely converted".toList
  | outOfRange arg => arg ++ ": Numerical result out of range".toList
  | invalidDirective directive => directive ++ ": invalid directive".toList
  | missingDirective _ => "missing format character".toList
  | _ => []

/-- The wording of a fault as a program tells it, with quotes around arguments. -/
def Fault.programMessage : Fault → Text
  | notNumeric arg => Quoting.escaped arg ++ ": expected a numeric value".toList
  | notWhollyNumeric arg => Quoting.escaped arg ++ ": value not completely converted".toList
  | outOfRange arg => Quoting.escaped arg ++ ": Numerical result out of range".toList
  | ignored bytes =>
    "warning: ".toList ++ bytes ++
      ": character(s) following character constant have been ignored".toList
  | invalidWidth arg => "invalid field width: ".toList ++ Quoting.escaped arg
  | invalidPrecision arg => "invalid precision: ".toList ++ Quoting.escaped arg
  | missingHexadecimal => "missing hexadecimal number in escape".toList
  | invalidCharacter name => "invalid universal character name ".toList ++ name
  | invalidDirective directive | missingDirective directive =>
    directive ++ ": invalid conversion specification".toList

/-- The wording of a fault. -/
def Fault.message (printer : Printer) (fault : Fault) : Text :=
  if printer = .shell then fault.shellMessage else fault.programMessage

/-- What printing has come to. -/
structure Progress where
  output : Bytes
  args : List Text
  /-- What is wrong, each with the length of the output before it. -/
  faults : List (Nat × Fault)
  /-- Has printing been stopped? -/
  stopped : Bool

/-- Notes what is wrong. -/
def Progress.note (progress : Progress) (fault : Fault) : Progress :=
  { progress with
    faults := progress.faults ++ [(progress.output.length, fault)]
    stopped := progress.stopped || fault.stops }

/-- Adds bytes to the output. -/
def Progress.add (progress : Progress) (bytes : Bytes) : Progress :=
  { progress with output := progress.output ++ bytes }

/-- The byte of up to a number of octal digits, and the text after them. -/
def octalByte (count : Nat) (text : Text) : UInt8 × Text :=
  let digits := (text.take count).takeWhile fun c => (Numeral.octalDigit? c).isSome
  (UInt8.ofNat (Text.ofDigits 8 (digits.filterMap Numeral.octalDigit?)), text.drop digits.length)

/-- The byte that a letter behind a backslash stands for. -/
def letterEscape? (printer : Printer) (c : Char) : Option UInt8 :=
  match c with
  | 'a' => some 7
  | 'b' => some 8
  | 't' => some 9
  | 'n' => some 10
  | 'v' => some 11
  | 'f' => some 12
  | 'r' => some 13
  | 'e' => some 27
  | '\\' => some 92
  | '"' => if printer = .program then some 34 else none
  | _ => none

/-- The byte of up to two hexadecimal digits, and the text after them. -/
def hexadecimalByte? (text : Text) : Option (UInt8 × Text) :=
  (Numeral.digits? 16 Text.hexDigit? (text.take 2)).map fun (byte, left) =>
    (UInt8.ofNat byte, left ++ text.drop 2)

/-- A number in hexadecimal digits, a count of them at least. -/
def hexadecimalText (count n : Nat) : Text :=
  let digits := Nat.toDigits 16 n
  List.replicate (count - digits.length) '0' ++ digits

/-- The bytes of a character by its number, of which there are a count of hexadecimal digits. -/
def character (letter : Char) (count : Nat) (text : Text) : Except Fault (Bytes × Text) :=
  let values := ((text.take count).map Text.hexDigit?).takeWhile Option.isSome
  let code := Text.ofDigits 16 (values.filterMap id)
  if values.length < count then .error .missingHexadecimal
  else if 0xd800 ≤ code ∧ code ≤ 0xdfff then
    .error (.invalidCharacter ('\\' :: letter :: hexadecimalText count code))
  else if code < 0x80 then .ok ([UInt8.ofNat code], text.drop count)
  else
    -- Other characters are beyond a terminal of which nothing is known, and stay escapes.
    let digits := (hexadecimalText (if code ≤ 0xffff then 4 else 8) code).map Char.toUpper
    .ok (Text.utf8 ('\\' :: (if code ≤ 0xffff then 'u' else 'U') :: digits), text.drop count)

/-- The bytes of an escape, from behind its backslash, and the text after it. -/
def escape (printer : Printer) (text : Text) : Except Fault (Bytes × Text) :=
  let plain : Bytes × Text := (92 :: Text.utf8 (text.take 1), text.drop 1)
  match text with
  | [] => .ok plain
  | c :: rest =>
    match letterEscape? printer c with
    | some byte => .ok ([byte], rest)
    | none =>
      if (Numeral.octalDigit? c).isSome then
        let (byte, after) := octalByte 3 text
        .ok ([byte], after)
      else if printer = .shell then .ok plain
      else if c = 'x' then
        match hexadecimalByte? rest with
        | some (byte, after) => .ok ([byte], after)
        | none => if printer = .program then .error .missingHexadecimal else .ok plain
      else if printer = .program ∧ c = 'u' then character c 4 rest
      else if printer = .program ∧ c = 'U' then character c 8 rest
      else .ok plain

/-- What the escapes of an argument come to. -/
structure Unescaped where
  bytes : Bytes
  /-- Does an escape stop all output? -/
  stopped : Bool
  fault : Option Fault

/-- More bytes in front of what escapes come to. -/
def Unescaped.after (bytes : Bytes) (unescaped : Unescaped) : Unescaped :=
  { unescaped with bytes := bytes ++ unescaped.bytes }

/-- What the escapes of an argument come to, read with a number of steps at most. -/
def unescapeFrom (printer : Printer) : Nat → Text → Unescaped
  | 0, _ | _, [] => ⟨[], false, none⟩
  | _, '\\' :: 'c' :: _ => ⟨[], true, none⟩
  | fuel + 1, '\\' :: '0' :: rest =>
    let (byte, after) := octalByte 3 rest
    (unescapeFrom printer fuel after).after [byte]
  | fuel + 1, '\\' :: rest =>
    match escape printer rest with
    | .error fault => ⟨[], true, some fault⟩
    | .ok (bytes, after) => (unescapeFrom printer fuel after).after bytes
  | fuel + 1, c :: rest => (unescapeFrom printer fuel rest).after (Text.utf8 [c])

/-- What the escapes of an argument come to. -/
def unescape (printer : Printer) (text : Text) : Unescaped :=
  unescapeFrom printer (text.length + 1) text

/-- Reads the flags of a directive. -/
def flags (layout : Layout) : Text → Layout × Text
  | '-' :: rest => flags { layout with leftAligned := true } rest
  | '0' :: rest => flags { layout with zeroFilled := true } rest
  | '+' :: rest => flags { layout with plusSign := true } rest
  | ' ' :: rest => flags { layout with spaceSign := true } rest
  | '#' :: rest => flags { layout with alternate := true } rest
  | text => (layout, text)

/-- The number of the first byte behind a quote, and what is wrong with more than one. -/
def quotedByte? (printer : Printer) : Text → Option (Nat × Option Fault)
  | quote :: c :: rest =>
    if quote = '\'' ∨ quote = '"' then
      let bytes := Text.utf8 [c]
      let more := Text.ofUtf8Lossy (bytes.drop 1 ++ Text.utf8 rest)
      some ((bytes.head?.map UInt8.toNat).getD 0,
        if printer = .program ∧ !more.isEmpty then some (.ignored more) else none)
    else none
  | _ => none

/-- What is wrong with an argument that a number has been read from; a shell looks at what follows
the number first. -/
def numberFault? (printer : Printer) (arg rest : Text) (fits : Bool) : Option Fault :=
  if !fits ∧ (rest.isEmpty ∨ printer ≠ .shell) then some (.outOfRange arg)
  else if rest.isEmpty then none else some (.notWhollyNumeric arg)

/-- The integer that an argument stands for, and what is wrong with the argument. -/
def integer (printer : Printer) (isSigned : Bool) (arg : Text) : Int × Option Fault :=
  match quotedByte? printer arg with
  | some (byte, fault) => (byte, fault)
  | none =>
    if arg.isEmpty then (0, none) else
      match (if isSigned then Numeral.read? else Numeral.readUnsigned?) true arg with
      | none => (0, some (.notNumeric arg))
      | some numeral => (numeral.value, numberFault? printer arg numeral.rest numeral.fits)

/-- The format in which a printer reckons. -/
def Printer.format (printer : Printer) : BinaryFormat :=
  if printer = .shell then .binary64 else .extended

/-- The floating-point number that an argument stands for, and what is wrong with the argument. -/
def floating (printer : Printer) (arg : Text) : (Bool × BinaryFloat) × Option Fault :=
  match quotedByte? printer arg with
  | some (byte, fault) => ((false, .finite byte 0), fault)
  | none =>
    if arg.isEmpty then ((false, .finite 0 0), none) else
      match FloatNumeral.read? printer.format arg with
      | none => ((false, .finite 0 0), some (.notNumeric arg))
      | some numeral =>
        ((numeral.negative, numeral.magnitude), numberFault? printer arg numeral.rest numeral.fits)

/-- Takes the next argument, which is empty when none is left. -/
def Progress.next (progress : Progress) : Text × Progress :=
  match progress.args with
  | [] => ([], progress)
  | arg :: rest => (arg, { progress with args := rest })

/-- Do the flags and the precision of a layout go together with a directive? -/
def fitsDirective (printer : Printer) (layout : Layout) (name : Char) : Bool :=
  let isBare := layout = {}
  if printer = .shell then true
  else if name = 'b' ∨ name = 'q' then isBare
  else
    !(layout.alternate && "cdisu".toList.elem name) &&
      !(layout.zeroFilled && "cs".toList.elem name) && !(layout.precision.isSome && name = 'c')

/-- Prints an argument with escapes. -/
def Progress.addEscaped (printer : Printer) (layout : Layout) (arg : Text)
    (progress : Progress) : Progress :=
  let unescaped := unescape printer arg
  let bytes := layout.precision.elim unescaped.bytes unescaped.bytes.take
  let printed := { progress.add (layout.aligned bytes) with stopped := unescaped.stopped }
  unescaped.fault.elim printed printed.note

/-- Prints one argument under a directive. -/
def directive (printer : Printer) (layout : Layout) (name : Char) (progress : Progress) :
    Option Progress :=
  let (arg, rest) := progress.next
  let noted (fault : Option Fault) : Progress := fault.elim rest rest.note
  let cut (bytes : Bytes) : Bytes := layout.aligned (layout.precision.elim bytes bytes.take)
  if !fitsDirective printer layout name then none
  else if name = 'c' then
    some (rest.add (layout.aligned (if arg.isEmpty then [0] else (Text.utf8 arg).take 1)))
  else if name = 's' then some (rest.add (cut (Text.utf8 arg)))
  else if name = 'b' then some (rest.addEscaped printer layout arg)
  else if name = 'q' ∧ printer = .program then
    some (if progress.args.isEmpty then rest else rest.add (Text.utf8 (Quoting.forShell arg)))
  else if "diouxX".toList.elem name then
    let (value, fault) := integer printer (name = 'd' ∨ name = 'i') arg
    some ((noted fault).add (layout.integer name value))
  else if "aAeEfFgG".toList.elem name then
    let ((negative, magnitude), fault) := floating printer arg
    some ((noted fault).add (layout.float printer.format name negative magnitude))
  else none

/-- A number in a directive: digits, or a star for the value of the next argument. -/
def measure (printer : Printer) (text : Text) (progress : Progress) :
    (Int × Text) × Text × Progress :=
  match text with
  | '*' :: rest =>
    let (arg, after) := progress.next
    let (value, fault) := integer printer true arg
    ((value, arg), rest, fault.elim after after.note)
  | _ =>
    let digits := text.takeWhile Char.isDigit
    ((Text.ofDigits 10 (digits.filterMap Text.digit?), []), text.drop digits.length, progress)

/-- A layout with a width, which aligns to the left if it is negative. -/
def Layout.wide (layout : Layout) (width : Int) : Layout :=
  { layout with
    width := width.natAbs
    leftAligned := layout.leftAligned || width < 0 }

/-- A layout with a precision, which counts as none if it is negative. -/
def Layout.precise (layout : Layout) (precision : Int) : Layout :=
  { layout with precision := if precision < 0 then none else some precision.toNat }

/-- Does a measure taken from an argument exceed what a program allows? -/
def isTooWide (printer : Printer) (measure : Int) : Bool :=
  printer = .program &&
    (measure < IntegerRange.int32.low || IntegerRange.int32.high < measure)

/-- Reads the layout of a directive, with the text behind it. -/
def readLayout (printer : Printer) (text : Text) (progress : Progress) :
    Layout × Text × Progress :=
  let (flagged, afterFlags) := flags {} text
  let ((width, widthArg), afterWidth, widened) := measure printer afterFlags progress
  let layout := flagged.wide width
  if isTooWide printer width then (layout, afterWidth, widened.note (.invalidWidth widthArg))
  else
    match afterWidth with
    | '.' :: more =>
      let ((precision, precisionArg), after, measured) := measure printer more widened
      if isTooWide printer (max 0 precision) then
        (layout, after, measured.note (.invalidPrecision precisionArg))
      else (layout.precise precision, after, measured)
    | after => (layout, after, widened)

/-- Prints under a format once. -/
def pass (printer : Printer) : Nat → Text → Progress → Progress
  | 0, _, progress => progress
  | _, [], progress => progress
  | fuel + 1, '%' :: '%' :: rest, progress => pass printer fuel rest (progress.add [37])
  | fuel + 1, '\\' :: rest, progress =>
    if printer = .program ∧ rest.head? = some 'c' then { progress with stopped := true }
    else
      match escape printer rest with
      | .error fault => progress.note fault
      | .ok (bytes, after) => pass printer fuel after (progress.add bytes)
  | fuel + 1, '%' :: rest, progress =>
    let (layout, afterLayout, ready) := readLayout printer rest progress
    let sized :=
      if printer = .program then afterLayout.dropWhile "hjlLtz".toList.elem else afterLayout
    let shown := '%' :: rest.take (rest.length - sized.tail.length)
    if ready.stopped then ready
    else
      match sized with
      | [] => ready.note (.missingDirective shown)
      | name :: after =>
        match directive printer layout name ready with
        | none => ready.note (.invalidDirective shown)
        | some printed => if printed.stopped then printed else pass printer fuel after printed
  | fuel + 1, c :: rest, progress => pass printer fuel rest (progress.add (Text.utf8 [c]))

/-- Prints under a format again and again until all arguments are used. -/
def passes (printer : Printer) : Nat → Text → Progress → Progress
  | 0, _, progress => progress
  | fuel + 1, format, progress =>
    let printed := pass printer (format.length + 1) format progress
    if printed.stopped ∨ printed.args.isEmpty ∨ printed.args.length = progress.args.length then
      printed
    else passes printer fuel format printed

/-- Prints arguments under a format. -/
def run (printer : Printer) (format : Text) (args : List Text) : Progress :=
  passes printer (args.length + 1) format ⟨[], args, [], false⟩

end Printf

end TaggedTests
