import TaggedTests.Text.Utf8

/-! How programs put the names in their complaints between quotes, every byte being visible. -/

namespace TaggedTests

namespace Quoting

/-- Is the byte a character that can be seen? -/
def isVisible (b : UInt8) : Bool := 32 ≤ b && b < 127

/-- The letter behind a backslash that stands for a byte. -/
def letter? (b : UInt8) : Option Char :=
  [((7 : UInt8), 'a'), (8, 'b'), (9, 't'), (10, 'n'), (11, 'v'), (12, 'f'), (13, 'r')].lookup b

/-- The escape of a byte that cannot be seen. -/
def escape (b : UInt8) : Text :=
  match letter? b with
  | some letter => ['\\', letter]
  | none =>
    let digit (unit : Nat) : Char := Char.ofNat ('0'.toNat + b.toNat / unit % 8)
    ['\\', digit 64, digit 8, digit 1]

/-- The character of a byte that can be seen. -/
def charOf (b : UInt8) : Char := Char.ofNat b.toNat

/-- Text between single quotes with escapes. -/
def escaped (text : Text) : Text :=
  let shown (b : UInt8) : Text :=
    if !isVisible b then escape b
    else if charOf b = '\'' ∨ charOf b = '\\' then ['\\', charOf b]
    else [charOf b]
  '\'' :: (Text.utf8 text).flatMap shown ++ ['\'']

/-- Characters that mean something to a shell wherever they stand. -/
def specials : List Char := " !\"$&'()*;<=>?[\\^\x60|".toList

/-- Can a shell take a text as it stands? -/
def isPlain (text : Text) : Bool :=
  let isOrdinary (b : UInt8) : Bool := isVisible b && !specials.elem (charOf b)
  (Text.utf8 text).all isOrdinary && !text.isEmpty && text.head? ≠ some '#' &&
    text.head? ≠ some '~' && text ≠ ['\x7b'] && text ≠ ['\x7d']

/-- Does a character mean the same between both kinds of quotes? -/
def isIndifferent (c : Char) : Bool := c.isAlphanum || "%+,-./:]_ '".toList.elem c

/-- Bytes between single quotes for a shell, given whether the ones before were escapes. -/
def pieces : Bool → Bytes → Text
  | _, [] => []
  | escaping, b :: rest =>
    if !isVisible b then
      (if escaping then [] else "'$'".toList) ++ escape b ++ pieces true rest
    else if charOf b = '\'' then "'\\''".toList ++ pieces false rest
    else (if escaping then "''".toList else []) ++ charOf b :: pieces false rest

/-- A text as a shell can take it. -/
def forShell (text : Text) : Text :=
  let bytes := Text.utf8 text
  if isPlain text then text
  else if text.elem '\'' ∧ text.all isIndifferent then '"' :: text ++ ['"']
  else
    -- Quotes within a text are found in a first pass, whose last state the second begins with.
    let isLeftEscaping := text.elem '\'' && bytes.getLast?.any fun b => !isVisible b
    '\'' :: pieces isLeftEscaping bytes ++ ['\'']

/-- A name between quotes, as a shell can take it. -/
def name (text : Text) : Text :=
  if isPlain text then '\'' :: text ++ ['\''] else forShell text

/-- The name of a file in a complaint, in front of a colon. -/
def fileName (name : Text) : Text :=
  if isPlain name ∧ name.elem ':' then '\'' :: name ++ ['\''] else forShell name

end Quoting

end TaggedTests
