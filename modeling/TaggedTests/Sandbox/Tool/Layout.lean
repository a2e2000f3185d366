import TaggedTests.Text.Integer
import TaggedTests.Text.Utf8

/-! How formatted output lays out integers and text. -/

namespace TaggedTests

namespace Printf

/-- How a directive lays out its argument. -/
structure Layout where
  leftAligned : Bool := false
  zeroFilled : Bool := false
  plusSign : Bool := false
  spaceSign : Bool := false
  alternate : Bool := false
  width : Nat := 0
  precision : Option Nat := none
  deriving DecidableEq, Repr

/-- Fills bytes up to the width of a layout. -/
def Layout.aligned (layout : Layout) (bytes : Bytes) : Bytes :=
  let blanks := List.replicate (layout.width - bytes.length) 32
  if layout.leftAligned then bytes ++ blanks else blanks ++ bytes

/-- A number with its sign or mark in front, filled up to its precision and width. -/
def Layout.number (layout : Layout) (sign digits : Text) : Bytes :=
  let wanted :=
    match layout.precision with
    | some precision => precision
    | none => if layout.zeroFilled ∧ !layout.leftAligned then layout.width - sign.length else 0
  layout.aligned (Text.utf8 (sign ++ List.replicate (wanted - digits.length) '0' ++ digits))

/-- The sign of a number as a layout wants it. -/
def Layout.sign (layout : Layout) (negative : Bool) : Text :=
  if negative then ['-'] else if layout.plusSign then ['+']
  else if layout.spaceSign then [' '] else []

/-- The digits of a natural number in a base; none of nought where not even one is wanted. -/
def Layout.digits (layout : Layout) (base natural : Nat) : Text :=
  if natural = 0 ∧ layout.precision = some 0 then [] else Nat.toDigits base natural

/-- The bytes of an integer under a directive. -/
def Layout.integer (layout : Layout) (directive : Char) (value : Int) : Bytes :=
  let natural := (BitVec.ofInt 64 value).toNat
  let hexadecimalMark := layout.alternate ∧ natural ≠ 0
  match directive with
  | 'o' =>
    let digits := layout.digits 8 natural
    -- The mark of an octal number is a nought in front, unless there is one already.
    let isMarked := digits.head? = some '0' ∨ digits.length < layout.precision.getD 0
    layout.number [] (if layout.alternate ∧ !isMarked then '0' :: digits else digits)
  | 'x' => layout.number (if hexadecimalMark then "0x".toList else []) (layout.digits 16 natural)
  | 'X' =>
    layout.number (if hexadecimalMark then "0X".toList else [])
      ((layout.digits 16 natural).map Char.toUpper)
  | 'u' => layout.number [] (layout.digits 10 natural)
  | _ => layout.number (layout.sign (value < 0)) (layout.digits 10 value.natAbs)

end Printf

end TaggedTests
