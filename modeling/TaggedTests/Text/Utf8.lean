import TaggedTests.Text.Basic

/-! The UTF-8 encoding of text, and reading bytes that may not be UTF-8. -/

namespace TaggedTests

/-- A sequence of bytes, as streams and files hold them. -/
abbrev Bytes := List UInt8

/-- What the first bytes of a sequence are, read as UTF-8. -/
inductive Utf8Step where
  | done
  | char (c : Char) (rest : Bytes)
  /-- A longest start of some character that is not completed. -/
  | broken (rest : Bytes)

namespace Text

/-- The UTF-8 bytes of a text. -/
def utf8 (text : Text) : Bytes := text.flatMap String.utf8EncodeChar

/-- Is the byte from `low` to `high`? -/
def byteBetween (low high b : UInt8) : Bool := low ≤ b && b ≤ high

/-- The payload of a continuation byte, added to what was read before it. -/
def withContinuation (value : Nat) (b : UInt8) : Nat := value * 64 + (b.toNat - 0x80)

/-- Reads the continuation bytes that are missing of a character. -/
def takeContinuations : Nat → Nat → Bytes → Utf8Step
  | 0, value, rest => .char (Char.ofNat value) rest
  | n + 1, value, b :: rest =>
    if byteBetween 0x80 0xbf b then takeContinuations n (withContinuation value b) rest
    else .broken (b :: rest)
  | _ + 1, _, [] => .broken []

/--
Reads one character.

The second byte has a narrower range after the lead bytes that would otherwise give overlong forms,
surrogates or values past the last character.
-/
def utf8Step : Bytes → Utf8Step
  | [] => .done
  | lead :: rest =>
    if lead < 0x80 then .char (Char.ofNat lead.toNat) rest
    else if byteBetween 0xc2 0xdf lead then takeContinuations 1 (lead.toNat - 0xc0) rest
    else if byteBetween 0xe0 0xf4 lead then
      let low := if lead = 0xe0 then 0xa0 else if lead = 0xf0 then 0x90 else 0x80
      let high := if lead = 0xed then 0x9f else if lead = 0xf4 then 0x8f else 0xbf
      let (more, value) := if lead < 0xf0 then (1, lead.toNat - 0xe0) else (2, lead.toNat - 0xf0)
      match rest with
      | [] => .broken []
      | b :: tail =>
        if byteBetween low high b then takeContinuations more (withContinuation value b) tail
        else .broken (b :: tail)
    else .broken rest

/-- Reads characters until the bytes end, giving `none` for each broken start of one. -/
def utf8Steps : Nat → Bytes → List (Option Char)
  | 0, _ => []
  | fuel + 1, bytes =>
    match utf8Step bytes with
    | .done => []
    | .char c rest => some c :: utf8Steps fuel rest
    | .broken rest => none :: utf8Steps fuel rest

/-- The text that bytes encode, with U+FFFD for each start of a character that is not completed. -/
def ofUtf8Lossy (bytes : Bytes) : Text :=
  (utf8Steps bytes.length bytes).map fun read => read.getD '\uFFFD'

/-- The text that bytes encode, if they are UTF-8. -/
def ofUtf8? (bytes : Bytes) : Option Text := (utf8Steps bytes.length bytes).mapM id

end Text

end TaggedTests
