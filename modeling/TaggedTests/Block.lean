import TaggedTests.Tag

/-! Bracketed blocks of a text, each with the prose before it, and what that prose says of the
block. -/

namespace TaggedTests

/-- A bracketed block with the prose between the block before it and its own opening bracket. -/
structure Block where
  prose : Text
  content : Text
  deriving DecidableEq, Repr

namespace Block

/-- The opening bracket of a block. -/
def opening : Text := ['/', '\x7b']

/-- The closing bracket of a block. -/
def closing : Text := ['\x7d', '/']

/-- Pairs brackets in order; an inverted range, where brackets cross, gives an empty text. -/
def pair (text : Text) (start : Nat) : List Nat → List Nat → List Block
  | opened :: opens, closed :: closes =>
    ⟨Text.slice start opened text, Text.slice (opened + opening.length) closed text⟩ ::
      pair text (closed + closing.length) opens closes
  | _, _ => []

/-- Positions of the opening brackets. -/
def opens (text : Text) : List Nat := Text.positions opening text

/-- Positions of the closing brackets. -/
def closes (text : Text) : List Nat := Text.positions closing text

/-- The blocks of a text: its opening brackets paired with its closing brackets in order. -/
def ofText (text : Text) : List Block := pair text 0 (opens text) (closes text)

end Block

namespace Text

/-- The tag whose keyword starts last in a prose. -/
def lastTag? : Text → Option Tag
  | [] => none
  | c :: rest =>
    lastTag? rest <|> Tag.all.find? fun tag => tag.keyword.isPrefixOf (c :: rest)

/-- The modifiers mentioned in a prose, in order of their last mention. -/
def mentionedModifiers : Text → List Modifier
  | [] => []
  | c :: rest =>
    let later := mentionedModifiers rest
    let here := Modifier.all.filter fun modifier =>
      modifier.keyword.isPrefixOf (c :: rest) && !later.contains modifier
    here ++ later

end Text

namespace Block

/-- The tag that the prose of a block asks for, if it asks for one. -/
def tag? (block : Block) : Option Tag := Text.lastTag? block.prose

/-- The modifiers that the prose of a block asks for, in order of their last mention. -/
def modifiers (block : Block) : List Modifier := Text.mentionedModifiers block.prose

end Block

end TaggedTests
