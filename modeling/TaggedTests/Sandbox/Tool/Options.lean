import TaggedTests.Sandbox.Tool.Quoting

/-!
Options of a program that stand for letters, by themselves or spelled out, anywhere among operands.
-/

namespace TaggedTests

namespace Tool

/-- The options that a program knows. -/
structure OptionTable where
  letters : List Char
  /-- Options that are spelled out, with their letters. -/
  words : List (String × Char)

/-- What arguments ask for. -/
structure Selection where
  letters : List Char
  operands : List Text

namespace Selection

/-- A selection with more letters in front. -/
def withLetters (letters : List Char) (selection : Selection) : Selection :=
  { selection with letters := letters ++ selection.letters }

/-- A selection with an operand in front. -/
def withOperand (operand : Text) (selection : Selection) : Selection :=
  { selection with operands := operand :: selection.operands }

end Selection

namespace OptionTable

/-- The letter of a spelled-out option, which may be cut short where only one is meant. -/
def letterOf (table : OptionTable) (word : Text) : Except Text Char :=
  let shown := "option '--".toList ++ word ++ ['\'']
  match table.words.lookup (String.ofList word) with
  | some letter => .ok letter
  | none =>
    match table.words.filter fun known => word.isPrefixOf known.1.toList with
    | [] => .error ("unrecognized ".toList ++ shown)
    | [known] => .ok known.2
    | several =>
      let names := several.flatMap fun known => " '--".toList ++ known.1.toList ++ ['\'']
      .error (shown ++ " is ambiguous; possibilities:".toList ++ names)

/-- What arguments ask for, or what is wrong with them. -/
def select (table : OptionTable) : List Text → Except Text Selection
  | [] => .ok ⟨[], []⟩
  | arg :: rest =>
    match arg with
    | ['-', '-'] => .ok ⟨[], rest⟩
    | '-' :: '-' :: word => do
      let letter ← table.letterOf word
      return (← table.select rest).withLetters [letter]
    | '-' :: c :: more =>
      match (c :: more).find? fun letter => !table.letters.elem letter with
      | some letter => .error ("invalid option -- '".toList ++ [letter, '\''])
      | none => return (← table.select rest).withLetters (c :: more)
    | operand => return (← table.select rest).withOperand operand

end OptionTable

end Tool

end TaggedTests
