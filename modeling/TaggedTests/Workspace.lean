import TaggedTests.Host
import TaggedTests.Text.Utf8

/-! Hosts with files and compilers. -/

namespace TaggedTests

/-- What is left of a compiler that was run. -/
structure CompilerRun where
  succeeded : Bool
  stdout : Bytes
  stderr : Bytes
  deriving DecidableEq, Repr

/-- A host with text files and compilers. Errors are given by their wording. -/
structure Workspace (σ : Type) extends Host σ where
  /-- Makes an empty directory for intermediate files, if one can be made. -/
  temporary : σ → Except Text Text × σ
  /-- Does a path lead to anything? -/
  pathExists : Text → σ → Bool
  /-- The names in a directory, or why they cannot be read, if a path leads to one. -/
  entries : Text → σ → Option (Except Text (List Text))
  readText : Text → σ → Except Text Text × σ
  /-- Puts a text in place of a file or creates it. -/
  writeText : Text → Text → σ → Except Text Unit × σ
  /-- Runs a compiler with arguments, if it can be started. -/
  compile : Text → List Text → σ → Option CompilerRun × σ

end TaggedTests
