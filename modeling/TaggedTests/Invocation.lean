import TaggedTests.Text.Basic

/-! Command lines: a program with the arguments that come before those of a test. -/

namespace TaggedTests

/-- How the program under test is launched. -/
structure Invocation where
  program : Text
  args : List Text := []
  deriving DecidableEq, Repr

namespace Invocation

/-- The invocation with one more argument. -/
def arg (invocation : Invocation) (arg : Text) : Invocation :=
  { invocation with args := invocation.args ++ [arg] }

/-- The invocation as arguments of another program, after arguments of its own. -/
def wrapped (invocation : Invocation) (wrapper : Text) (wrapperArgs : List Text) : Invocation :=
  ⟨wrapper, wrapperArgs ++ invocation.program :: invocation.args⟩

/-- The invocation under a checker of memory errors and leaks. -/
def underValgrind (invocation : Invocation) : Invocation :=
  invocation.wrapped "valgrind".toList ["-q".toList, "--leak-check=full".toList]

/-- Program and arguments with blanks between them, for people to read. -/
def display (invocation : Invocation) : Text :=
  [' '].intercalate (invocation.program :: invocation.args)

end Invocation

end TaggedTests
