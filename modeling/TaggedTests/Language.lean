import TaggedTests.Path

/-! The languages of programs under test. -/

namespace TaggedTests

/-- A language that programs are written in. -/
inductive Language where
  | c
  | cpp
  | python
  deriving DecidableEq, Repr

/-- A word that names no language. -/
structure UnknownLanguage where
  word : Text
  deriving DecidableEq, Repr

/-- The wording of the error for a word that names no language. -/
def UnknownLanguage.message (unknown : UnknownLanguage) : Text :=
  "Unknown language \x60".toList ++ unknown.word ++ "\x60, expected one of C, C++, Python".toList

namespace Language

/-- The name of a language. -/
def display : Language → Text
  | c => ['C']
  | cpp => "C++".toList
  | python => "Python".toList

/-- Reads a language; capital letters make no difference. -/
def read (word : Text) : Except UnknownLanguage Language :=
  let lowered := word.map Char.toLower
  if lowered = ['c'] then .ok c
  else if lowered = "c++".toList ∨ lowered = "cpp".toList then .ok cpp
  else if lowered = "python".toList then .ok python
  else .error ⟨word⟩

/-- The extension of source files. -/
def extension : Language → Text
  | c => ['c']
  | cpp => "cpp".toList
  | python => "py".toList

/-- The command that compiles sources, where they are compiled. -/
def compiler? : Language → Option Text
  | c => some "gcc".toList
  | cpp => some "g++".toList
  | python => none

/-- The language that the extension of a path implies. -/
def ofPath? (path : Text) : Option Language :=
  match Path.extension? path with
  | none => none
  | some found => [c, cpp, python].find? fun language => language.extension = found

/-- The language to treat a program as: its extension, or else the one given, C++ for object
files. -/
def ofProgram? (path : Text) (given : Option Language) : Option Language :=
  match ofPath? path with
  | some detected => some detected
  | none => if Path.extension? path = some ['o'] then some (given.getD cpp) else given

end Language

end TaggedTests
