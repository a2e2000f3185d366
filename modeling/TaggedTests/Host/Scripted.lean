import TaggedTests.Host

/-! Hosts whose answers are written down in advance. -/

namespace TaggedTests

/-- What one run of a scripted program does. -/
inductive ScriptedRun where
  /-- It prints what it reads. -/
  | echo
  | ends (answer : Except Text Execution)

/-- Answers for hooks by their lines, other hooks succeeding. -/
abbrev ScriptedHooks := List (Text × Except Text Int)

namespace ScriptedRun

/-- The answer to a run with the given input. -/
def answer (run : ScriptedRun) (stdin : Text) : Except Text Execution :=
  match run with
  | echo => .ok (.completed stdin)
  | ends answer => answer

/-- Takes the next run off a list whose last one repeats; without any a program echoes. -/
def next : List ScriptedRun → ScriptedRun × List ScriptedRun
  | [] => (echo, [])
  | [run] => (run, [run])
  | run :: rest => (run, rest)

end ScriptedRun

/-- The host whose hooks answer by their lines and whose programs answer one run after the other. -/
def Host.scripted (hooks : ScriptedHooks) : Host (List ScriptedRun) where
  shell line runs := ((hooks.lookup line).getD (.ok 0), runs)
  execute _ _ stdin _ runs :=
    let (run, rest) := ScriptedRun.next runs
    (run.answer stdin, rest)

end TaggedTests
