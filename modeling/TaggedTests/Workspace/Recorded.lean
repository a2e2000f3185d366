import TaggedTests.Host.Recorded
import TaggedTests.Workspace

/-! Workspaces that keep a record of how they are accessed. -/

namespace TaggedTests

/-- An access to a workspace. Looking for files changes nothing and is not counted. -/
inductive Access where
  | call (call : Call)
  | temporary
  | read (path : Text)
  | write (path text : Text)
  | compile (compiler : Text) (args : List Text)
  deriving DecidableEq, Repr

namespace Workspace

variable {σ : Type}

/-- The state that an access leaves. -/
def access (workspace : Workspace σ) (state : σ) : Access → σ
  | .call (.hook line) => (workspace.shell line state).2
  | .call (.program invocation args stdin limit) =>
    (workspace.execute invocation args stdin limit state).2
  | .temporary => (workspace.temporary state).2
  | .read path => (workspace.readText path state).2
  | .write path text => (workspace.writeText path text state).2
  | .compile compiler args => (workspace.compile compiler args state).2

/-- The state that accesses leave one after the other. -/
def accessAll (workspace : Workspace σ) (state : σ) (accesses : List Access) : σ :=
  accesses.foldl workspace.access state

/-- The workspace with the accesses made so far, in order, beside its state. -/
def recorded (workspace : Workspace σ) : Workspace (List Access × σ) where
  shell line state :=
    let (answer, next) := workspace.shell line state.2
    (answer, state.1 ++ [.call (.hook line)], next)
  execute invocation args stdin limit state :=
    let (answer, next) := workspace.execute invocation args stdin limit state.2
    (answer, state.1 ++ [.call (.program invocation args stdin limit)], next)
  temporary state :=
    let (answer, next) := workspace.temporary state.2
    (answer, state.1 ++ [.temporary], next)
  pathExists path state := workspace.pathExists path state.2
  entries path state := workspace.entries path state.2
  readText path state :=
    let (answer, next) := workspace.readText path state.2
    (answer, state.1 ++ [.read path], next)
  writeText path text state :=
    let (answer, next) := workspace.writeText path text state.2
    (answer, state.1 ++ [.write path text], next)
  compile compiler args state :=
    let (answer, next) := workspace.compile compiler args state.2
    (answer, state.1 ++ [.compile compiler args], next)

end Workspace

end TaggedTests
