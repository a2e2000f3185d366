import TaggedTests.CommandLine
import TaggedTests.Sandbox

/-!
The program: the command line, run on a copy of the files below the current directory.

Programs and hooks only get to see the copy. The files that they change are written back at the end.
-/

namespace TaggedTests

/-- The directory that is copied, with its name followed by a slash. -/
structure Origin where
  base : String

namespace Origin

/-- The path of a file below the directory. -/
def path (origin : Origin) (file : Text) : String := origin.base ++ String.ofList file

/-- Copies one file. -/
def copy (origin : Origin) (sandbox : Sandbox) (path : String) : IO Sandbox := do
  let content ← IO.FS.readBinFile path
  return sandbox.addBytes (path.toList.drop origin.base.length) content.toList

/-- Copies every file. -/
def load (origin : Origin) (paths : List String) : IO Sandbox :=
  paths.foldlM origin.copy (Sandbox.empty Sandbox.ownPath)

/-- Writes back what has changed. -/
def save (origin : Origin) (before after : Sandbox) : IO Unit := do
  for (file, content) in after.files do
    if before.fileBytes? file ≠ some content then
      IO.FS.writeBinFile (origin.path file) (ByteArray.mk content.toArray)

end Origin

end TaggedTests

open TaggedTests in
/-- Runs the command line in the current directory. -/
def main (args : List String) : IO UInt32 := do
  let here ← IO.currentDir
  let origin : Origin := ⟨here.toString ++ "/"⟩
  let found ← (← here.walkDir).toList.filterM fun path => return !(← path.isDir)
  let before ← origin.load (found.map fun path => path.toString)
  let ((streams, exit), after) :=
    CommandLine.perform Sandbox.workspace (args.map String.toList) before
  let stdout ← IO.getStdout
  stdout.write (ByteArray.mk (streams.flatMap OutputStream.bytes).toArray)
  origin.save before after
  return exit.toUInt32
