import PipeShell.CommandLine
import PipeShell.Program.Machine

/-!
# The program

Runs the shell on a machine of its own in memory, with the arguments and the standard input of this process, and
prints what the shell has written to its terminal.
-/

namespace PipeShell

/-- All bytes of a stream, after those read so far. -/
private partial def readRest (s : IO.FS.Stream) (before : ByteArray) : IO ByteArray := do
  let piece ← s.read 65536
  if piece.isEmpty then return before else readRest s (before ++ piece)

/-- The machine of this process, with those of its variables that matter for a terminal. -/
private def machine : IO Host := do
  let mut vars : Variables := [("PATH".toList, "/usr/bin:/bin".toList), ("HOME".toList, "/root".toList)]
  for name in ["TERM", "TERM_PROGRAM", "NO_COLOR"] do
    if let some value ← IO.getEnv name then
      vars := vars.set name.toList value.toList
  return { Host.standard with here := ["root".toList], inherited := vars }

end PipeShell

open PipeShell in
def main (words : List String) : IO UInt32 := do
  let input ← readRest (← IO.getStdin) ByteArray.empty
  match CommandLine.run tools (words.map String.toList) input.toList (← machine) with
  | none => return 1
  | some (code, h) =>
    (← IO.getStdout).write ⟨h.terminalOut.toArray⟩
    (← IO.getStderr).write ⟨h.terminalErr.toArray⟩
    return code.toUInt32
