import PipeShell.Host.Basic
import PipeShell.Pipeline.Basic
import PipeShell.StartFailure

/-!
# Opening the target of a redirection

A target is taken from the working directory.  If the directory that would hold it is not there, the stage runs all
the same and its output goes nowhere; any other obstacle is a failure of the stage.
-/

namespace PipeShell

/-- Opens a target from the working directory `cwd`.  A failure leaves the host as it was. -/
def Host.openTarget (h : Host) (cwd : Text) (t : Target) : Host × Except StartFailure Destination :=
  let path := joinPath cwd t.path
  match (parentPath path).filter (¬ h.isDirectory ·) with
  | some parent =>
    (h.note .debug ("discarding output for ".toList ++ path ++ ": ".toList ++ parent ++ " is not a directory".toList),
      .ok .nowhere)
  | none =>
    match h.openForWriting path t.mode with
    | .ok (h, handle) => (h, .ok (.file handle))
    | .error fault => (h, .error (.notOpened path fault))

end PipeShell
