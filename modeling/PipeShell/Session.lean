import PipeShell.Pipeline.Parser
import PipeShell.Run.Runner

/-!
# Sessions

A session executes one line after the other.  A line that is refused is reported and gives the status 2, a blank one
changes nothing, and any other gives the status of its last stage.  A request for a directory or for an exit changes
the environment; lines after a request for an exit are still executed if they are given.
-/

namespace PipeShell

/-- The status of a line that is refused. -/
def refusedStatus : Int := 2

/-- What the shell remembers from line to line. -/
structure Session where
  environment : Environment
  lastStatus : Int := 0
  deriving DecidableEq, Inhabited

namespace Session

/-- The status with which the shell ends if no more lines come. -/
def exitStatus (s : Session) : Int := s.environment.exitCode.getD s.lastStatus

/-- Takes over what a pipeline leaves behind. -/
def settle (s : Session) (h : Host) (result : Summary) : Session × Host :=
  let env := { s.environment with
    directory := result.directory.getD s.environment.directory
    exitCode := result.exit <|> s.environment.exitCode }
  let h := match result.directory with
    | some directory => h.note .debug ("working directory is now ".toList ++ directory)
    | none => h
  (⟨env, result.status⟩, h)

/-- Executes a line.  There is no answer if the runner gives up. -/
def execute {σ : Type} (s : Session) (r : Runner σ) (line : Text) (h : Host) : Option (Session × Host) :=
  match Pipeline.ofLine line with
  | .error err => some ({ s with lastStatus := refusedStatus }, h.report r.err ("lineshell: ".toList ++ err.message))
  | .ok none => some (s, h)
  | .ok (some p) => (r.run p s.environment.context h).map fun (result, h) => s.settle h result

/-- Executes lines until an exit is requested.  The host hears of each attempt to get a line through `asked`, also of
the last one, which finds no more. -/
def executeAll {σ : Type} (s : Session) (r : Runner σ) (asked : Host → Host) (h : Host) :
    List Text → Option (Session × Host)
  | [] => some (s, if s.environment.isLeaving then h else asked h)
  | line :: lines =>
    if s.environment.isLeaving then some (s, h)
    else (s.execute r line (asked h)).bind fun (s, h) => s.executeAll r asked h lines

end Session

end PipeShell
