import PipeShell.Token.Basic

/-!
# Pipelines

A pipeline is a row of stages.  A stage has the words of its command, of which the first is the name, and at most
one redirection target for each of its two streams.
-/

namespace PipeShell

/-- A file name as written on the line, and how it is opened. -/
structure Target where
  path : Text
  mode : OpenMode
  deriving DecidableEq, Inhabited

/-- Where the streams of a stage are redirected to. -/
structure Redirections where
  out : Option Target := none
  err : Option Target := none
  deriving DecidableEq, Inhabited

/-- The target of a stream. -/
def Redirections.get (r : Redirections) : StdStream → Option Target
  | .out => r.out
  | .err => r.err

/-- A further redirection replaces the former one of the same stream. -/
def Redirections.set (r : Redirections) (op : Operator) (path : Text) : Redirections :=
  match op.stream with
  | .out => { r with out := some ⟨path, op.mode⟩ }
  | .err => { r with err := some ⟨path, op.mode⟩ }

/-- A command of a pipeline with its redirections. -/
structure Stage where
  argv : List Text
  redirections : Redirections := {}
  deriving DecidableEq, Inhabited

/-- The name of the command; a stage without words has the empty name. -/
def Stage.name (s : Stage) : Text := s.argv.headD []

def Stage.args (s : Stage) : List Text := s.argv.tail

/-- The stages of a line, from the first to the last. -/
structure Pipeline where
  stages : List Stage
  deriving DecidableEq, Inhabited

/-- A single stage, whose requests to the shell are honoured. -/
def Pipeline.isSimple (p : Pipeline) : Bool := p.stages.length == 1

/-- A redirection changes the target of its own stream only. -/
theorem Redirections.get_set (r : Redirections) (op : Operator) (path : Text) (s : StdStream) :
    (r.set op path).get s = if s = op.stream then some ⟨path, op.mode⟩ else r.get s := by
  obtain ⟨stream, mode⟩ := op
  cases stream <;> cases s <;> rfl

end PipeShell
