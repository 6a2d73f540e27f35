import PipeShell.Act

/-!
# External programs

To the shell a program is a state and what that state asks for next; it may go on for ever.  `Programs` is all that
the shell needs of the programs of a host: how the system starts one, and how it behaves then.
-/

namespace PipeShell

/-- What a running program asks for: `ρ` are the results with which it can end, `σ` its states. -/
inductive Request (ρ σ : Type) : Type
  | done (result : ρ)
  | read (limit : Nat) (next : Bytes → σ)
  | write (stream : StdStream) (data : Bytes) (next : Option Fault → σ)
  | call (change : Host → Host) (next : Host → σ)

/-- What an act asks for first. -/
def Act.request {ρ : Type} : Act ρ → Request ρ (Act ρ)
  | .done r => .done r
  | .read n next => .read n next
  | .write s b next => .write s b next
  | .call c next => .call c next

/-- How a process ended. -/
inductive Ending
  | exited (code : Nat)
  | killed (signal : Nat)
  deriving DecidableEq, Inhabited

/-- The signal for a process that writes to a pipe without reader. -/
def pipeSignal : Nat := 13

/-- The status that a shell gives to an ending. -/
def Ending.status : Ending → Int
  | .exited code => code % 256
  | .killed signal => 128 + signal

/-- What the system is asked to start: the file of a program, its words, its variables, the directory to run in, and
where its output streams go if that is known from the start. -/
structure Launch where
  path : Text
  argv : List Text
  vars : Variables
  cwd : Text
  out : Destination := .nowhere
  err : Destination := .nowhere
  deriving DecidableEq, Inhabited

/-- The programs of a host. -/
structure Programs (σ : Type) where
  /-- The first state of a program, or why the system refuses to start it. -/
  start : Launch → Host → Except Fault σ
  next : σ → Request Ending σ

end PipeShell
