import PipeShell.Builtin.Basic
import PipeShell.Program.Basic
import PipeShell.Run.Join

/-!
# A running pipeline

A world is a pipeline between its start and its end.  Every stage has a seat, with what the stage is doing, where its
two output streams go, and the join that it reads from; so stage `i` writes to the join of seat `i + 1`.

Three kinds of parties take steps.  The shell runs the builtins in stage order, one request at a time, then waits for
the processes in stage order, then for the relays.  Each relay and each process goes on by itself.  `World.step?` is
a step of one party, and there is none where the party has to wait.
-/

namespace PipeShell

/-- How a stage ended. -/
inductive Fate
  | exited (code : Int)
  | notFound
  | notStarted
  | notOpened
  deriving DecidableEq, Inhabited

/-- The status of a stage as a number. -/
def Fate.code : Fate → Int
  | .exited code => code
  | .notFound => 127
  | .notStarted => 126
  | .notOpened => 1

/-- What a stage is doing. -/
inductive Actor (σ : Type) : Type
  | builtin (act : Act Reply)
  | process (state : σ)
  /-- The process has ended, and the shell has not waited for it yet. -/
  | gone (ending : Ending)
  | ended (fate : Fate)

/-- Where the output of a stage goes. -/
inductive Output
  | to (d : Destination)
  | nextStage
  deriving DecidableEq, Inhabited

/-- Where the output goes as far as the host knows it. -/
def Output.destination : Output → Destination
  | .to d => d
  | .nextStage => .nowhere

/-- A stage of a running pipeline. -/
structure Seat (σ : Type) where
  name : Text
  actor : Actor σ
  out : Output
  err : Destination
  input : Join := .absent
  /-- What is left of a write that has been taken in part. -/
  unsent : Option Bytes := none

/-- Where a stream of a stage goes. -/
def Seat.output {σ : Type} (s : Seat σ) : StdStream → Output
  | .out => s.out
  | .err => .to s.err

/-- What the shell is doing. -/
inductive Progress
  | running
  | waiting (stage : Nat)
  | joining (stage : Nat)
  | returned
  deriving DecidableEq, Inhabited

/-- A running pipeline. -/
structure World (σ : Type) where
  host : Host
  seats : List (Seat σ)
  progress : Progress := .running
  /-- What a builtin that is the only stage asks of the shell. -/
  request : Reply := {}

/-- Those who take steps. -/
inductive Party
  | shell
  | relay (stage : Nat)
  | process (stage : Nat)
  deriving DecidableEq, Inhabited

/-- The answer to a request: the program has ended, goes on in a new state, or has more to write. -/
inductive Answer (ρ τ : Type) : Type
  | ended (result : ρ)
  | goesOn (state : τ)
  | unsent (rest : Bytes)

namespace World

variable {σ ρ τ : Type}

/-- The join that a stage reads from. -/
def input (w : World σ) (k : Nat) : Join := (w.seats[k]?.map (·.input)).getD .absent

def modifyInput (w : World σ) (k : Nat) (f : Join → Join) : World σ :=
  { w with seats := w.seats.modify k fun s => { s with input := f s.input } }

def setInput (w : World σ) (k : Nat) (j : Join) : World σ := w.modifyInput k fun _ => j

def setActor (w : World σ) (k : Nat) (a : Actor σ) : World σ :=
  { w with seats := w.seats.modify k fun s => { s with actor := a, unsent := none } }

def setUnsent (w : World σ) (k : Nat) (rest : Bytes) : World σ :=
  { w with seats := w.seats.modify k fun s => { s with unsent := some rest } }

def note (w : World σ) (level : Level) (text : Text) : World σ := { w with host := w.host.note level text }

/-- A stage ends: it lets go of the joins on both sides. -/
def closeEnds (w : World σ) (k : Nat) : World σ :=
  (w.modifyInput k Join.closeReader).modifyInput (k + 1) Join.closeWriter

/-- Writes `data` for stage `k`, where its stream goes. -/
def serveWrite (w : World σ) (k : Nat) (target : Output) (data : Bytes) : Option (World σ × Except Fault Bytes) :=
  match target with
  | .to d =>
    match w.host.write d data with
    | .ok host => some ({ w with host }, .ok [])
    | .error fault => some (w, .error fault)
  | .nextStage =>
    match (w.input (k + 1)).write? data with
    | none => none
    | some (.error fault) => some (w, .error fault)
    | some (.ok (rest, j)) => some (w.setInput (k + 1) j, .ok rest)

/-- Answers what the program of stage `k` asks for; there is no answer while the program has to wait. -/
def serve (w : World σ) (k : Nat) (s : Seat σ) : Request ρ τ → Option (World σ × Answer ρ τ)
  | .done result => some (w.closeEnds k, .ended result)
  | .read limit next => (s.input.read? limit).map fun (data, j) => (w.setInput k j, .goesOn (next data))
  | .write stream data next =>
    (w.serveWrite k (s.output stream) (s.unsent.getD data)).map fun
      | (w, .error fault) => (w, .goesOn (next (some fault)))
      | (w, .ok rest) => (w, if rest = [] then .goesOn (next none) else .unsent rest)
  | .call change next => some ({ w with host := change w.host }, .goesOn (next w.host))

/-- A builtin has ended.  Its requests count only if it is the only stage. -/
def finishBuiltin (w : World σ) (k : Nat) (name : Text) (reply : Reply) : World σ :=
  let w := (w.setActor k (.ended (.exited reply.status))).note .debug
    ("builtin ".toList ++ name ++ " exited with ".toList ++ showInt reply.status)
  if w.seats.length = 1 then { w with request := reply }
  else if reply.isRequest then w.note .debug "ignoring state change requested inside a pipeline".toList
  else w

/-- A builtin takes a step. -/
def stepBuiltin? (w : World σ) (k : Nat) (s : Seat σ) (act : Act Reply) : Option (World σ) :=
  (w.serve k s act.request).map fun
    | (w, .ended reply) => w.finishBuiltin k s.name reply
    | (w, .goesOn act) => w.setActor k (.builtin act)
    | (w, .unsent rest) => w.setUnsent k rest

/-- A process takes a step. -/
def stepProcess? (w : World σ) (programs : Programs σ) (k : Nat) : Option (World σ) :=
  match w.seats[k]? with
  | some s =>
    match s.actor with
    | .process state =>
      (w.serve k s (programs.next state)).map fun
        | (w, .ended ending) => w.setActor k (.gone ending)
        | (w, .goesOn state) => w.setActor k (.process state)
        | (w, .unsent rest) => w.setUnsent k rest
    | _ => none
  | none => none

/-- The relay in front of a stage takes a step. -/
def stepRelay? (w : World σ) (k : Nat) : Option (World σ) :=
  match w.seats[k]? with
  | some s => s.input.stepRelay?.map (w.setInput k)
  | none => none

/-- The first stage that is a builtin still to be run. -/
def nextBuiltin? (w : World σ) : Option (Nat × Seat σ × Act Reply) :=
  go 0 w.seats
where
  go (k : Nat) : List (Seat σ) → Option (Nat × Seat σ × Act Reply)
    | [] => none
    | s :: rest =>
      match s.actor with
      | .builtin act => some (k, s, act)
      | _ => go (k + 1) rest

/-- The shell waits for stage `k`. -/
def awaitStage? (w : World σ) (k : Nat) : Option (World σ) :=
  match w.seats[k]? with
  | none => some { w with progress := .joining 0 }
  | some s =>
    let w := { w with progress := .waiting (k + 1) }
    match s.actor with
    | .process _ => none
    | .gone ending =>
      some ((w.setActor k (.ended (.exited ending.status))).note .debug
        ("stage ".toList ++ s.name ++ ": exited with ".toList ++ showInt ending.status))
    | .builtin _ =>
      some ((w.setActor k (.ended (.exited 1))).note .warn
        ("builtin ".toList ++ s.name ++ " was never run".toList))
    | .ended _ => some w

/-- The shell waits for the relay in front of stage `k`. -/
def awaitRelay? (w : World σ) (k : Nat) : Option (World σ) :=
  match w.seats[k]? with
  | none => some { w with progress := .returned }
  | some s =>
    let w := { w with progress := .joining (k + 1) }
    match s.input.relay? with
    | none => some w
    | some r =>
      match r.state with
      | .copying => none
      | .finished =>
        some (w.note .trace
          ("relay ".toList ++ r.label ++ ": forwarded ".toList ++ showNat r.copied ++ " bytes".toList))
      | .stopped fault =>
        some (w.note .debug ("relay ".toList ++ r.label ++ ": stopped early: ".toList ++ fault.message))

/-- The shell takes a step. -/
def stepShell? (w : World σ) : Option (World σ) :=
  match w.progress with
  | .running =>
    match w.nextBuiltin? with
    | some (k, s, act) => w.stepBuiltin? k s act
    | none => some { w with progress := .waiting 0 }
  | .waiting k => w.awaitStage? k
  | .joining k => w.awaitRelay? k
  | .returned => none

/-- A step of one party. -/
def step? (w : World σ) (programs : Programs σ) : Party → Option (World σ)
  | .shell => w.stepShell?
  | .relay k => w.stepRelay? k
  | .process k => w.stepProcess? programs k

/-- Who may take a step, in the order in which they are asked: the relays, the shell, and the processes from the last
stage to the first. -/
def parties (w : World σ) : List Party :=
  let stages := List.range w.seats.length
  stages.map .relay ++ .shell :: stages.reverse.map .process

/-- The first step that someone can take. -/
def advance? (w : World σ) (programs : Programs σ) : Option (World σ) := w.parties.findSome? (w.step? programs)

/-- Takes at most `steps` steps, until the shell has returned. -/
def run (programs : Programs σ) (steps : Nat) (w : World σ) : Option (World σ) :=
  if w.progress = .returned then some w
  else
    match steps with
    | 0 => none
    | steps + 1 => (w.advance? programs).bind (run programs steps)

/-- How the stages ended; all of them have when the shell has returned. -/
def fates (w : World σ) : List Fate :=
  w.seats.map fun s =>
    match s.actor with
    | .ended fate => fate
    | _ => .exited 0

end World

end PipeShell
