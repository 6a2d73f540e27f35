import PipeShell.Host.Redirection
import PipeShell.Lookup
import PipeShell.Run.World

/-!
# Starting and running a pipeline

All stages are started before any builtin runs, from left to right.  A stage opens its targets, standard error first;
then its name is taken as a builtin, or as a program that is looked up and started.  A stage that does not start has
reported why, and what the stage before it writes is thrown away.
-/

namespace PipeShell

/-- What runs pipelines: the builtins, the programs, and the terminal streams.  A run of more than `patience` steps
is given up. -/
structure Runner (σ : Type) where
  registry : Registry
  programs : Programs σ
  out : Destination := .terminal .out
  err : Destination := .terminal .err
  patience : Nat := 1000000000

/-- What a pipeline leaves behind. -/
structure Summary where
  stages : List Fate
  directory : Option Text := none
  exit : Option Int := none
  deriving DecidableEq, Inhabited

/-- The status of a pipeline is that of its last stage. -/
def Summary.status (s : Summary) : Int := (s.stages.getLast?.map (·.code)).getD 0

namespace Join

/-- A join with a relay of this label, which starts. -/
def withRelay (h : Host) (label : Text) (join : Relay → Join) : Host × Join :=
  (h.note .trace ("relay ".toList ++ label ++ ": started".toList), join { label })

/-- What the stage before offers goes to a builtin. -/
def intoBuiltin (h : Host) (name : Text) : Join → Host × Join
  | .pipe p => withRelay h ("into ".toList ++ name) fun relay => .collecting p relay {}
  | j => (h, j)

/-- What the stage before offers goes to a program. -/
def intoProgram (h : Host) (name : Text) : Join → Host × Join
  | .channel c => withRelay h ("into ".toList ++ name) fun relay => .feeding c relay {}
  | j => (h, j)

/-- What the stage before offers goes to nobody. -/
def intoNothing (h : Host) (name : Text) : Join → Host × Join
  | .channel c => withRelay h ("drain ".toList ++ name) fun relay => .draining c relay
  | .pipe p => (h, .pipe p.dropReader)
  | j => (h, j)

end Join

/-- A stage that has been dealt with, and what it offers to the next one. -/
structure Started (σ : Type) where
  host : Host
  seat : Seat σ
  offer : Join := .absent

namespace Runner

variable {σ : Type}

/-- The stage does not start; its failure has been reported. -/
def giveUp (h : Host) (name : Text) (fate : Fate) (input : Join) : Started σ :=
  let (h, input) := input.intoNothing h name
  ⟨h, { name, actor := .ended fate, out := .to .nowhere, err := .nowhere, input }, .absent⟩

/-- The stage is a builtin. -/
def seatBuiltin (r : Runner σ) (h : Host) (ctx : Context) (s : Stage) (b : Builtin) (out : Output) (err : Destination)
    (input : Join) : Started σ :=
  let (h, input) := input.intoBuiltin (h.note .debug ("stage ".toList ++ s.name ++ ": builtin".toList)) s.name
  let act := b.run ⟨s.argv, ctx, r.registry.names⟩
  ⟨h, { name := s.name, actor := .builtin act, out, err, input }, if out = .nextStage then .channel {} else .absent⟩

/-- The stage is the program at `path`. -/
def seatProgram (r : Runner σ) (h : Host) (ctx : Context) (s : Stage) (path : Text) (out : Output) (err : Destination)
    (input : Join) : Started σ :=
  match r.programs.start ⟨path, s.argv, h.inherited.setAll ctx.vars, ctx.cwd, out.destination, err⟩ h with
  | .error fault =>
    let h := h.note .debug ("stage ".toList ++ s.name ++ ": spawn failed: ".toList ++ fault.message)
    giveUp (h.report err (StartFailure.notStarted s.name fault).message) s.name .notStarted input
  | .ok state =>
    let h := h.note .debug ("stage ".toList ++ s.name ++ ": spawned ".toList ++ path ++ " as pid ".toList ++
      showNat h.nextProcess)
    let (h, input) := input.intoProgram { h with nextProcess := h.nextProcess + 1 } s.name
    ⟨h, { name := s.name, actor := .process state, out, err, input },
      if out = .nextStage then .pipe {} else .absent⟩

/-- The stage runs with these streams. -/
def seatStage (r : Runner σ) (h : Host) (ctx : Context) (s : Stage) (out : Output) (err : Destination) (input : Join) :
    Started σ :=
  match r.registry.find? s.name with
  | some b => r.seatBuiltin h ctx s b out err input
  | none =>
    match h.program? ctx s.name with
    | some path => r.seatProgram h ctx s path out err input
    | none =>
      let h := h.note .debug ("stage ".toList ++ s.name ++ ": not found".toList)
      giveUp (h.report err (StartFailure.notFound s.name).message) s.name .notFound input

/-- Opens the target of a stream, if there is one. -/
def openAny (h : Host) (cwd : Text) : Option Target → Host × Except StartFailure (Option Destination)
  | none => (h, .ok none)
  | some t =>
    let (h, opened) := h.openTarget cwd t
    (h, opened.map some)

/-- Starts a stage that is offered `input`. -/
def startStage (r : Runner σ) (h : Host) (ctx : Context) (s : Stage) (input : Join) (isLast : Bool) : Started σ :=
  match openAny h ctx.cwd s.redirections.err with
  | (h, .error failure) => giveUp (h.report r.err failure.message) s.name .notOpened input
  | (h, .ok err) =>
    let err := err.getD r.err
    match openAny h ctx.cwd s.redirections.out with
    | (h, .error failure) => giveUp (h.report err failure.message) s.name .notOpened input
    | (h, .ok out) =>
      r.seatStage h ctx s ((out.map .to).getD (if isLast then .to r.out else .nextStage)) err input

/-- Starts stages from left to right; the first one is offered `input`. -/
def startStages (r : Runner σ) (ctx : Context) (h : Host) (input : Join) : List Stage → Host × List (Seat σ)
  | [] => (h, [])
  | s :: rest =>
    let started := r.startStage h ctx s input rest.isEmpty
    let (h, seats) := r.startStages ctx started.host started.offer rest
    (h, started.seat :: seats)

/-- A pipeline, all of whose stages have been started. -/
def start (r : Runner σ) (p : Pipeline) (ctx : Context) (h : Host) : World σ :=
  let (host, seats) := r.startStages ctx h .absent p.stages
  { host, seats }

/-- Runs a pipeline to its end. -/
def run (r : Runner σ) (p : Pipeline) (ctx : Context) (h : Host) : Option (Summary × Host) :=
  (World.run r.programs r.patience (r.start p ctx h)).map fun w =>
    (⟨w.fates, w.request.directory, w.request.exit⟩, w.host)

end Runner

end PipeShell
