import PipeShell.Act

/-!
# Running programs with descriptors

A running program of the machine reads and writes through descriptors, each of which leads to a wire: the input or one
of the output streams that the shell gave to the program, an open file, or an end of a pipe that a script has made.
A `Job` is such a program as a tree of requests.  To the shell it is an act: `Job.toAct` answers the requests about
open files and leaves only those about the streams of the program.

A script runs jobs inside itself.  `Job.capture` keeps what a job writes into a pipe, and `Job.connect` runs two jobs at
once with a pipe between them.  Pipes are told apart by numbers, so a job may hold ends of several of them.
-/

namespace PipeShell

/-- Where a descriptor of a program leads. -/
inductive Wire
  /-- The input that the shell gave to the program. -/
  | input
  | stream (s : StdStream)
  | file (handle : Nat)
  /-- The end from which a pipe is read. -/
  | source (pipe : Nat)
  /-- The end into which a pipe is written. -/
  | sink (pipe : Nat)
  deriving DecidableEq, Inhabited

/-- A program that ends with a result. -/
inductive Job (ρ : Type) : Type
  | done (result : ρ)
  /-- Asks for at most `limit` bytes; none mean the end of the input. -/
  | read (wire : Wire) (limit : Nat) (next : Except Fault Bytes → Job ρ)
  /-- Writes all of `data`, and learns what went wrong. -/
  | write (wire : Wire) (data : Bytes) (next : Option Fault → Job ρ)
  /-- Changes the host, and sees it as it was before. -/
  | call (change : Host → Host) (next : Host → Job ρ)

/-- Reads from an open file; the host stays as it is where that fails. -/
def Host.takeFrom (h : Host) (handle limit : Nat) : Host × Except Fault Bytes :=
  match h.readHandle handle limit with
  | .ok (h, data) => (h, .ok data)
  | .error fault => (h, .error fault)

/-- Writes to an open file, and says what went wrong. -/
def Host.putTo (h : Host) (handle : Nat) (data : Bytes) : Host × Option Fault :=
  match h.writeHandle handle data with
  | .ok h' => (h', none)
  | .error fault => (h, some fault)

namespace Job

variable {ρ τ α : Type}

/-- Goes on with what the result asks for. -/
def bind (j : Job ρ) (f : ρ → Job τ) : Job τ :=
  match j with
  | .done r => f r
  | .read p n next => .read p n fun b => (next b).bind f
  | .write p b next => .write p b fun e => (next e).bind f
  | .call c next => .call c fun h => (next h).bind f

instance : Monad Job where
  pure := .done
  bind := bind

/-- The fault of a descriptor that leads nowhere. -/
def closed : Fault := .os .badDescriptor

/-- Reads at most `limit` bytes from a wire. -/
def take (wire : Wire) (limit : Nat) : Job (Except Fault Bytes) := .read wire limit .done

/-- Writes to a wire. -/
def put (wire : Wire) (data : Bytes) : Job (Option Fault) := .write wire data .done

/-- Looks at the host. -/
def ask (f : Host → ρ) : Job ρ := .call id fun h => .done (f h)

/-- Changes the host, with an answer. -/
def update (f : Host → Host × ρ) : Job ρ := .call (fun h => (f h).1) fun h => .done (f h).2

/-- Changes the host, or says why that is not possible. -/
def attempt (f : Host → Except Fault Host) : Job (Option Fault) :=
  update fun h =>
    match f h with
    | .ok h' => (h', none)
    | .error fault => (h, some fault)

/-- The act that a job is for the shell.  A pipe that nobody else serves has no other end. -/
def toAct : Job ρ → Act ρ
  | .done r => .done r
  | .call c next => .call c fun h => (next h).toAct
  | .read p n next =>
    match p with
    | .input => .read n fun b => (next (.ok b)).toAct
    | .file handle => .call (fun h => (h.takeFrom handle n).1) fun h => (next (h.takeFrom handle n).2).toAct
    | .source _ => (next (.ok [])).toAct
    | .stream _ | .sink _ => (next (.error closed)).toAct
  | .write p b next =>
    match p with
    | .stream s => .write s b fun e => (next e).toAct
    | .file handle => .call (fun h => (h.putTo handle b).1) fun h => (next (h.putTo handle b).2).toAct
    | .sink _ => (next (some (.os .brokenPipe))).toAct
    | .input | .source _ => (next (some closed)).toAct

/-! ### Jobs inside jobs -/

/-- Runs a job and keeps what it writes into a pipe, after `chunks`, the last one first. -/
def capture (pipe : Nat) (chunks : List Bytes) : Job ρ → Job (ρ × Bytes)
  | .done r => .done (r, chunks.reverse.flatten)
  | .read p n next => .read p n fun b => (next b).capture pipe chunks
  | .write p b next =>
    if p = .sink pipe then (next none).capture pipe (b :: chunks)
    else .write p b fun e => (next e).capture pipe chunks
  | .call c next => .call c fun h => (next h).capture pipe chunks

/-- The bytes that a pipe holds before its writer waits. -/
def holdLimit : Nat := 65536

/-- Runs a job until it ends or has written as much as a pipe holds, and goes on with what it wrote, after `chunks`,
and with what is left of it. -/
def runAhead (pipe : Nat) (chunks : List Bytes) (size : Nat) (go : Bytes → Job ρ → Job τ) : Job ρ → Job τ
  | .done r => go chunks.reverse.flatten (.done r)
  | .read p n next => .read p n fun b => (next b).runAhead pipe chunks size go
  | .write p b next =>
    if p = .sink pipe then
      if 0 < size ∧ holdLimit < size + b.length then go chunks.reverse.flatten (.write p b next)
      else (next none).runAhead pipe (b :: chunks) (size + b.length) go
    else .write p b fun e => (next e).runAhead pipe chunks size go
  | .call c next => .call c fun h => (next h).runAhead pipe chunks size go

/-- Runs a job to its end that writes into a pipe without reader. -/
def runOut (pipe : Nat) (f : ρ → τ) : Job ρ → Job τ
  | .done r => .done (f r)
  | .read p n next => .read p n fun b => (next b).runOut pipe f
  | .write p b next =>
    if p = .sink pipe then (next (some (.os .brokenPipe))).runOut pipe f
    else .write p b fun e => (next e).runOut pipe f
  | .call c next => .call c fun h => (next h).runOut pipe f

/-- Runs the second job on what the first one writes, of which `held` is in the pipe. -/
def connect (pipe : Nat) (held : Bytes) (first : Job ρ) (f : ρ → τ → α) : Job τ → Job α
  | .done r => first.runOut pipe (f · r)
  | .read p n next =>
    if p = .source pipe then
      if n = 0 ∨ held ≠ [] then connect pipe (held.drop n) first f (next (.ok (held.take n)))
      else first.runAhead pipe [] 0 fun held first => connect pipe (held.drop n) first f (next (.ok (held.take n)))
    else .read p n fun b => connect pipe held first f (next b)
  | .write p b next => .write p b fun e => connect pipe held first f (next e)
  | .call c next => .call c fun h => connect pipe held first f (next h)

/-- Runs two jobs at once, the second one on what the first one writes into the pipe, and puts their results
together. -/
def pipe (number : Nat) (first : Job ρ) (second : Job τ) (f : ρ → τ → α) : Job α :=
  first.runAhead number [] 0 fun held first => connect number held first f second

end Job

end PipeShell
