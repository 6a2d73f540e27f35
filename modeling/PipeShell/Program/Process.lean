import PipeShell.Path
import PipeShell.Program.Basic
import PipeShell.Program.Job
import PipeShell.Program.Quoting

/-!
# Writing programs as jobs

A program is a job that depends on its process: the words it was called with, its variables, the directory it runs in,
its descriptors, and more.  All texts that a process knows are spelled out in bytes.

Programs are put together from pieces of `Work`, each of which goes on with a result or ends the program.  The pieces
here read input, write output in the way programs do that die of a pipe without reader, and report failures under the
name of the program.  A program that writes through `buffered` writes in blocks, and the last one when it ends.
-/

namespace PipeShell

/-- What a running program knows of itself. -/
structure Process where
  argv : List Text
  vars : Variables
  here : Location
  number : Nat
  /-- The number of the process that has started this one. -/
  parent : Nat := 1
  wires : List (Nat × Wire) := [(0, .input), (1, .stream .out), (2, .stream .err)]
  /-- The open files that the two output streams lead to. -/
  targets : List (StdStream × Nat) := []
  /-- The permissions that files and directories do not get when they are made. -/
  mask : Nat := 0o022
  /-- The signals that do nothing. -/
  ignored : List Nat := []
  /-- Pipes with smaller numbers are in use. -/
  pipes : Nat := 0
  deriving DecidableEq, Inhabited

/-- What a program does as a process. -/
abbrev Program := Process → Job Ending

/-- A part of a program: it goes on with a result, or the program ends. -/
abbrev Work (α : Type) := ExceptT Ending Job α

/-- The job of a program that gives its exit code in the end. -/
def Work.job (w : Work Nat) : Job Ending := do
  match ← w.run with
  | .ok code => return .exited code
  | .error ending => return ending

namespace Job

/-- Loops of programs end after this many rounds. -/
def longRun : Nat := 1000000000

/-- The size of the pieces in which programs write. -/
def blockSize : Nat := 4096

end Job

/-- The reason of a fault without its number, as programs show it. -/
def Fault.reason : Fault → Text
  | .os e => e.description
  | fault => fault.message

namespace Process

/-- The operands and options of a process. -/
def words (p : Process) : List Text := p.argv.tail

/-- The name under which a process reports failures. -/
def name (p : Process) : Text := p.argv.headD []

/-- Goes up as long as a path leads up.  The directory above is known even to one who is in a directory that has been
removed. -/
def climb (here : Location) : List Text → Text
  | ['.', '.'] :: names => climb here.dropLast names
  | [] => here.path
  | names => joinPath here.path (joinWith ['/'] names)

/-- A path as the process means it. -/
def path (p : Process) (name : Text) : Text :=
  if name = [] then []
  else if isAbsolute name then readBack name
  else climb p.here (splitAt '/' (readBack name))

/-- The open file that a wire leads to. -/
def handleOf? (p : Process) : Wire → Option Nat
  | .file h => some h
  | .stream s => p.targets.lookup s
  | _ => none

/-- The open file that a descriptor leads to. -/
def handle? (p : Process) (descriptor : Nat) : Option Nat := (p.wires.lookup descriptor).bind p.handleOf?

/-- Writes bytes to a descriptor. -/
def put (p : Process) (descriptor : Nat) (data : Bytes) : Job (Option Fault) :=
  match p.wires.lookup descriptor with
  | some wire => Job.put wire data
  | none => .done (some Job.closed)

/-- Reads at most `limit` bytes from a descriptor. -/
def take (p : Process) (descriptor limit : Nat) : Job (Except Fault Bytes) :=
  match p.wires.lookup descriptor with
  | some wire => Job.take wire limit
  | none => .done (.error Job.closed)

/-- Gives back input that has been read and is not needed; only an open file takes it. -/
def giveBack (wire : Wire) (count : Nat) : Job Unit :=
  match wire with
  | .file handle => Job.update fun h => (h.giveBack handle count, ())
  | _ => .done ()

/-- Reports a failure. -/
def complain (p : Process) (message : Text) : Job Unit := do
  let _ ← p.put 2 (bytesOf (p.name ++ ": ".toList ++ message ++ ['\n']))
  return ()

/-- Ends with a report. -/
def die {α : Type} (p : Process) (code : Nat) (message : Text) : Work α := do
  p.complain message
  throw (.exited code)

/-- A program that cannot write to a pipe ends by a signal, unless it has asked to ignore that. -/
def diesOf (p : Process) (fault : Fault) : Bool := fault == .os .brokenPipe && !p.ignored.contains pipeSignal

/-- Writes output.  A program that cannot write ends, by a signal or with a report about the fault. -/
def emitOr (p : Process) (code : Nat) (report : Fault → Text) (data : Bytes) : Work Unit := do
  match ← (if data = [] then pure none else p.put 1 data) with
  | none => return ()
  | some fault => if p.diesOf fault then throw (.killed pipeSignal) else p.die code (report fault)

/-- The report of most programs about output that cannot be written. -/
def writeError (fault : Fault) : Text := "write error: ".toList ++ fault.reason

/-- Writes output. -/
def emit (p : Process) (data : Bytes) : Work Unit := p.emitOr 1 writeError data

/-- Reads up to the end of the input, after `chunks`, the last one first. -/
def readOn (wire : Wire) (rounds : Nat) (chunks : List Bytes) : Job (Except Fault Bytes) :=
  match rounds with
  | 0 => return .ok chunks.reverse.flatten
  | rounds + 1 => do
    match ← Job.take wire 65536 with
    | .ok [] => return .ok chunks.reverse.flatten
    | .ok b => readOn wire rounds (b :: chunks)
    | .error fault => return .error fault

/-- Reads all that comes from a wire. -/
def readAll (wire : Wire) : Job (Except Fault Bytes) := readOn wire Job.longRun []

/-- Opens a file. -/
def openAs (p : Process) (file : Text) (o : Opening) : Job (Except Fault Wire) :=
  Job.update fun h =>
    match h.openAs (p.path file) o with
    | .ok (h, handle) => (h, .ok (.file handle))
    | .error fault => (h, .error fault)

/-- Opens a file for reading. -/
def openForReading (p : Process) (file : Text) : Job (Except Fault Wire) :=
  p.openAs file { reads := true, writes := false, creates := false }

/-! ### Output in blocks -/

/-- Writes for a job to where its output goes. -/
def release {ρ : Type} (target : Option Wire) (data : Bytes) (next : Option Fault → Job ρ) : Job ρ :=
  match target with
  | some wire => .write wire data next
  | none => next (some Job.closed)

/-- Runs a job that writes into a pipe, and writes that in blocks.  What is left is written when the job ends, and
before it writes anything else; `code` is the exit code if that fails at the end. -/
def inBlocks (p : Process) (code pipe : Nat) (held : Bytes) : Job Ending → Job Ending
  | .done r =>
    if held = [] then .done r
    else release (p.wires.lookup 1) held fun
      | none => .done r
      | some fault =>
        if p.diesOf fault then .done (.killed pipeSignal)
        else do
          p.complain (writeError fault)
          return .exited code
  | .read wire n next => .read wire n fun b => inBlocks p code pipe held (next b)
  | .write wire data next =>
    if wire = .sink pipe then
      let all := held ++ data
      let size := all.length / Job.blockSize * Job.blockSize
      if size = 0 then inBlocks p code pipe all (next none)
      else release (p.wires.lookup 1) (all.take size) fun fault =>
        inBlocks p code pipe (if fault.isSome then [] else all.drop size) (next fault)
    else if held = [] then .write wire data fun fault => inBlocks p code pipe held (next fault)
    else release (p.wires.lookup 1) held fun
      | none => .write wire data fun fault => inBlocks p code pipe [] (next fault)
      | some fault =>
        if p.diesOf fault then .done (.killed pipeSignal)
        else .write wire data fun fault => inBlocks p code pipe held (next fault)
  | .call change next => .call change fun h => inBlocks p code pipe held (next h)

/-- A program that writes its output in blocks; `code` is its exit code if the last one cannot be written. -/
def buffered (code : Nat) (program : Program) : Program := fun p =>
  inBlocks p code p.pipes []
    (program { p with wires := (1, .sink p.pipes) :: p.wires.filter (·.1 ≠ 1), pipes := p.pipes + 1 })

end Process

end PipeShell
