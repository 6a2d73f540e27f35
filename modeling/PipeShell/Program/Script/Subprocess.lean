import PipeShell.Program.Script.Builtin.Surroundings
import PipeShell.Program.Script.Redirection

/-!
# Scripts inside scripts

A text can be run as a script, line by line.  A part of a script can be run as a process of its own: a subshell, a part
of a pipeline, or a script whose output is wanted.  Such a process starts with the state of the script, and nothing of
what it changes comes back but how it has ended, and the signals that it has sent to the script.

The functions take the evaluation of commands as an argument.
-/

namespace PipeShell.Script

/-- How a command is evaluated. -/
structure Flags where
  /-- The script ends with the command. -/
  exits : Bool := false
  /-- The status of the command is looked at, so that a failure does not end the script. -/
  isTested : Bool := false
  deriving DecidableEq, Inhabited

/-- The evaluation of commands. -/
abbrev Evaluate := Flags → Node → Run Nat

/-- How the machine starts a program. -/
abbrev Loader := Process → Text → Host → Except Fault (Job Ending)

/-- Where the text of a script comes from. -/
inductive Origin
  /-- The text is all there is. -/
  | text
  /-- A file, of which all has been read. -/
  | file
  /-- A descriptor, from which more can be read. -/
  | input (descriptor : Nat)
  deriving DecidableEq, Inhabited

namespace Run

/-- The text of a script from its bytes. -/
def scriptText (b : Bytes) : Text := charsOf (b.filter (· ≠ 0))

/-- More text from an input; nothing is there at its end. -/
def readMore (descriptor : Nat) : Run Text := do
  let p := (← get).process
  match ← job (p.take descriptor 8192) with
  | .ok b => return scriptText b
  | .error _ => return []

/-- A line of commands that has been read. -/
structure NextLine where
  commands : Except Text (Option Node)
  /-- The source behind the line. -/
  after : Source
  origin : Origin
  /-- The text from the line on. -/
  text : Text

/-- Reads the next line of commands, with as much of the input as that takes. -/
def nextLine (rounds : Nat) (origin : Origin) (source : Source) : Run NextLine := do
  let (commands, after) := Reader.readLine.run.run source
  let line (origin : Origin) : NextLine := { commands, after, origin, text := source.text }
  match rounds, origin with
  | rounds + 1, .input descriptor =>
    if after.text = [] ∧ (after.hitsEnd ∨ after.token = .ending) then
      let more ← readMore descriptor
      if more = [] then return line .file else nextLine rounds origin { source with text := source.text ++ more }
    else return line origin
  | _, _ => return line origin

/-- Runs the lines of a script up to its end; `status` is the one of the last command. -/
def lines (evaluate : Evaluate) (flags : Flags) (rounds : Nat) (origin : Origin) (source : Source) (status : Nat) :
    Run Nat := do
  match rounds with
  | 0 => return status
  | rounds + 1 =>
    let s ← get
    let source := { source with aliases := s.aliases, nextDocument := s.nextDocument, documents := [] }
    let line ← nextLine Job.longRun origin source
    modify fun s => { s with
      documents := line.after.documents ++ s.documents
      nextDocument := line.after.nextDocument
      lineRead := line.after.line }
    if s.has 'v' ∧ origin ≠ .text then
      complainPlainly (line.text.take (line.text.length - line.after.text.length))
    match line.commands with
    | .error message =>
      modify fun s => { s with line := line.after.line }
      fail ("Syntax error: ".toList ++ message)
    | .ok none => return status
    | .ok (some n) =>
      let status' ← evaluate flags n
      let status := if n.isNothing then status else status'
      if (← get).skip = .nothing then lines evaluate flags rounds line.origin line.after status else return status

/-- Runs the lines of a script inside another one. -/
def inner (r : Run Nat) : Run Nat := do
  let lineRead := (← get).lineRead
  let status ← r
  modify fun s => { s with lineRead }
  return status

/-- Runs a text as a script. -/
def script (evaluate : Evaluate) (flags : Flags) (t : Text) : Run Nat :=
  inner (lines evaluate flags (t.length + 2) .text { text := t } 0)

/-- Runs a file, or an input, as a script; `return` ends it. -/
def file (evaluate : Evaluate) (origin : Origin) (t : Text) : Run Nat := do
  let status ← inner (lines evaluate {} Job.longRun origin { text := t } 0)
  modify fun s => if s.skip = .out ∨ s.skip = .outAsIs then { s with skip := .nothing } else s
  return status

/-! ### Traps -/

/-- Runs the commands for some signals. -/
def runTraps (evaluate : Evaluate) (status : Nat) : List Nat → Run Unit
  | [] => return
  | n :: rest => do
    let s ← get
    if s.skip ≠ .nothing then modify fun s => { s with pending := n :: rest ++ s.pending }
    else
      match s.traps.lookup n with
      | some (c :: action) =>
        let _ ← script evaluate {} (c :: action)
        if (← get).skip ≠ .out then modify fun s => { s with status }
      | _ => pure ()
      runTraps evaluate status rest

/-- Runs the commands for the signals that have come. -/
def takeTraps (evaluate : Evaluate) : Run Unit := do
  let s ← get
  if s.pending ≠ [] then
    let status := s.kept.getD s.status
    set { s with pending := [], kept := some status }
    runTraps evaluate status ((List.range Signal.limit).filter s.pending.contains)
    modify fun t => { t with kept := s.kept }

/-- A child has ended, which is a signal to those who ask for it. -/
def noteChild : Run Unit := modify fun s =>
  if (s.traps.lookup Signal.ofChildren).any (· ≠ []) then { s with pending := s.pending ++ [Signal.ofChildren] } else s

/-! ### The end of a script -/

/-- Takes the signals that have been sent to the script while it was waiting for a child. -/
def takeSignals : Run Unit := do
  let number := (← get).process.number
  let signals ← job (Job.update fun h =>
    ({ h with signals := h.signals.filter (·.1 ≠ number) }, h.signals.filter (·.1 = number)))
  for (_, n) in signals do Builtin.receive n
  noteChild

/-- Runs commands in the background that have not run yet. -/
def runJobs : Run Unit := do
  for j in (← get).jobs do
    if j.ending.isNone then
      let e ← job j.work
      modify fun s => { s with
        jobs := s.jobs.map fun k => if k.slot = j.slot then { k with ending := some e } else k }
      takeSignals

/-- Settles the status of a script that stops. -/
def settle (h : Halt) : Run Unit := do
  unwire 0 false
  modify fun s => { s with
    status := if h = .left ∨ s.skip = .outAsIs then s.kept.getD s.status else s.status
    kept := none
    skip := .nothing
    loops := 0
    command := none
    printed := [] }

/-- Ends a script that stops for a reason: runs its last commands, and gives how the process ends. -/
def finish (evaluate : Evaluate) (h : Halt) : Run Ending := do
  match h with
  | .ended e => return e
  | h =>
    settle h
    let s ← get
    let e ← match s.traps.lookup 0 with
      | some action => do
        set { s with traps := s.traps.filter (·.1 ≠ 0), kept := some s.status }
        try
          let _ ← script evaluate {} action
          modify fun s => { s with skip := .outAsIs }
          settle .finished
          pure none
        catch
          | .ended e => pure (some e)
          | h => do
            settle h
            pure none
      | none => pure none
    runJobs
    return e.getD (.exited ((← get).status % 256))

/-- Runs a part of a script as a whole process, which can be sent signals as long as it runs. -/
def process (evaluate : Evaluate) (r : Run Unit) (s : Shell) : Job Ending := do
  let number := s.process.number
  Job.update fun h => ({ h with processes := number :: h.processes }, ())
  let whole : Run Ending := do
    try
      r
      finish evaluate .finished
    catch h => finish evaluate h
  let (result, s) ← whole.run.run s
  Job.update fun h => ({ h with processes := h.processes.filter (· ≠ number) }, ())
  return match result with
    | .ok e | .error (.ended e) => e
    | .error _ => .exited (s.status % 256)

/-! ### Children -/

/-- The state with which a child begins. -/
def childState (number : Nat) (s : Shell) : Shell := { s with
  process := { s.process with number, parent := s.process.number }
  traps := s.traps.filter (·.2 = [])
  pending := []
  redirected := []
  jobs := []
  printed := [] }

/-- Finds a number for a child.  A command in the background that has ended gives its number away once the script has
waited for it. -/
def claimSlot : Run Nat := modifyGet fun s =>
  let isHeld (slot : Nat) : Bool := s.jobs.any fun j => j.slot == slot && !(j.isAwaited && j.ending.isSome)
  let slot := (((List.range (s.jobs.length + 1)).map (· + 1)).find? (!isHeld ·)).getD 1
  (slot, { s with jobs := s.jobs.filter (·.slot ≠ slot) })

/-- The number of a new process. -/
def newNumber : Run Nat := job (Job.update fun h => ({ h with nextProcess := h.nextProcess + 1 }, h.nextProcess))

/-- Reports a child that a signal has ended. -/
def announce (e : Ending) : Run Unit :=
  match Signal.report? e with
  | some t => complainPlainly (t ++ ['\n'])
  | none => return

/-- Takes in how children have ended, and gives the status of the last one. -/
def reap (children : List Ending) : Run Nat := do
  takeSignals
  for e in children do announce e
  return children.getLast?.elim 0 (·.status.toNat)

/-- Runs a part of a script in a child, and waits for it. -/
def child (evaluate : Evaluate) (r : Run Unit) : Run Nat := do
  let _ ← claimSlot
  let number ← newNumber
  let s ← get
  reap [← job (process evaluate r (childState number s))]

/-- Runs a script in a child for its output. -/
def output (evaluate : Evaluate) (n : Node) : Run Text := do
  if n.isNothing then return []
  else
    let _ ← claimSlot
    let number ← newNumber
    let s ← get
    let pipe := s.process.pipes
    let start := childState number s
    let start := { start with process := { start.process with
      wires := (1, .sink pipe) :: start.process.wires.filter (·.1 ≠ 1)
      pipes := pipe + 1 } }
    let run : Run Unit := do let _ ← evaluate { exits := true } n
    let (result, data) ← job ((process evaluate run start).capture pipe [])
    let status ← reap [result]
    modify fun s => { s with captured := status }
    return charsOf data

/-- The children of a pipeline as one job; the first of them reads from the wire `source`, if there is one. -/
def pipeJob (evaluate : Evaluate) (flags : Flags) (s : Shell) (numbers : List Nat) (source : Option Wire) :
    List Node → Job (List Ending)
  | [] => return []
  | n :: rest =>
    let pipe := s.process.pipes
    let start := childState (numbers.headD 0) s
    let isLast := rest.isEmpty
    let wires := start.process.wires
    let wires := source.elim wires fun p => (0, p) :: wires.filter (·.1 ≠ 0)
    let wires := if isLast then wires else (1, .sink pipe) :: wires.filter (·.1 ≠ 1)
    let start := { start with process := { start.process with wires, pipes := pipe + rest.length } }
    let run : Run Unit := do let _ ← evaluate { flags with exits := true } n
    let first := process evaluate run start
    if isLast then do return [← first]
    else
      let s := { s with process := { s.process with pipes := pipe + 1 } }
      let more := pipeJob evaluate flags s (numbers.drop 1) (some (.source pipe)) rest
      first.pipe pipe more (· :: ·)

/-- The input of commands in the background. -/
def silentInput : Run Wire := do
  match ← job ((← get).process.openForReading "/dev/null".toList) with
  | .ok wire => return wire
  | .error _ => fail "Can't open /dev/null".toList

/-- Leaves work to the background. -/
def leaveBehind (numbers : List Nat) (work : Job Ending) : Run Unit := do
  let slot ← claimSlot
  modify fun s => { s with jobs := s.jobs ++ [{ slot, numbers, work }], lastBackground := numbers.getLast? }

end Run

end PipeShell.Script
