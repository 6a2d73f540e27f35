import PipeShell.Program.Script.Subprocess

/-!
# Builtin commands for other processes

`wait`, `jobs` and `kill`, and `fg` and `bg`, which have nothing to do in a script.  Commands in the background are
called by their numbers after a percent sign; the last one is the current one.
-/

namespace PipeShell.Script.Builtin

/-- The commands in the background that a word means.  Those of a script are never under its control. -/
def named (word : Option Text) (underControl : Bool) : Run Background := do
  let jobs := (← get).jobs
  let fail {α : Type} (message : String) : Run α :=
    Run.fail (message.toList ++ word.getD [])
  let found ← match word with
    | none | some ['%'] | some ['%', '%'] | some ['%', '+'] =>
      match jobs.getLast? with
      | some j => pure j
      | none => Run.fail "No current job".toList
    | some ['%', '-'] =>
      match jobs.dropLast.getLast? with
      | some j => pure j
      | none => Run.fail "No previous job".toList
    | some ('%' :: name) =>
      match (Numeral.count? name).bind fun n => jobs.find? (·.slot = n) with
      | some j => pure j
      | none => fail "No such job: "
    | some _ => fail "No such job: "
  if underControl then
    Run.fail ("job ".toList ++ word.getD "(null)".toList ++ " not created under job control".toList)
  return found

/-- The commands `fg` and `bg`. -/
def resume (words : List Text) : Run Nat := do
  let o ← options "" words
  let _ ← named o.words.head? true
  return 0

/-! ### `jobs` -/

/-- What has become of commands in the background. -/
def Background.report (j : Background) : Text :=
  match j.ending with
  | none => "Running".toList
  | some (.exited 0) => "Done".toList
  | some (.exited n) => "Done(".toList ++ showNat n ++ [')']
  | some (.killed n) => Signal.meaning n

/-- Shows commands in the background, those that have ended for the last time. -/
def showJob (o : Options) (j : Background) : Run Unit := do
  let jobs := (← get).jobs
  if o.last? = some 'p' then Run.printLine (showNat (j.numbers.headD 0))
  else
    let place (k : Option Background) : Bool := k.any (·.slot = j.slot)
    let mark := if place jobs.getLast? then '+' else if place jobs.dropLast.getLast? then '-' else ' '
    let start := '[' :: showNat j.slot ++ [']', ' ', mark, ' ']
    let withNumber (n : Nat) : Text := if o.has 'l' then showNat n ++ [' '] else []
    let line := start ++ withNumber (j.numbers.headD 0) ++ Background.report j
    let border := if o.has 'l' then " |\n".toList ++ start.map (fun _ => ' ') else " | ".toList
    let rest := j.numbers.tail.flatMap fun n => border ++ withNumber n
    Run.printLine (line ++ List.replicate (max 1 (33 - line.length)) ' ' ++ rest)
    if j.ending.isSome then modify fun s => { s with jobs := s.jobs.filter (·.slot ≠ j.slot) }

/-- The command `jobs`. -/
def showJobs (words : List Text) : Run Nat := do
  let o ← options "lp" words
  if o.words = [] then
    for j in (← get).jobs.reverse do showJob o j
  else
    for w in o.words do showJob o (← named (some w) false)
  return 0

/-! ### `wait` -/

/-- Waits for all commands in the background.  The result is a signal that has come meanwhile. -/
def waitForAll : Run (Option Nat) := do
  let before := (← get).pending.length
  Run.runJobs
  return ((← get).pending.drop before).reverse.find? (· ≠ Signal.ofChildren)

/-- The command `wait`. -/
def wait (words : List Text) : Run Nat := do
  let o ← options "" words
  if o.words = [] then
    let signal ← waitForAll
    modify fun s => { s with jobs := s.jobs.map fun j => { j with isAwaited := true } }
    return signal.elim 0 (128 + ·)
  else
    let mut status := 127
    for w in o.words do
      let wanted ← if w.head? = some '%' then do pure (some (← named (some w) false))
        else do
          let number ← Run.count w
          pure ((← get).jobs.find? (·.number = number))
      if let some j := wanted then
        let signal ← waitForAll
        let ending := ((← get).jobs.find? (·.slot = j.slot)).bind (·.ending)
        if j.ending.isNone then ending.elim (pure ()) Run.announce
        modify fun s => { s with
          jobs := s.jobs.map fun k => if k.slot = j.slot then { k with isAwaited := true } else k }
        status := signal.elim (ending.elim 127 fun e => e.status.toNat) (128 + ·)
    return status

/-! ### `kill` -/

/-- Sends a signal to a process; the result is false if there is none. -/
def send (n number : Nat) : Run Bool := do
  let s ← get
  if number = s.process.number then
    receive n
    return true
  else if s.jobs.any fun j => j.number = number ∧ j.ending.isNone then
    if Signal.isDeadly n then
      modify fun s => { s with jobs := s.jobs.map fun j =>
        if j.number = number then { j with work := .done (.killed n) } else j }
    return true
  else
    Run.job (Job.update fun h =>
      if h.processes.contains number then ({ h with signals := h.signals ++ [(number, n)] }, true) else (h, false))

/-- The command `kill`. -/
def kill (words : List Text) : Run Nat := do
  let usage : Run Nat :=
    Run.fail "Usage: kill [-s sigspec | -signum | -sigspec] [pid | job]... or\nkill -l [exitstatus]".toList
  let start : Option Nat := match words with
    | ('-' :: name) :: _ => Signal.ofText? 0 name
    | _ => none
  let (lists, signal, targets) ← match start, words with
    | some n, _ :: rest => pure (false, some n, rest)
    | _, ('-' :: _) :: _ => do
      let o ← options "ls:" words
      let mut signal := none
      for (letter, name) in o.given do
        if letter = 's' then
          match Signal.ofText? 1 name with
          | some n => signal := some n
          | none => Run.fail ("invalid signal number or name: ".toList ++ name)
      pure (o.has 'l', signal, o.words)
    | _, _ => pure (false, none, words)
  if lists then
    match targets with
    | [] =>
      Run.printLine ['0']
      for n in (List.range Signal.limit).tail do Run.printLine (Signal.name n)
      return 0
    | w :: _ =>
      let n ← Run.count w
      let n := if 128 < n then n - 128 else n
      if 0 < n ∧ n < Signal.limit then
        Run.printLine (Signal.name n)
        return 0
      else Run.fail ("invalid signal number or exit status: ".toList ++ w)
  else if targets = [] then usage
  else
    let mut status := 0
    for w in targets do
      let (isOne, number) ← match w with
        | '%' :: _ => do
          let _ ← named (some w) false
          pure (false, 0)
        | '-' :: rest => pure (false, ← Run.count rest)
        | _ => pure (true, ← Run.count w)
      let sent ← if isOne then send (signal.getD 15) number else pure false
      if ¬ sent then
        Run.complain "No such process\n".toList
        status := 1
    return status

end PipeShell.Script.Builtin
