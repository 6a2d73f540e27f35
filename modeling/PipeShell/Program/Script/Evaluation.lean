import PipeShell.Program.Script.Builtin.Control
import PipeShell.Program.Script.Builtin.Printing
import PipeShell.Program.Script.Builtin.Setting

/-!
# Running commands

`Run.tree` evaluates a command.  Every kind of command has a function of its own, which takes the evaluation of the
commands inside it as an argument; `tree` ties them together, with less fuel for the commands inside.
-/

namespace PipeShell.Script

/-- What the parts of the evaluation have in common. -/
structure Machinery where
  load : Loader
  evaluate : Evaluate

namespace Run

/-- The output of scripts inside words. -/
def substitute (m : Machinery) : Substitute := output m.evaluate

/-! ### Programs -/

/-- Starts the file at a path; one that the system cannot run is run as a script. -/
def startFile (m : Machinery) (argv : List Text) (path : Text) : Run (Except Fault (Job Ending)) := do
  let s ← get
  let p := { s.process with argv, vars := s.environment }
  match ← ask fun h => m.load p path h with
  | .error (.os e) =>
    if e = .notExecutable then
      let interpreter := "/bin/sh".toList
      ask fun h => m.load { p with argv := interpreter :: path :: argv.tail } interpreter h
    else return .error (.os e)
  | result => return result

/-- Starts the first file that can be started. -/
def startFirst (m : Machinery) (argv : List Text) (fault : Fault) : List Text → Run (Except Fault (Job Ending))
  | [] => return .error fault
  | path :: paths => do
    match ← startFile m argv path with
    | .ok j => return .ok j
    | .error e =>
      startFirst m argv (if e = .os .noEntry ∨ e = .os .notDirectory then fault else e) paths

/-- The program takes the place of the script. -/
def become {α : Type} (m : Machinery) (argv : List Text) (path : Option Text) : Run α := do
  let s ← get
  let name := argv.headD []
  let paths := if name.contains '/' then [name] else Shell.candidates (path.getD s.searchPath) name
  if name = "sleep".toList then runJobs
  match ← startFirst m argv (.os .noEntry) paths with
  | .ok j => halt (.ended (← job j))
  | .error fault =>
    let isMissing := [Fault.os .noEntry, .os .notDirectory, .os .tooManyLinks, .os .nameTooLong].contains fault
    modify fun s => { s with status := if isMissing then 127 else 126 }
    complain (name ++ ": ".toList ++ openReason "not found" fault)
    halt .finished

/-! ### Builtin commands -/

/-- The file that the command `.` runs. -/
def dotFile (name : Text) : Run Text := do
  if name.contains '/' then return name
  else
    let s ← get
    let files := Shell.candidates s.searchPath name
    match ← ask fun h => files.find? fun file =>
        h.node? (joinPath s.process.here.path (readBack file)) matches some (.file _) with
    | some file => return file
    | none => fail (name ++ ": not found".toList)

/-- The text of a script in a file. -/
def fileText (path : Text) : Run Text := do
  let wire ← openFile .input path
  match ← job (Process.readAll wire) with
  | .ok b => return scriptText b
  | .error _ => return []

/-- The command `.`. -/
def runFile (m : Machinery) (words : List Text) : Run Nat := do
  let o ← Builtin.options "" words
  match o.words with
  | [] => return 0
  | name :: _ =>
    let path ← dotFile name
    let text ← fileText path
    modify fun s => { s with command := some path }
    file m.evaluate .file text

/-- The commands `break` and `continue`. -/
def leaveLoops (skip : Skip) (words : List Text) : Run Nat := do
  let n ← words.head?.elim (pure 1) count
  if n = 0 then failNumber (words.headD [])
  modify fun s => if s.loops = 0 then s else { s with skip, skipped := min n s.loops }
  return 0

/-- The command `return`. -/
def leaveFunction (words : List Text) : Run Nat := do
  match words with
  | [] =>
    modify fun s => { s with skip := .outAsIs }
    return (← get).status
  | w :: _ =>
    let n ← count w
    modify fun s => { s with skip := .out }
    return n

/-- The command `exit`. -/
def leave (words : List Text) : Run Nat := do
  if let w :: _ := words then
    let n ← count w
    modify fun s => { s with kept := some n }
  halt .left

/-- Runs the builtin command of a name. -/
def builtinNamed (m : Machinery) (flags : Flags) (name : Text) (words : List Text) : Run Nat := do
  match String.ofList name with
  | ":" | "true" => return 0
  | "false" => return 1
  | "." => runFile m words
  | "eval" =>
    if words = [] then return 0
    else script m.evaluate { isTested := flags.isTested } (joinWith [' '] words)
  | "exec" => if words = [] then return 0 else become m words none
  | "exit" => leave words
  | "break" => leaveLoops .toEnd words
  | "continue" => leaveLoops .toNext words
  | "return" => leaveFunction words
  | "set" => Builtin.set words
  | "shift" => Builtin.shift words
  | "export" | "readonly" => Builtin.mark name words
  | "local" => Builtin.keepAll words
  | "unset" => Builtin.unset words
  | "trap" => Builtin.trap words
  | "times" => Builtin.showTimes
  | "wait" => Builtin.wait words
  | "jobs" => Builtin.showJobs words
  | "fg" | "bg" => Builtin.resume words
  | "alias" => Builtin.setAliases words
  | "unalias" => Builtin.dropAliases words
  | "cd" | "chdir" => Builtin.changeDirectory words
  | "pwd" => Builtin.showDirectory words
  | "command" => Builtin.describeOne words
  | "echo" => Builtin.echo words
  | "printf" => do
    let o ← Builtin.options "" words
    match o.words with
    | [] => fail "usage: printf format [arg ...]".toList
    | format :: words =>
      let ((), s) ← (Builtin.Fill.all (words.length + 1) format).run { words }
      return if s.hasFailed then 1 else 0
  | "read" => Builtin.read words
  | "getopts" => Builtin.nextOption words
  | "hash" => Builtin.hash words
  | "type" => Builtin.describeAll words
  | "kill" => Builtin.kill words
  | "umask" => Builtin.changeMask words
  | "ulimit" => Builtin.showLimit words
  | "test" | "[" => Builtin.test name words
  | _ => return 0

/-- Runs a builtin command, and writes what it has kept. -/
def builtin (m : Machinery) (flags : Flags) (argv : List Text) : Run Unit := do
  let before := (← get).command
  let name := argv.headD []
  modify fun s => { s with command := some name }
  try
    let status ← builtinNamed m flags name argv.tail
    let fault ← flush
    if fault.isSome then
      modify fun s => { s with command := some name }
      complain (name ++ ": I/O error".toList)
    modify fun s => { s with status := if fault.isSome then status ||| 1 else status, command := before }
  catch h =>
    modify fun s => { s with command := before, printed := [] }
    halt h

/-! ### Simple commands -/

/-- A function calls functions to this depth. -/
def functionLimit : Nat := 1000

/-- Calls a function. -/
def call (m : Machinery) (flags : Flags) (body : Node) (argv : List Text) : Run Unit := do
  let s ← get
  if functionLimit ≤ s.depth then fail "Maximum function recursion depth (1000) reached".toList
  let back : Run Unit := modify fun t => { t with
    parameters := s.parameters
    place := s.place
    loops := s.loops
    depth := s.depth
    skip := if t.skip = .out ∨ t.skip = .outAsIs then .nothing else t.skip }
  set { s with parameters := argv.tail, place := {}, loops := 0, depth := s.depth + 1 }
  try
    let _ ← m.evaluate { isTested := flags.isTested } body
  catch h =>
    back
    halt h
  back

/-- What is known of a simple command before it runs. -/
structure Calling where
  argv : List Text := []
  /-- The words that have not been expanded. -/
  rest : List Word := []
  /-- The words in front that only say how to run the command. -/
  before : List Text := []
  /-- The command has a name. -/
  isNamed : Bool := false
  command : Meaning := .builtin
  /-- The first word names a builtin command whose failures end the script. -/
  isSpecial : Option Bool := none
  /-- The assignments hold only for the command. -/
  keeps : Bool := false
  /-- Functions do not count. -/
  plainly : Bool := false
  /-- The search path, if it is not the usual one. -/
  path : Option Text := none
  isExec : Bool := false
  /-- Words of the form of assignments are not split. -/
  assigns : Bool := false
  deriving Inhabited

/-- Expands words until there is a field. -/
def fill (m : Machinery) : List Word → Run (List Text × List Word)
  | [] => return ([], [])
  | w :: rest => do
    match ← Expand.fields (substitute m) w with
    | [] => fill m rest
    | fields => return (fields, rest)

/-- The words after `command`. -/
structure CommandWords where
  /-- The options, in reverse order. -/
  options : List Text := []
  argv : List Text
  rest : List Word
  path : Option Text := none
  deriving Inhabited

/-- Reads the options of `command`, with fuel for all words; the flag says whether it runs something. -/
def commandOptions (m : Machinery) (fuel : Nat) (c : CommandWords) : Run (CommandWords × Bool) := do
  match fuel with
  | 0 => return (c, false)
  | fuel + 1 =>
    let (argv, rest) ← if c.argv.isEmpty then fill m c.rest else pure (c.argv, c.rest)
    let c := { c with argv, rest }
    match argv with
    | [] => return (c, false)
    | ['-', '-'] :: more =>
      let (argv, rest) ← if more.isEmpty then fill m rest else pure (more, rest)
      return ({ c with options := ['-', '-'] :: c.options, argv, rest }, argv ≠ [])
    | ('-' :: d :: letters) :: more =>
      if (d :: letters).all (· = 'p') then
        commandOptions m fuel { c with
          options := ('-' :: d :: letters) :: c.options
          argv := more
          path := some Shell.standardPath }
      else return (c, false)
    | _ => return (c, true)

/-- What a name stands for, as far as that is known without the search path. -/
def findEarly (name : Text) (plainly : Bool) : Run Meaning := do
  let s ← get
  match if plainly then none else s.functions.lookup name with
  | some body => return .function body
  | none => return if specialBuiltins.contains name ∨ plainBuiltins.contains name then .builtin else .unknown

/-- Finds out what the first words of a command stand for; `command` may be in front several times. -/
def resolve (m : Machinery) (fuel : Nat) (c : Calling) : Run Calling := do
  match fuel with
  | 0 => return c
  | fuel + 1 =>
    let name := c.argv.headD []
    let command ← findEarly name c.plainly
    match command with
    | .builtin =>
      let isSpecial := specialBuiltins.contains name
      let c := { c with
        command
        keeps := if c.isSpecial.isNone then !isSpecial else true
        isSpecial := some (c.isSpecial.getD isSpecial)
        isExec := name == "exec".toList
        assigns := ["alias", "export", "readonly", "local"].any (·.toList = name) }
      if name ≠ "command".toList then return c
      else
        let (words, runs) ← commandOptions m (c.rest.length + c.argv.length + 2) ⟨[], c.argv.tail, c.rest, c.path⟩
        let { options, argv, rest, path } := words
        let before := c.before ++ name :: options.reverse
        if runs then resolve m fuel { c with argv, rest, path, before, plainly := true }
        else return { c with argv := name :: options.reverse ++ argv, rest }
    | _ => return { c with command, keeps := true, isExec := false, assigns := false }

/-- Shows a command before it runs, if that is asked for. -/
def trace (m : Machinery) (wire : Option Wire) (words : List Text) : Run Unit := do
  let s ← get
  if s.has 'x' ∧ ¬ s.isShowing then
    set { s with isShowing := true }
    let start := (s.value? "PS4".toList).getD []
    let shown ← match (Reader.readText.run.run { text := start }).1 with
      | .ok w => Expand.text (substitute m) { isQuoted := true } w
      | .error _ => pure start
    modify fun s => { s with isShowing := false }
    if let some wire := wire then
      let _ ← job (Job.put wire (bytesOf (shown ++ joinWith [' '] words ++ ['\n'])))

/-- Runs a program in a child, or in place of the script where that is the last thing to do. -/
def runProgram (m : Machinery) (flags : Flags) (argv : List Text) (path : Option Text) : Run Nat := do
  if flags.exits ∧ ¬ (← get).hasTraps then become m argv path
  else
    if argv.head? = some "sleep".toList then runJobs
    child m.evaluate (become m argv path)

/-- Makes the assignments of a command, and gives them as they are shown. -/
def assignAll (m : Machinery) (keeps isExported : Bool) : List Word → Run (List Text)
  | [] => return []
  | w :: rest => do
    let t ← Expand.text (substitute m) { tildes := true } w
    if keeps then keep t true
    else
      let (name, value) := splitAssignment t
      declare name (some (value.getD [])) isExported false
    return t :: (← assignAll m keeps isExported rest)

/-- Runs a command whose words have been expanded. -/
def execute (m : Machinery) (flags : Flags) (c : Calling) : Run Nat := do
  let name := c.argv.headD []
  if ¬ c.isNamed then
    let n := (← get).captured
    modify fun s => { s with status := n }
    return n
  else
    let command ← match c.command with
      | .builtin => pure .builtin
      | _ => find name c.plainly true c.path
    match command with
    | .unknown =>
      modify fun s => { s with status := 127 }
      if c.isSpecial = some true then halt .failed
      return 127
    | .program _ => runProgram m flags c.argv c.path
    | .function body =>
      call m flags body c.argv
      return (← get).status
    | .builtin =>
      try builtin m flags c.argv
      catch
        | .failed => if c.isSpecial = some true then halt .failed
        | h => halt h
      return (← get).status

/-- Runs a simple command. -/
def simple (m : Machinery) (flags : Flags) (line : Nat) (assignments words : List Word) (redirects : List Redirect) :
    Run Nat := do
  modify fun s => { s with line, captured := 0 }
  let (argv, rest) ← fill m words
  let start : Calling := { argv, rest, isNamed := ¬ argv.isEmpty }
  let c ← if argv.isEmpty then pure start else resolve m (words.length + 2) start
  let more ← c.rest.mapM fun w =>
    if c.assigns ∧ w.isAssignment then do return [← Expand.text (substitute m) { tildes := true } w]
    else Expand.fields (substitute m) w
  let c := { c with argv := c.argv ++ more.flatten, rest := [] }
  let isExec := c.isExec && c.argv.length > 1
  let s ← get
  let depth := s.redirected.length
  let frames := s.saved.length
  let errors := s.process.wires.lookup 2
  if c.keeps then modify fun s => { s with saved := [] :: s.saved }
  let finish (status : Nat) : Run Nat := do
    unwire depth c.isExec
    repeatRestore ((← get).saved.length - frames)
    return status
  let rewiring ← expandRedirects (substitute m) redirects
  if ¬ (← rewireSafely (substitute m) rewiring) then
    modify fun s => { s with status := 2 }
    if c.isSpecial = some true then halt .failed
    finish 2
  else
    let shown ← assignAll m c.keeps isExec assignments
    trace m errors (shown ++ c.before ++ c.argv)
    finish (← execute m flags c)
where
  /-- Puts back what the innermost commands have kept. -/
  repeatRestore : Nat → Run Unit
    | 0 => return
    | n + 1 => do
      restore
      repeatRestore n

/-! ### Compound commands -/

/-- Where the way to the end of a loop leads, after a command in it. -/
def leaveLoop : Run Skip := do
  let s ← get
  match s.skip with
  | .toEnd | .toNext =>
    if s.skipped ≤ 1 then
      set { s with skip := .nothing, skipped := 0 }
      return s.skip
    else
      set { s with skipped := s.skipped - 1 }
      return .toEnd
  | skip => return skip

/-- Goes through the rounds of a loop; `status` is the one of the last round. -/
def rounds (m : Machinery) (flags : Flags) (whileFails : Bool) (test body : Node) (fuel status : Nat) : Run Nat := do
  match fuel with
  | 0 => return status
  | fuel + 1 =>
    let n ← m.evaluate { isTested := true } test
    match ← leaveLoop with
    | .toNext => rounds m flags whileFails test body fuel status
    | .out => return n
    | .toEnd | .outAsIs => return status
    | .nothing =>
      if (n = 0) = whileFails then return status
      else
        let status ← m.evaluate { isTested := flags.isTested } body
        match ← leaveLoop with
        | .nothing | .toNext => rounds m flags whileFails test body fuel status
        | _ => return status

/-- Runs something as a loop. -/
def inLoop (r : Run Nat) : Run Nat := do
  modify fun s => { s with loops := s.loops + 1 }
  let status ← r
  modify fun s => { s with loops := s.loops - 1 }
  return status

/-- Goes through the words of a loop. -/
def overWords (m : Machinery) (flags : Flags) (name : Text) (body : Node) (status : Nat) : List Text → Run Nat
  | [] => return status
  | w :: ws => do
    assign name w
    let status ← m.evaluate { isTested := flags.isTested } body
    match ← leaveLoop with
    | .nothing | .toNext => overWords m flags name body status ws
    | _ => return status

/-- One of some patterns fits a text. -/
def fitsAny (m : Machinery) (t : Text) : List Word → Run Bool
  | [] => return false
  | w :: ws => do
    if Pattern.fits (← Expand.pattern (substitute m) w) t then return true else fitsAny m t ws

/-- Runs the first branch that fits a text. -/
def chooseBranch (m : Machinery) (flags : Flags) (t : Text) : List (List Word × Node) → Run Nat
  | [] => return 0
  | (patterns, body) :: branches => do
    if ← fitsAny m t patterns then
      if (← get).skip = .nothing ∧ ¬ body.isNothing then m.evaluate flags body else return 0
    else chooseBranch m flags t branches

/-- The state of a child in the background. -/
def backgroundState (number : Nat) (source : Wire) (s : Shell) : Shell :=
  let start := childState number s
  { start with
    deaf := Signal.ofKeys ++ start.deaf
    process := { start.process with
      wires := (0, source) :: start.process.wires.filter (·.1 ≠ 0)
      ignored := Signal.ofKeys ++ start.process.ignored } }

/-- Runs a subshell, perhaps in the background. -/
def subshell (m : Machinery) (flags : Flags) (isBackground : Bool) (line : Nat) (body : Node)
    (redirects : List Redirect) : Run Nat := do
  modify fun s => { s with line }
  let rewiring ← expandRedirects (substitute m) redirects
  let run (flags : Flags) : Run Unit := do
    rewire (substitute m) [] rewiring
    let _ ← m.evaluate { flags with exits := true } body
  if isBackground then
    let number ← newNumber
    let wire ← silentInput
    let s ← get
    let start := backgroundState number wire s
    leaveBehind [number] (process m.evaluate (run {}) start)
    return 0
  else if flags.exits ∧ ¬ (← get).hasTraps then
    run flags
    halt .finished
  else child m.evaluate (run flags)

/-- Looks for the program that a command names plainly, so that it is tracked. -/
def trackProgram : Node → Run Unit
  | .simple _ _ (w :: _) _ =>
    match (Word.bare? w).filter isName with
    | some name => do let _ ← find name false false none
    | none => return
  | _ => return

/-- Runs a pipeline, perhaps in the background. -/
def pipeline (m : Machinery) (flags : Flags) (commands : List Node) (isBackground : Bool) : Run Nat := do
  for n in commands do trackProgram n
  let numbers ← commands.mapM fun _ => newNumber
  let s ← get
  if isBackground then
    let wire ← silentInput
    let s := { s with
      deaf := Signal.ofKeys ++ s.deaf
      process := { s.process with ignored := Signal.ofKeys ++ s.process.ignored } }
    let work := pipeJob m.evaluate flags s numbers (some wire) commands
    leaveBehind numbers do return (← work).getLastD (.exited 0)
    return 0
  else
    let _ ← claimSlot
    reap (← job (pipeJob m.evaluate flags s numbers none commands))

/-- Runs a command with redirections around it. -/
def redirected (m : Machinery) (flags : Flags) (line : Nat) (body : Node) (redirects : List Redirect) : Run Nat := do
  modify fun s => { s with line }
  let rewiring ← expandRedirects (substitute m) redirects
  let depth := (← get).redirected.length
  let status ← if ← rewireSafely (substitute m) rewiring then m.evaluate { isTested := flags.isTested } body else pure 2
  unwire depth false
  return status

/-- What a command does.  There is no status where the last one stays as it is. -/
def perform (m : Machinery) (flags : Flags) : Node → Run (Option Nat)
  | .nothing => return none
  | .simple line assignments words redirects => simple m flags line assignments words redirects
  | .pipeline commands isBackground => pipeline m flags commands isBackground
  | .redirected line body redirects => redirected m flags line body redirects
  | .background line body redirects => subshell m flags true line body redirects
  | .subshell line body redirects => subshell m flags false line body redirects
  | .negation body => do
    let n ← m.evaluate { isTested := true } body
    return some (if (← get).skip ≠ .nothing then n else if n = 0 then 1 else 0)
  | .both first second => do
    let n ← m.evaluate { isTested := true } first
    if n ≠ 0 ∨ (← get).skip ≠ .nothing then return none else m.evaluate flags second
  | .either first second => do
    let n ← m.evaluate { isTested := true } first
    if n = 0 ∨ (← get).skip ≠ .nothing then return none else m.evaluate flags second
  | .sequence first second => do
    let _ ← m.evaluate { isTested := flags.isTested } first
    if (← get).skip ≠ .nothing then return none else m.evaluate flags second
  | .condition test yes no => do
    let n ← m.evaluate { isTested := true } test
    if (← get).skip ≠ .nothing then return none
    else if n = 0 then m.evaluate flags yes
    else if no.isNothing then return some 0
    else m.evaluate flags no
  | .loop whileFails test body => inLoop (rounds m flags whileFails test body Job.longRun 0)
  | .each line name words body => do
    modify fun s => { s with line }
    let fields ← words.mapM (Expand.fields (substitute m))
    inLoop (overWords m flags name body 0 fields.flatten)
  | .choice line word branches => do
    modify fun s => { s with line }
    let t ← Expand.text (substitute m) { tilde := true } word
    chooseBranch m flags t branches
  | .function name body => do
    modify fun s => { s with
      functions := (name, body) :: s.functions.filter (·.1 ≠ name)
      tracked := s.tracked.filter (·.1 ≠ name) }
    return some 0

/-- A command whose failure can end the script. -/
def isDecisive : Node → Bool
  | .simple .. | .pipeline .. | .background .. | .subshell .. => true
  | _ => false

/-- Evaluates a command.  A script that stops on failures stops after one that nobody looks at. -/
def tree (load : Loader) (fuel : Nat) (flags : Flags) (n : Node) : Run Nat := do
  match fuel with
  | 0 => fail "Maximum depth reached".toList
  | fuel + 1 =>
    let evaluate : Evaluate := tree load fuel
    let m : Machinery := ⟨load, evaluate⟩
    if (← get).has 'n' ∨ n.isNothing then close evaluate flags n 0
    else
      takeTraps evaluate
      match ← perform m flags n with
      | some status =>
        modify fun s => { s with status }
        close evaluate flags n status
      | none => close evaluate flags n (← get).status
where
  /-- Looks at the status of a command, and at the signals that have come. -/
  close (evaluate : Evaluate) (flags : Flags) (n : Node) (status : Nat) : Run Nat := do
    if status ≠ 0 ∧ isDecisive n ∧ ¬ flags.isTested ∧ (← get).has 'e' then halt .finished
    takeTraps evaluate
    if flags.exits then halt .finished
    return (← get).status

end Run

end PipeShell.Script
