import PipeShell.Program.Process
import PipeShell.Program.Script.Parser
import PipeShell.Program.Script.Signal

/-!
# The state of a running script

A script is a process with variables, parameters, functions and options.  It runs as a job and may stop at any point,
for one of the reasons of `Halt`.  What a subshell changes is forgotten when it ends.
-/

namespace PipeShell.Script

/-- A variable.  One without value has been declared only. -/
structure Variable where
  name : Text
  value : Option Text := none
  isExported : Bool := false
  isFixed : Bool := false
  deriving DecidableEq, Inhabited

/-- What a function puts back when it ends. -/
inductive Kept
  | variable (name : Text) (before : Option Variable)
  | options (letters : Text)
  deriving DecidableEq, Inhabited

/-- What is left out on the way to the end of a loop, a function or a file. -/
inductive Skip
  | nothing
  | toEnd
  | toNext
  /-- A `return` with a status. -/
  | out
  /-- A `return` with the status of the last command. -/
  | outAsIs
  deriving DecidableEq, Inhabited

/-- Commands in the background.  They run when the script waits for them, or ends. -/
structure Background where
  /-- The number by which scripts call it. -/
  slot : Nat
  /-- The numbers of its processes. -/
  numbers : List Nat
  work : Job Ending
  ending : Option Ending := none
  /-- The script has waited for it. -/
  isAwaited : Bool := false

/-- The number of the last process. -/
def Background.number (j : Background) : Nat := j.numbers.getLastD 0

/-- Where the search for options among the parameters goes on. -/
structure OptionPlace where
  word : Nat := 1
  offset : Option Nat := none
  deriving DecidableEq, Inhabited

/-- The state of a running script. -/
structure Shell where
  process : Process
  /-- The name of the script. -/
  name : Text
  parameters : List Text := []
  place : OptionPlace := {}
  vars : List Variable := []
  functions : List (Text × Node) := []
  aliases : List (Text × Text) := []
  /-- The programs that have been found, with their paths. -/
  tracked : List (Text × Text) := []
  /-- What is to be done on signals; nothing stands for signals that are ignored. -/
  traps : List (Nat × Text) := []
  /-- Signals that do nothing whatever the script wants. -/
  deaf : List Nat := []
  /-- The signals that have come. -/
  pending : List Nat := []
  options : Text := []
  status : Nat := 0
  /-- The status of the last command substitution. -/
  captured : Nat := 0
  /-- The status with which the script ends after a trap. -/
  kept : Option Nat := none
  skip : Skip := .nothing
  /-- The number of loops that are left. -/
  skipped : Nat := 0
  /-- The number of loops around the command. -/
  loops : Nat := 0
  /-- The number of functions around the command. -/
  depth : Nat := 0
  line : Nat := 0
  /-- The line up to which commands have been read. -/
  lineRead : Nat := 0
  /-- The builtin command that runs. -/
  command : Option Text := none
  /-- What is put back after the commands around this one, if it may keep something. -/
  saved : List (List Kept) := []
  /-- Where descriptors led before the redirections around the command, the last ones first. -/
  redirected : List (List (Nat × Option Wire)) := []
  documents : List (Nat × Word) := []
  nextDocument : Nat := 0
  /-- The directory as the script calls it. -/
  directory : Text := []
  /-- The process number of the script. -/
  root : Nat
  /-- The process number of the last command in the background. -/
  lastBackground : Option Nat := none
  jobs : List Background := []
  /-- What the builtin command has written. -/
  printed : List Text := []
  /-- The values of commands are being shown. -/
  isShowing : Bool := false

/-- Why a script stops before its end. -/
inductive Halt
  /-- A command has failed in a way that ends scripts. -/
  | failed
  /-- Some command has asked for the end. -/
  | left
  /-- There is nothing more to do. -/
  | finished
  /-- The process has ended in this way. -/
  | ended (e : Ending)
  deriving DecidableEq, Inhabited

/-- A part of a script: it changes the state, may stop early, and runs as a job. -/
abbrev Run := ExceptT Halt (StateT Shell Job)

/-! ### Variables -/

/-- A text in single quotes, as a shell reads it. -/
def inSingleQuotes (t : Text) : Text := go (t.length + 1) t
where
  /-- Writes a part without single quotes and the quotes after it, again and again. -/
  go (fuel : Nat) (t : Text) : Text :=
    let plain := '\'' :: t.takeWhile (· ≠ '\'') ++ ['\'']
    match fuel, t.dropWhile (· ≠ '\'') with
    | fuel + 1, '\'' :: rest =>
      let quotes := '\'' :: rest.takeWhile (· = '\'')
      let more := rest.dropWhile (· = '\'')
      plain ++ '"' :: quotes ++ '"' :: if more = [] then [] else go fuel more
    | _, _ => plain

/-- The place of a name in the order of the tables. -/
def tablePlace (size : Nat) (name : Text) : Nat :=
  ((name.headD ' ').toNat * 16 + name.foldl (fun n c => n + c.toNat) 0) % size

/-- Names in the order of a table. -/
def inTableOrder {α : Type} (size : Nat) (name : α → Text) (xs : List α) : List α :=
  (List.range size).flatMap fun i => xs.filter fun x => tablePlace size (name x) == i

namespace Shell

/-- The variable of a name. -/
def named? (s : Shell) (name : Text) : Option Variable := s.vars.find? (·.name == name)

/-- The value of a variable. -/
def value? (s : Shell) (name : Text) : Option Text := (s.named? name).bind (·.value)

/-- Puts a variable in place of the one with its name. -/
def put (s : Shell) (v : Variable) : Shell :=
  if (s.named? v.name).isSome then
    { s with vars := s.vars.map fun w => if w.name == v.name then v else w }
  else { s with vars := s.vars ++ [v] }

/-- Takes a variable away. -/
def drop (s : Shell) (name : Text) : Shell := { s with vars := s.vars.filter (·.name != name) }

/-- An option is on. -/
def has (s : Shell) (letter : Char) : Bool := s.options.contains letter

/-- Turns an option on or off. -/
def setOption (s : Shell) (letter : Char) (isOn : Bool) : Shell :=
  let others := s.options.filter (· ≠ letter)
  { s with options := if isOn then letter :: others else others }

/-- The variables for the programs that the script starts. -/
def environment (s : Shell) : Variables :=
  (inTableOrder 39 Variable.name s.vars).filterMap fun v =>
    if v.isExported then v.value.map (v.name, ·) else none

/-- The characters that separate fields. -/
def separators (s : Shell) : Text := (s.value? "IFS".toList).getD [' ', '\t', '\n']

/-- The search path of a script that is given none. -/
def standardPath : Text := "/usr/local/sbin:/usr/local/bin:/usr/sbin:/usr/bin:/sbin:/bin".toList

/-- The search path. -/
def searchPath (s : Shell) : Text := (s.value? "PATH".toList).getD []

/-- Some signal has an action. -/
def hasTraps (s : Shell) : Bool := s.traps.any fun (_, action) => action ≠ []

/-- The paths at which a file of this name may be, along a search path. -/
def candidates (path name : Text) : List Text :=
  (splitAt ':' path).map fun directory => if directory = [] then name else directory ++ '/' :: name

end Shell

/-! ### Parts of scripts -/

namespace Run

variable {α : Type}

/-- Runs a job. -/
def job (j : Job α) : Run α := liftM (liftM j : StateT Shell Job α)

/-- Stops here. -/
def halt (h : Halt) : Run α := throw h

/-- Looks at the host. -/
def ask (f : Host → α) : Run α := job (Job.ask f)

/-- Writes to the standard error stream. -/
def complainPlainly (t : Text) : Run Unit := do
  let s ← get
  let _ ← job (s.process.put 2 (bytesOf t))

/-- Reports a failure. -/
def complain (message : Text) : Run Unit := do
  let s ← get
  let command := s.command.elim [] (· ++ ": ".toList)
  complainPlainly (s.name ++ ": ".toList ++ showNat s.line ++ ": ".toList ++ command ++ message ++ ['\n'])

/-- Keeps a text until the builtin command ends. -/
def print (t : Text) : Run Unit := modify fun s => { s with printed := t :: s.printed }

/-- Keeps a line until the builtin command ends. -/
def printLine (t : Text) : Run Unit := print (t ++ ['\n'])

/-- Writes what a builtin command has kept; a script that cannot write may end by a signal. -/
def flush : Run (Option Fault) := do
  let s ← get
  set { s with printed := [] }
  let data := bytesOf s.printed.reverse.flatten
  if data = [] then return none
  else
    match ← job (s.process.put 1 data) with
    | none => return none
    | some fault =>
      if s.process.diesOf fault then
        if (s.traps.lookup pipeSignal).isNone then halt (.ended (.killed pipeSignal))
        modify fun s => { s with pending := s.pending ++ [pipeSignal] }
      return some fault

/-- Reports a failure and stops; what a builtin command has kept is still written. -/
def fail (message : Text) : Run α := do
  complain message
  let _ ← flush
  modify fun s => { s with status := 2 }
  halt .failed

/-- Reports a word that is no number and stops. -/
def failNumber (t : Text) : Run α := fail ("Illegal number: ".toList ++ t)

/-- The count that a word spells. -/
def count (t : Text) : Run Nat :=
  match Numeral.count? t with
  | some n => return n
  | none => failNumber t

/-! ### Changing variables -/

/-- What follows from a new value of a variable. -/
def noteValue (name value : Text) : Run Unit := do
  if name = "OPTIND".toList then
    let n ← count value
    modify fun s => { s with place := { word := max n 1 } }
  else if name = "PATH".toList then modify fun s => { s with tracked := [] }

/-- The name of a variable, which goes up to a sign of equality; it must be a good one. -/
def goodName (t : Text) : Run Text := do
  let name := t.takeWhile (· ≠ '=')
  if isName name then return name else fail (name ++ ": bad variable name".toList)

/-- Sets a variable of any name, or declares it. -/
def declareAny (name : Text) (value : Option Text) (isExported isFixed : Bool) : Run Unit := do
  let s ← get
  let v := (s.named? name).getD { name }
  if v.isFixed then fail (name ++ ": is read only".toList)
  noteValue name (value.getD [])
  modify fun s => s.put { v with
    value := value
    isExported := v.isExported || isExported || (s.has 'a' && value.isSome)
    isFixed := isFixed }

/-- Sets a variable, or declares it. -/
def declare (name : Text) (value : Option Text) (isExported isFixed : Bool) : Run Unit := do
  declareAny (← goodName name) value isExported isFixed

/-- Sets a variable. -/
def assign (name value : Text) : Run Unit := declare name (some value) false false

/-- Takes a variable away. -/
def unset (t : Text) : Run Unit := do
  let name ← goodName t
  if ((← get).named? name).any (·.isFixed) then fail (name ++ ": is read only".toList)
  modify (·.drop name)

/-- The name and value of an assignment. -/
def splitAssignment (t : Text) : Text × Option Text :=
  match t.dropWhile (· ≠ '=') with
  | '=' :: value => (t.takeWhile (· ≠ '='), some value)
  | _ => (t, none)

/-- Keeps a variable for the end of the function, and sets it if there is a value. -/
def keep (t : Text) (isExported : Bool) : Run Unit := do
  let (name, value) := splitAssignment t
  let s ← get
  let kept : Kept := if t = ['-'] then .options s.options else .variable name (s.named? name)
  let add : Run Unit := modify fun s =>
    match s.saved with
    | first :: rest => { s with saved := (kept :: first) :: rest }
    | [] => s
  if t = ['-'] then add
  else
    if value.isSome then declareAny name value isExported false
    else if (s.named? name).isNone then declare name none isExported false
    add

/-- Puts back what the innermost function has kept. -/
def restore : Run Unit := do
  let s ← get
  set { s with saved := s.saved.tail }
  for kept in s.saved.headD [] do
    match kept with
    | .options letters => modify fun s => { s with options := letters }
    | .variable name (some v) =>
      noteValue name (v.value.getD [])
      modify (·.put v)
    | .variable name none =>
      let _ ← goodName name
      modify (·.drop name)

/-! ### Options -/

/-- The options by their names, with the letters of those that have one. -/
def optionNames : List (String × Char) :=
  [("errexit", 'e'), ("noglob", 'f'), ("ignoreeof", 'I'), ("interactive", 'i'), ("monitor", 'm'), ("noexec", 'n'),
    ("stdin", 's'), ("xtrace", 'x'), ("verbose", 'v'), ("vi", 'V'), ("emacs", 'E'), ("noclobber", 'C'),
    ("allexport", 'a'), ("notify", 'b'), ("nounset", 'u'), ("privileged", 'p'), ("nolog", '1'), ("debug", '2')]

/-- Turns the option of a letter on or off. -/
def setLetter (letter : Char) (isOn : Bool) : Run Unit :=
  if letter.isAlpha ∧ optionNames.any (·.2 = letter) then modify (·.setOption letter isOn)
  else fail ("Illegal option -".toList ++ [letter])

/-- Turns the option of a name on or off, or shows all options; they count as on while a script has not started. -/
def setNamed (atStart : Bool) (name : Option Text) (isOn : Bool) : Run Unit := do
  let s ← get
  let isSet (letter : Char) : Bool := atStart || s.has letter
  match name with
  | none =>
    if isOn then
      printLine "Current option settings".toList
      for (name, letter) in optionNames do
        let pad := List.replicate (16 - name.length) ' '
        printLine (name.toList ++ pad ++ (if isSet letter then "on" else "off").toList)
    else
      for (name, letter) in optionNames do
        printLine ((if isSet letter then "set -o " else "set +o ").toList ++ name.toList)
  | some name =>
    match optionNames.find? (·.1.toList = name) with
    | some (_, letter) => modify (·.setOption letter isOn)
    | none => fail ("Illegal option -o ".toList ++ name)

/-- The letters of the options that are on. -/
def optionLetters (s : Shell) : Text :=
  (optionNames.map (·.2)).reverse.filter fun c => c.isAlpha && s.has c

end Run

end PipeShell.Script
