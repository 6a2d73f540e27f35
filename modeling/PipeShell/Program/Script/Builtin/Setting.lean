import PipeShell.Program.Script.Builtin.Basic
import PipeShell.Program.Script.Field

/-!
# Builtin commands that change variables and parameters

`set`, `shift`, `export`, `readonly`, `local`, `unset`, `read`, `getopts`, `alias` and `unalias`.
-/

namespace PipeShell.Script.Builtin

/-! ### Variables -/

/-- Shows variables in the order of their names, each after a word. -/
def showVariables (word : Text) (shown : Variable → Bool) : Run Unit := do
  let s ← get
  for v in (s.vars.filter shown).mergeSort fun v w => compareText v.name w.name ≠ .gt do
    let value := v.value.elim [] fun t => '=' :: inSingleQuotes t
    Run.printLine ((if word = [] then [] else word ++ [' ']) ++ v.name ++ value)

/-- The command `export` or `readonly`. -/
def mark (command : Text) (words : List Text) : Run Nat := do
  let o ← options "p" words
  let isExport := command == "export".toList
  if o.has 'p' ∨ o.words = [] then
    showVariables command fun v => if isExport then v.isExported else v.isFixed
  else
    for w in o.words do
      let (name, value) := Run.splitAssignment w
      match value, (← get).named? name with
      | none, some v =>
        modify (·.put (if isExport then { v with isExported := true } else { v with isFixed := true }))
      | _, _ => Run.declare name value isExport (¬ isExport)
  return 0

/-- The command `local`. -/
def keepAll (words : List Text) : Run Nat := do
  if (← get).saved.isEmpty then Run.fail "not in a function".toList
  for w in words do Run.keep w false
  return 0

/-- The command `unset`. -/
def unset (words : List Text) : Run Nat := do
  let o ← options "vf" words
  for w in o.words do
    if o.last? = some 'f' then modify fun s => { s with functions := s.functions.filter (·.1 ≠ w) }
    else Run.unset w
  return 0

/-! ### Parameters and options -/

/-- What the options of `set`, or of the interpreter itself, say. -/
structure Settings where
  words : List Text
  /-- The first word is a script. -/
  hasScript : Bool := false
  /-- The words are the new parameters, even if there are none. -/
  replaces : Bool := false
  deriving DecidableEq, Inhabited

/-- Changes the options of the letters in a word; `words` are those after it. -/
def readSettingLetters (atStart isOn : Bool) (s : Settings) : Text → Run Settings
  | [] => return s
  | c :: rest => do
    if atStart ∧ c = 'c' then readSettingLetters atStart isOn { s with hasScript := true } rest
    else if atStart ∧ c = 'l' then readSettingLetters atStart isOn s rest
    else if c = 'o' then
      Run.setNamed atStart s.words.head? isOn
      readSettingLetters atStart isOn { s with words := s.words.tail } rest
    else
      Run.setLetter c isOn
      readSettingLetters atStart isOn s rest

/-- Changes options as the words in front say, with fuel for all words. -/
def readSettings (atStart : Bool) (fuel : Nat) (s : Settings) : Run Settings := do
  match fuel, s.words with
  | fuel + 1, (sign :: letters) :: rest =>
    let s := { s with words := rest }
    if sign = '-' ∧ letters = [] then
      if ¬ atStart then modify fun s => (s.setOption 'x' false).setOption 'v' false
      return s
    else if sign = '-' ∧ letters = ['-'] then return { s with replaces := true }
    else if sign = '-' ∨ sign = '+' then
      readSettings atStart fuel (← readSettingLetters atStart (sign = '-') s letters)
    else return { s with words := (sign :: letters) :: rest }
  | _, _ => return s

/-- Turns the control of jobs off again, which needs a terminal. -/
def refuseControl (isWanted : Bool) : Run Unit := do
  if isWanted then
    Run.complain "can't access tty; job control turned off".toList
    modify (·.setOption 'm' false)

/-- Makes words the parameters. -/
def setParameters (words : List Text) : Run Unit :=
  modify fun s => { s with parameters := words, place := {} }

/-- The command `set`. -/
def set (words : List Text) : Run Nat := do
  if words = [] then showVariables [] (·.value.isSome)
  else
    let s ← readSettings false (words.length + 1) { words }
    refuseControl ((← get).has 'm')
    if s.words ≠ [] ∨ s.replaces then setParameters s.words
  return 0

/-- The command `shift`. -/
def shift (words : List Text) : Run Nat := do
  let n ← words.head?.elim (pure 1) Run.count
  let s ← get
  if s.parameters.length < n then Run.fail "can't shift that many".toList
  setParameters (s.parameters.drop n)
  return 0

/-- The letters of options that are next among some words, and the number of the word after them. -/
def nextLetters (words : List Text) (place : OptionPlace) : Option (Text × OptionPlace) :=
  let current : Text := match place.offset with
    | some n => if place.word ≤ 1 then [] else (words.getD (place.word - 2) []).drop n
    | none => []
  if current ≠ [] then some (current, place)
  else
    match words[place.word - 1]? with
    | some ('-' :: c :: letters) =>
      if c = '-' ∧ letters = [] then none else some (c :: letters, { word := place.word + 1 })
    | _ => none

/-- The place after the last option among some words. -/
def placeAtEnd (words : List Text) (place : OptionPlace) : OptionPlace :=
  { word := if words[place.word - 1]? = some ['-', '-'] then place.word + 1 else place.word }

/-- The command `getopts`: takes the next option from some words. -/
def nextOption (words : List Text) : Run Nat := do
  let o ← options "" words
  match o.words with
  | known :: name :: rest =>
    let s ← get
    let words := if rest = [] then s.parameters else rest
    let place := if words.length + 1 < s.place.word then {} else s.place
    let isQuiet := known.head? == some ':'
    let argument := "OPTARG".toList
    let finish (place : OptionPlace) (letter : Char) (status : Nat) : Run Nat := do
      Run.assign "OPTIND".toList (showNat place.word)
      Run.assign name [letter]
      modify fun s => { s with place }
      return status
    let report (letter : Char) (message : String) : Run Unit := do
      if isQuiet then Run.assign argument [letter]
      else
        Run.complainPlainly (message.toList)
        Run.unset argument
    match nextLetters words place with
    | none => finish (placeAtEnd words place) '?' 1
    | some ([], _) => finish (placeAtEnd words place) '?' 1
    | some (c :: letters, place) =>
      let size := (words.getD (place.word - 2) []).length
      let here : OptionPlace := { place with offset := some (size - letters.length) }
      match takesValue? known c with
      | none =>
        report c ("Illegal option -" ++ String.ofList [c] ++ "\n")
        finish here '?' 0
      | some false =>
        Run.assign argument []
        finish here c 0
      | some true =>
        match letters, words[place.word - 1]? with
        | [], none =>
          report c ("No arg for -" ++ String.ofList [c] ++ " option\n")
          finish { word := place.word } (if isQuiet then ':' else '?') 0
        | [], some value =>
          Run.assign argument value
          finish { word := place.word + 1 } c 0
        | value, _ =>
          Run.assign argument value
          finish { word := place.word } c 0
  | _ => Run.fail "Usage: getopts optstring var [arg...]".toList

/-! ### `read` -/

/-- A line that is being read. -/
structure Line where
  cells : Expanded := {}
  /-- Where the region begins that has not ended. -/
  start : Nat := 0
  /-- The last character was a backslash. -/
  isEscaping : Bool := false
  deriving Inhabited

/-- The region ends here, and another one begins. -/
def Line.cutHere (l : Line) (stop : Nat) : Line :=
  { cells := { l.cells with regions := ⟨l.start, stop, false⟩ :: l.cells.regions }, start := l.cells.size }

/-- Takes in a character that does not end the line. -/
def Line.take (l : Line) (isRaw : Bool) (c : Char) : Line :=
  if c = border then l
  else if l.isEscaping then
    let stop := l.cells.size
    if c = '\n' then l.cutHere stop else { l with cells := l.cells.push (.plain c) }.cutHere stop
  else if ¬ isRaw ∧ c = '\\' then { l with isEscaping := true }
  else { l with cells := l.cells.push (.plain c) }

/-- Reads a line byte by byte; the flag says whether it has an end. -/
def readLine (fuel : Nat) (p : Process) (isRaw : Bool) (l : Line) : Job (Line × Bool) :=
  match fuel with
  | 0 => .done (l, false)
  | fuel + 1 => do
    match ← p.take 0 1 with
    | .ok (b :: _) =>
      let c := Char.ofNat b.toNat
      if c = '\n' ∧ ¬ l.isEscaping then return (l, true) else readLine fuel p isRaw (l.take isRaw c)
    | _ => return (l, false)

/-- The command `read`: puts the fields of a line into variables. -/
def read (words : List Text) : Run Nat := do
  let o ← options "p:r" words
  if o.words = [] then Run.fail "arg count".toList
  let s ← get
  let (l, isWhole) ← Run.job (readLine Job.longRun s.process (o.has 'r') {})
  let e := { l.cells with regions := ⟨l.start, l.cells.size, false⟩ :: l.cells.regions }
  let fields := e.fields s.separators (some o.words.length)
  for (name, i) in o.words.zipIdx do Run.assign name (Cell.text (fields.getD i []))
  return if isWhole then 0 else 1

/-! ### Aliases -/

/-- An alias in a line. -/
def showAlias (name value : Text) : Text := name ++ '=' :: inSingleQuotes value

/-- The command `alias`. -/
def setAliases (words : List Text) : Run Nat := do
  let s ← get
  if words = [] then
    for (name, value) in inTableOrder 39 Prod.fst s.aliases do Run.printLine (showAlias name value)
    return 0
  let mut status := 0
  for w in words do
    let name := w.take 1 ++ (w.drop 1).takeWhile (· ≠ '=')
    let s ← get
    match w.drop name.length with
    | '=' :: value =>
      modify fun s => { s with aliases := Variables.set s.aliases name value }
    | _ =>
      match s.aliases.lookup name with
      | some value => Run.printLine (showAlias name value)
      | none =>
        Run.complainPlainly ("alias: ".toList ++ w ++ " not found\n".toList)
        status := 1
  return status

/-- The command `unalias`. -/
def dropAliases (words : List Text) : Run Nat := do
  let o ← options "a" words
  if o.has 'a' then
    modify fun s => { s with aliases := [] }
    return 0
  let mut status := 0
  for w in o.words do
    if ((← get).aliases.lookup w).isNone then
      Run.complainPlainly ("unalias: ".toList ++ w ++ " not found\n".toList)
      status := 1
    modify fun s => { s with aliases := s.aliases.filter (·.1 ≠ w) }
  return status

end PipeShell.Script.Builtin
