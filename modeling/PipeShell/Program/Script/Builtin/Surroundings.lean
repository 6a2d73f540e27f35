import PipeShell.Program.Script.Builtin.Basic
import PipeShell.Program.Script.Condition
import PipeShell.Program.Script.Finding
import PipeShell.Program.Tool.Permission

/-!
# Builtin commands about the surroundings of a script

Its directory (`cd`, `pwd`), its permissions (`umask`), its signals (`trap`, `kill`), its programs (`hash`, `type`), its
limits and times, and the conditions of `test`.
-/

namespace PipeShell.Script.Builtin

/-! ### The directory -/

/-- The directory at a path, as it is written from another one: dots are followed on the text alone. -/
def writtenPath (base path : Text) : Text :=
  let isDouble := path.take 2 = ['/', '/'] ∧ path[2]? ≠ some '/'
  let start := if isAbsolute path then [] else (splitAt '/' base).filter (· ≠ [])
  let names := ((splitAt '/' path).filter (· ≠ [])).foldl (fun names name =>
    if name = ['.'] then names else if name = ['.', '.'] then names.dropLast else names ++ [name]) start
  let front : Text := if isDouble then ['/', '/'] else ['/']
  front ++ joinWith ['/'] names

/-- The directory at a path, as a location. -/
def directory? (s : Shell) (h : Host) (path : Text) : Option Location :=
  match h.tree.walk .use s.process.here (readBack path) with
  | .ok (.found l .directory) => some l
  | _ => none

/-- The path of a location, as it is spelled out. -/
def spelledPath (l : Location) : Text := spellOut l.path

/-- The option of `cd` and `pwd` that is in force: links are followed. -/
def isPhysical (o : Options) : Bool := o.last? == some 'P'

/-- Enters a directory. -/
def enter (physical : Bool) (shown path : Text) : Run Unit := do
  let s ← get
  let written := writtenPath s.directory path
  match ← Run.ask fun h => directory? s h (if physical then path else written) with
  | none => Run.fail ("can't cd to ".toList ++ shown)
  | some l =>
    let directory := if physical then spelledPath l else written
    Run.declare "OLDPWD".toList (some s.directory) true false
    modify fun s => { s with process := { s.process with here := l }, directory }
    Run.declare "PWD".toList (some directory) true false

/-- The path begins with one or two dots, so that it is not looked for elsewhere. -/
def isDotted (path : Text) : Bool :=
  match (splitAt '/' path).head? with
  | some name => name == ['.'] || name == ['.', '.']
  | none => false

/-- The command `cd`. -/
def changeDirectory (words : List Text) : Run Nat := do
  let o ← options "LP" words
  let s ← get
  let (target, isBack) : Text × Bool := match o.words with
    | [] => ((s.value? "HOME".toList).getD [], false)
    | ['-'] :: _ => ((s.value? "OLDPWD".toList).getD [], true)
    | w :: _ => (w, false)
  let physical := isPhysical o
  let shown ← if isAbsolute target ∨ isDotted target then do
      enter physical target target
      pure isBack
    else do
      let target := if target = [] then ['.'] else target
      let prefixes := (s.value? "CDPATH".toList).elim [[]] (splitAt ':')
      let paths : List (Text × Bool) := prefixes.map fun d => (if d = [] then target else d ++ '/' :: target, d ≠ [])
      match ← Run.ask fun h => paths.find? fun (path, _) => (directory? s h path).isSome with
      | some (path, isElsewhere) =>
        enter physical target path
        pure (isBack || isElsewhere)
      | none =>
        enter physical target target
        pure isBack
  if shown then Run.printLine (← get).directory
  return 0

/-- The command `pwd`. -/
def showDirectory (words : List Text) : Run Nat := do
  let o ← options "LP" words
  let s ← get
  Run.printLine (if isPhysical o then spelledPath s.process.here else s.directory)
  return 0

/-! ### Permissions and limits -/

/-- The permissions that a letter stands for, in one place of three; some stand for those that are there `before`. -/
def maskBits (before : Nat) : Char → Nat
  | 'r' => 4
  | 'w' => 2
  | 'x' => 1
  | 'u' => before / 64 % 8
  | 'g' => before / 8 % 8
  | 'o' => before % 8
  | 'X' => if before &&& 0o111 ≠ 0 then 1 else 0
  | _ => 0

/-- Changes permissions that are granted as a text says, with fuel for all of it; `places` are those that have been
named, and `before` is what was granted at first. -/
def grant? (before fuel granted places : Nat) (t : Text) : Option Nat :=
  match fuel, t with
  | _, [] => some granted
  | 0, _ => none
  | fuel + 1, t =>
    let who := t.takeWhile fun c => "augo".toList.contains c
    let place (c : Char) : Nat := if c = 'a' then 0o111 else if c = 'u' then 0o100 else if c = 'g' then 0o10 else 1
    let places := who.foldl (fun n c => n ||| place c) places
    let places := if places = 0 then 0o111 else places
    match t.drop who.length with
    | [] => some granted
    | sign :: rest =>
      let what := rest.takeWhile fun c => "rwxugoXs".toList.contains c
      let bits := (what.foldl (fun n c => n ||| maskBits before c) 0) * places
      let others := granted - (granted &&& places * 7)
      let granted? := if sign = '=' then some (others ||| bits)
        else if sign = '+' then some (granted ||| bits)
        else if sign = '-' then some (granted - (granted &&& bits))
        else none
      granted?.bind fun granted =>
        match rest.drop what.length with
        | ',' :: rest => grant? before fuel granted 0 rest
        | [] => some granted
        | c :: rest => if "=+-".toList.contains c then grant? before fuel granted places (c :: rest) else none

/-- The command `umask`. -/
def changeMask (words : List Text) : Run Nat := do
  let o ← options "S" words
  let mask := (← get).process.mask
  let change (mask : Nat) : Run Nat := do
    modify fun s => { s with process := { s.process with mask } }
    return 0
  match o.words with
  | [] =>
    let letters (shift : Nat) : Text :=
      let bits := (0o777 - mask) / Nat.pow 8 shift % 8
      ([(4, 'r'), (2, 'w'), (1, 'x')].filter fun (bit, _) => bits &&& bit ≠ 0).map (·.2)
    if o.has 'S' then
      Run.printLine ("u=".toList ++ letters 2 ++ ",g=".toList ++ letters 1 ++ ",o=".toList ++ letters 0)
    else Run.printLine (Tool.showOctal mask)
    return 0
  | w :: _ =>
    if w.head?.any Char.isDigit then
      if w.all isOctal then change (octalValue w &&& 0o777)
      else Run.failNumber w
    else
      match grant? (0o777 - mask) (w.length + 1) (0o777 - mask) 0 w with
      | some granted => change (0o777 - granted)
      | none => Run.fail ("Illegal mode: ".toList ++ w)

/-- The limits of processes: their letters, their names, and their values. -/
def limits : List (Char × String × String) :=
  [('t', "time(seconds)", "unlimited"), ('f', "file(blocks)", "unlimited"), ('d', "data(kbytes)", "unlimited"),
    ('s', "stack(kbytes)", "8192"), ('c', "coredump(blocks)", "0"), ('m', "memory(kbytes)", "unlimited"),
    ('l', "locked memory(kbytes)", "8192"), ('p', "process", "unlimited"), ('n', "nofiles", "20000"),
    ('v', "vmemory(kbytes)", "unlimited"), ('w', "locks", "unlimited"), ('r', "rtprio", "0")]

/-- The command `ulimit`; limits are shown and not changed. -/
def showLimit (words : List Text) : Run Nat := do
  let o ← options "HSatfdscmlpnvwr" words
  if o.has 'a' then
    for (_, name, value) in limits do
      Run.printLine (name.toList ++ List.replicate (20 - name.length) ' ' ++ ' ' :: value.toList)
  else if o.words = [] then
    let letter := ((o.given.map (·.1)).filter fun c => c ≠ 'H' ∧ c ≠ 'S').getLast?.getD 'f'
    Run.printLine ((limits.lookup letter).elim [] (·.2.toList))
  else if o.words ≠ ["unlimited".toList] ∧ ¬ (o.words.headD []).all Char.isDigit then Run.fail "bad number".toList
  return 0

/-- The command `times`. -/
def showTimes : Run Nat := do
  for _ in [0, 1] do Run.printLine "0m0.000000s 0m0.000000s".toList
  return 0

/-! ### Signals -/

/-- The command `trap`. -/
def trap (words : List Text) : Run Nat := do
  let o ← options "" words
  let s ← get
  match o.words with
  | [] =>
    for n in List.range Signal.limit do
      if let some action := s.traps.lookup n then
        Run.printLine ("trap -- ".toList ++ inSingleQuotes action ++ ' ' :: Signal.name n)
    return 0
  | first :: rest =>
    let resets := rest = [] ∨ (Signal.ofDigits? first).isSome
    let action := if resets ∨ first = ['-'] then none else some first
    let mut status := 0
    for w in if resets then o.words else rest do
      if status = 0 then
        match Signal.ofText? 0 w with
        | none =>
          Run.complainPlainly ("trap: ".toList ++ w ++ ": bad trap\n".toList)
          status := 1
        | some n =>
          modify fun s =>
            let others := s.traps.filter (·.1 ≠ n)
            { s with
              traps := action.elim others fun a => (n, a) :: others
              process := if s.deaf.contains n then s.process else { s.process with
                ignored := s.process.ignored.filter (· ≠ n) ++ if action = some [] then [n] else [] } }
    return status

/-- A signal comes to the script itself. -/
def receive (n : Nat) : Run Unit := do
  let s ← get
  if ¬ s.process.ignored.contains n then
    if (s.traps.lookup n).isSome then modify fun s => { s with pending := s.pending ++ [n] }
    else if Signal.isDeadly n then Run.halt (.ended (.killed n))

/-! ### Programs -/

/-- The command `hash`. -/
def hash (words : List Text) : Run Nat := do
  let o ← options "r" words
  if o.has 'r' then
    modify fun s => { s with tracked := [] }
    return 0
  else if o.words = [] then
    for (_, file) in inTableOrder 31 Prod.fst (← get).tracked do Run.printLine file
    return 0
  else
    let mut status := 0
    for w in o.words do
      modify fun s => { s with tracked := s.tracked.filter (·.1 ≠ w) }
      if let .unknown ← Run.find w false true none then status := 1
    return status

/-- The command `type`. -/
def describeAll (words : List Text) : Run Nat := do
  let mut status := 0
  for w in words do status := status ||| (← Run.describe w none true)
  return status

/-- The command `command` with options that ask what a name stands for. -/
def describeOne (words : List Text) : Run Nat := do
  let o ← options "pvV" words
  let path := if o.has 'p' then some Shell.standardPath else none
  match o.words with
  | name :: _ => if o.has 'v' ∨ o.has 'V' then Run.describe name path (o.has 'V') else return 0
  | [] => return 0

/-- The commands `test` and `[`. -/
def test (name : Text) (words : List Text) : Run Nat := do
  let s ← get
  if name = ['['] ∧ (words.getLast?.bind List.head?) ≠ some ']' then Run.fail "missing ]".toList
  let ws := if name = ['['] then words.dropLast else words
  match ← Run.ask fun h => Condition.eval s.process h false ws with
  | .ok value => return if value then 0 else 1
  | .error message => Run.fail message

end PipeShell.Script.Builtin
