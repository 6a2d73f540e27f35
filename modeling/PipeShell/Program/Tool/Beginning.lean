import PipeShell.Program.Tool.Amount
import PipeShell.Program.Tool.Help
import PipeShell.Program.Tool.Options

/-!
# Beginnings of files

The tool `head`: it shows the first lines or bytes of files, or all but the last ones.  Of an open file it takes no
more than it shows.
-/

namespace PipeShell.Tool

/-- What `head` shows, and how. -/
structure Beginning where
  amount : Nat := 10
  inBytes : Bool := false
  /-- The amount is left out at the end. -/
  fromEnd : Bool := false
  /-- Whether titles are shown, if the words say so. -/
  titled : Option Bool := none
  /-- The byte that ends a line. -/
  lineEnd : UInt8 := 10
  deriving Inhabited

namespace Beginning

/-- The number of bytes in the first `n` lines, and the number of lines that are missing. -/
def linesSize (lineEnd : UInt8) (n size : Nat) : Bytes → Nat × Nat
  | [] => (size, n)
  | b :: rest =>
    match n with
    | 0 => (size, 0)
    | n + 1 => if b = lineEnd then linesSize lineEnd n (size + 1) rest else linesSize lineEnd (n + 1) (size + 1) rest

/-- The bytes without the last `n` lines; the last one may lack its end. -/
def withoutLastLines (lineEnd : UInt8) (n : Nat) (b : Bytes) : Bytes :=
  let ended := b.count lineEnd
  let total := if b.getLast?.all (· = lineEnd) then ended else ended + 1
  if n = 0 then b else b.take (linesSize lineEnd (total - n) 0 b).1

/-- Shows the input up to the amount. -/
def showFirst (o : Beginning) (p : Process) (wire : Wire) (rounds missing : Nat) : Work (Option Fault) :=
  match rounds with
  | 0 => return none
  | rounds + 1 => do
    if missing = 0 then return none
    match ← Job.take wire (if o.inBytes then min missing 8192 else 8192) with
    | .error fault => return some fault
    | .ok [] => return none
    | .ok b =>
      let (size, missing) := if o.inBytes then (b.length, missing - b.length) else linesSize o.lineEnd missing 0 b
      Process.giveBack wire (b.length - size)
      p.emitOr 1 writingError (b.take size)
      showFirst o p wire rounds missing
where
  writingError (fault : Fault) : Text := "error writing 'standard output': ".toList ++ fault.reason

/-- Shows what comes from a wire. -/
def showWire (o : Beginning) (p : Process) (wire : Wire) : Work (Option Fault) := do
  if ¬ o.fromEnd then o.showFirst p wire Job.longRun o.amount
  else
    match ← Process.readAll wire with
    | .error fault => return some fault
    | .ok b =>
      p.emitOr 1 showFirst.writingError
        (if o.inBytes then b.take (b.length - o.amount) else withoutLastLines o.lineEnd o.amount b)
      return none

/-- Shows a file, or the input for a dash.  The flags say that a title has been shown before, and that all went
well. -/
def showFile (o : Beginning) (p : Process) (titled hasTitle : Bool) (file : Text) : Work (Bool × Bool) := do
  let opened ← if file = ['-'] then pure ((p.wires.lookup 0).elim (.error Job.closed) .ok) else p.openForReading file
  let name := if file = ['-'] then "standard input".toList else file
  let shown := Quoting.shellQuoted name
  let title := if titled then (if hasTitle then ['\n'] else []) ++ "==> ".toList ++ name ++ " <==\n".toList else []
  match opened, file with
  | .ok wire, _ =>
    p.emitOr 1 showFirst.writingError (bytesOf title)
    match ← o.showWire p wire with
    | none => return (true, true)
    | some fault =>
      p.complain ("error reading ".toList ++ shown ++ ": ".toList ++ fault.reason)
      return (true, false)
  | .error fault, ['-'] =>
    p.emitOr 1 showFirst.writingError (bytesOf title)
    if o.amount = 0 then return (true, true)
    else
      p.complain ("error reading ".toList ++ shown ++ ": ".toList ++ fault.reason)
      return (true, false)
  | .error fault, _ =>
    p.complain ("cannot open ".toList ++ shown ++ " for reading: ".toList ++ fault.reason)
    return (hasTitle, false)

/-- Shows files one after the other. -/
def showFiles (o : Beginning) (p : Process) (titled hasTitle : Bool) (code : Nat) : List Text → Work Nat
  | [] => return code
  | file :: files => do
    let (hasTitle, isFine) ← o.showFile p titled hasTitle file
    showFiles o p titled hasTitle (if isFine then code else 1) files

/-- The amount that a word spells. -/
def readAmount (p : Process) (inBytes : Bool) (t : Text) : Work Nat :=
  let blame (reason : Text) : Work Nat :=
    let what := if inBytes then "invalid number of bytes: " else "invalid number of lines: "
    p.die 1 (what.toList ++ Quoting.quoted t ++ reason)
  match amount? "bkKmMGTPEZYRQ" t with
  | .ok n => return n
  | .error .invalid => blame []
  | .error .tooLarge => blame ": Value too large for defined data type".toList

def options : OptionTable where
  letters := "qvz0123456789"
  valued := "nc"
  names := [⟨"bytes", "c", .value⟩, ⟨"lines", "n", .value⟩, ⟨"quiet", "q", .nothing⟩, ⟨"silent", "q", .nothing⟩,
    ⟨"verbose", "v", .nothing⟩, ⟨"zero-terminated", "z", .nothing⟩]
  help := Help.head

/-- Refuses a letter after digits. -/
def refuse {α : Type} (p : Process) (letter : Text) : Work α :=
  options.advise p ("invalid trailing option -- ".toList ++ letter)

/-- Takes in an option. -/
def take (p : Process) (o : Beginning) (key : String) (value : Text) : Work Beginning := do
  let amount (inBytes : Bool) : Work Beginning := do
    let (fromEnd, t) : Bool × Text := match value with
      | '-' :: rest => (true, rest)
      | rest => (false, rest)
    return { o with amount := ← readAmount p inBytes t, inBytes, fromEnd }
  match key with
  | "c" => amount true
  | "n" => amount false
  | "q" => return { o with titled := some false }
  | "v" => return { o with titled := some true }
  | "z" => return { o with lineEnd := 0 }
  | key => refuse p key.toList

/-- Takes in the letters after the digits of a first word such as `-5k`; one of them may be a unit. -/
def takeTrailing (p : Process) (o : Beginning) (unit : Text) : Text → Work (Beginning × Text)
  | [] => return (o, unit)
  | c :: rest =>
    match c with
    | 'c' => takeTrailing p { o with inBytes := true } [] rest
    | 'b' | 'k' | 'm' => takeTrailing p { o with inBytes := true } [c] rest
    | 'l' => takeTrailing p { o with inBytes := false } unit rest
    | 'q' => takeTrailing p { o with titled := some false } unit rest
    | 'v' => takeTrailing p { o with titled := some true } unit rest
    | 'z' => takeTrailing p { o with lineEnd := 0 } unit rest
    | c => refuse p [c]

/-- Takes in a first word such as `-5k`, and gives the words that are left. -/
def takeFirst (p : Process) : Work (Beginning × List Text) :=
  match p.words with
  | ('-' :: c :: rest) :: words =>
    if c.isDigit then do
      let digits := (c :: rest).takeWhile Char.isDigit
      let (o, unit) ← takeTrailing p {} [] ((c :: rest).drop digits.length)
      return ({ o with amount := ← readAmount p o.inBytes (digits ++ unit) }, words)
    else return ({}, p.words)
  | words => return ({}, words)

end Beginning

/-- The tool `head`. -/
def head : Program := Process.buffered 1 fun p => Work.job do
  let (start, words) ← Beginning.takeFirst p
  let items := Beginning.options.items p words
  let o ← Beginning.options.settle p (Beginning.take p) start items
  if o.inBytes ∧ o.fromEnd ∧ Nat.pow 2 63 ≤ o.amount then
    p.die 1 ("invalid number of bytes: ".toList ++ Quoting.quoted (showNat o.amount) ++
      ": Value too large for defined data type".toList)
  else
    let files := inputsOf (items.filterMap fun
      | .operand w => some w
      | _ => none)
    let code ← o.showFiles p (o.titled.getD (1 < files.length)) false 0 files
    if files.contains ['-'] ∧ (p.wires.lookup 0).isNone then p.die 1 ("-: ".toList ++ Fault.reason Job.closed)
    else return code

end PipeShell.Tool
