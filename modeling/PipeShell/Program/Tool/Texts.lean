import PipeShell.Program.Directive
import PipeShell.Program.Escape
import PipeShell.Program.Tool.Help
import PipeShell.Program.Tool.Options

/-!
# Tools that write texts

`true` and `false`, `yes`, `echo`, `printf`, `pwd` and `env`.
-/

namespace PipeShell.Tool

/-! ### `true` and `false` -/

/-- Ends with a code; a single word can ask for an explanation, and a fault in its output is ignored. -/
def constant (code : Nat) (help : List String) : Program := fun p =>
  if p.words = ["--help".toList] then do
    let text := help.flatMap fun line => line.toList.flatMap (fun c => if c = '@' then p.name else [c]) ++ ['\n']
    match ← p.put 1 (bytesOf text) with
    | some fault => if p.diesOf fault then return .killed pipeSignal else return .exited code
    | none => return .exited code
  else .done (.exited code)

/-- The tool `true`. -/
def succeed : Program := constant 0 Help.succeed

/-- The tool `false`. -/
def fail : Program := constant 1 Help.fail

/-! ### `yes` -/

/-- Writes the same bytes for ever. -/
def repeatOutput (p : Process) (data : Bytes) (rounds : Nat) : Work Nat :=
  match rounds with
  | 0 => return 0
  | rounds + 1 => do
    p.emitOr 1 (fun fault => "standard output: ".toList ++ fault.reason) data
    repeatOutput p data rounds

def yesOptions : OptionTable where
  ordered := true
  help := Help.yes

/-- The tool `yes`. -/
def yes : Program := fun p => yesOptions.apply p () (fun _ _ _ => return ()) fun _ operands =>
  let line := bytesOf (joinWith [' '] (if operands = [] then [['y']] else operands) ++ ['\n'])
  let times := max 1 (2 * Job.blockSize / line.length)
  repeatOutput p (List.replicate times line).flatten Job.longRun

/-! ### `echo` -/

/-- A word with options of `echo`. -/
def isEchoOption (w : Text) : Bool :=
  match w with
  | '-' :: letters => letters ≠ [] && letters.all fun c => "neE".toList.contains c
  | _ => false

/-- The escapes in words and formats. -/
def escapes : Escape.Style :=
  { letters := ('e', '\x1b') :: ('"', '"') :: ({} : Escape.Style).letters, hex := true }

/-- The words in a line; `-n` leaves it open, and `-e` resolves escapes. -/
def echo : Program := fun p => Work.job do
  let options := (p.words.takeWhile isEchoOption).flatMap List.tail
  let line := joinWith [' '] (p.words.dropWhile isEchoOption)
  let isEscaped := (options.filter (· ≠ 'n')).getLast? == some 'e'
  let (text, more) := if isEscaped then Escape.resolve escapes 0 line else (line, true)
  p.emit (bytesOf (if more ∧ ¬ options.contains 'n' then text ++ ['\n'] else text))
  return 0

/-! ### `printf` -/

/-- What has been written so far. -/
structure Printed where
  text : Text := []
  /-- The operands that have not been written. -/
  operands : List Text := []
  /-- Reports about operands. -/
  reports : List Text := []
  /-- The report that ends the tool. -/
  mistake : Option Text := none
  stopped : Bool := false
  deriving Inhabited

namespace Printed

/-- Reads a directive after its percent sign, and what follows it; operands may give its width and precision. -/
def readDirective (t : Text) (operands : List Text) : Directive × Text × List Text :=
  let flags := t.takeWhile fun c => "-+ #0'".toList.contains c
  let amount (t : Text) (operands : List Text) : Nat × Text × List Text :=
    match t with
    | '*' :: rest => (digitsValue ((operands.headD []).takeWhile Char.isDigit), rest, operands.tail)
    | _ => (digitsValue (t.takeWhile Char.isDigit), t.dropWhile Char.isDigit, operands)
  let (width, t, operands) := amount (t.drop flags.length) operands
  let (precision, t, operands) : Option Nat × Text × List Text := match t with
    | '.' :: rest =>
      let (n, t, operands) := amount rest operands
      (some n, t, operands)
    | _ => (none, t, operands)
  let t := t.dropWhile fun c => "hlLjzt".toList.contains c
  (⟨flags, width, precision, t.headD ' '⟩, t.tail, operands)

/-- The value of a digit in a base up to sixteen. -/
def digitIn? (base : Nat) (c : Char) : Option Nat := (Escape.hexDigit? c).filter (· < base)

/-- The number that an operand spells, and what is left of it; a quote in front asks for the number of a character. -/
def wholeNumber (t : Text) : Int × Text :=
  match t with
  | '\'' :: c :: rest | '"' :: c :: rest => (c.toNat, rest)
  | _ =>
    let body := t.dropWhile isSpaceChar
    let (negative, body) : Bool × Text := match body with
      | '-' :: rest => (true, rest)
      | '+' :: rest => (false, rest)
      | rest => (false, rest)
    let (base, body) : Nat × Text := match body with
      | '0' :: x :: d :: rest =>
        if (x = 'x' ∨ x = 'X') ∧ (digitIn? 16 d).isSome then (16, d :: rest) else (8, body)
      | '0' :: _ => (8, body)
      | _ => (10, body)
    let digits := body.takeWhile fun c => (digitIn? base c).isSome
    let value : Int := digits.foldl (fun n c => n * base + (digitIn? base c).getD 0) 0
    if digits = [] then (0, t) else (if negative then -value else value, body.drop digits.length)

/-- Writes the first operand. -/
def apply (s : Printed) (d : Directive) : Printed :=
  let operand := s.operands.headD []
  let s := { s with operands := s.operands.tail }
  let add (t : Text) : Printed := { s with text := s.text ++ t }
  match d.conversion with
  | 's' => add (d.text operand)
  | 'c' => add (d.pad (operand.take 1))
  | 'b' =>
    let (t, more) := Escape.resolve escapes 0 operand
    { add (d.text t) with stopped := ¬ more }
  | c =>
    if "diouxX".toList.contains c then
      let (n, rest) := wholeNumber operand
      let report := if rest = [] then []
        else if rest = operand then [Quoting.shellQuoted operand ++ ": expected a numeric value".toList]
        else [Quoting.shellQuoted operand ++ ": value not completely converted".toList]
      { add (d.number n) with reports := s.reports ++ report }
    else add (d.real (General.ofText operand))

/-- Writes a format once; operands that are missing are empty. -/
def fill (fuel : Nat) (format : Text) (s : Printed) : Printed :=
  match fuel with
  | 0 => s
  | fuel + 1 =>
    if s.stopped ∨ s.mistake.isSome then s
    else
      let add (t : Text) : Printed := { s with text := s.text ++ t }
      match format with
      | [] => s
      | '%' :: '%' :: rest => fill fuel rest (add ['%'])
      | '%' :: rest =>
        let (d, after, operands) := readDirective rest s.operands
        if "sbcdiouxXfFeEgG".toList.contains d.conversion then fill fuel after ({ s with operands }.apply d)
        else
          { s with mistake := some ('%' :: rest.take (rest.length - after.length) ++
              ": invalid conversion specification".toList) }
      | '\\' :: 'c' :: _ => { s with stopped := true }
      | '\\' :: rest =>
        match Escape.one? escapes rest with
        | some (c, n) => fill fuel (rest.drop n) (add [c])
        | none => fill fuel rest (add ['\\'])
      | c :: rest => fill fuel rest (add [c])

/-- Writes a format until all operands are used up; a format without directives is written once. -/
def fillAll (rounds : Nat) (format : Text) (s : Printed) : Printed :=
  match rounds with
  | 0 => s
  | rounds + 1 =>
    let s' := fill (format.length + 1) format s
    if s'.stopped ∨ s'.mistake.isSome ∨ s'.operands = [] ∨ s'.operands.length = s.operands.length then s'
    else fillAll rounds format s'

end Printed

def printfOptions : OptionTable where
  ordered := true

/-- The tool `printf`. -/
def printf : Program := fun p => Work.job do
  let words := if p.words.head? = some ['-', '-'] then p.words.tail else p.words
  match words with
  | [] => printfOptions.advise p "missing operand".toList
  | format :: operands =>
    let s := Printed.fillAll (operands.length + 1) format { operands }
    for report in s.reports do p.complain report
    p.emit (bytesOf s.text)
    match s.mistake with
    | some message => p.die 1 message
    | none =>
      if s.operands.length = operands.length ∧ operands ≠ [] ∧ ¬ s.stopped then
        p.complain ("warning: ignoring excess arguments, starting with ".toList ++
          Quoting.quoted (operands.headD []))
      return if s.reports = [] then 0 else 1

/-! ### `pwd` and `env` -/

/-- The directory that the process runs in. -/
def pwd : Program := fun p => Work.job do
  p.emit (bytesOf (spellOut p.here.path ++ ['\n']))
  return 0

/-- The variables of the process, or the values of those that are named. -/
def env : Program := fun p => Work.job do
  match p.words with
  | [] =>
    p.emit (bytesOf (p.vars.flatMap fun (n, v) => n ++ '=' :: v ++ ['\n']))
    return 0
  | names =>
    p.emit (bytesOf (names.flatMap fun n => (p.vars.lookup n).elim [] (· ++ ['\n'])))
    return if names.all fun n => (p.vars.lookup n).isSome then 0 else 1

end PipeShell.Tool
