import PipeShell.Program.Directive
import PipeShell.Program.Script.Field
import PipeShell.Program.Script.Shell

/-!
# Builtin commands that write texts

`echo` and `printf`.  Both understand escapes, and `printf` fills values into a format, over and over until all of its
words are used up.
-/

namespace PipeShell.Script.Builtin

open Tool (General)

/-- The escapes in words and formats. -/
def escapes : Escape.Style := { letters := ('e', '\x1b') :: ({} : Escape.Style).letters }

/-- Writes words in a line, up to an escape that ends the output. -/
def echoWords (isOpen : Bool) : List Text → Text
  | [] => if isOpen then [] else ['\n']
  | w :: ws =>
    match Escape.resolve escapes 0 w with
    | (t, false) => t
    | (t, true) => if ws = [] then t ++ echoWords isOpen [] else t ++ ' ' :: echoWords isOpen ws

/-- The command `echo`; `-n` leaves the line open. -/
def echo (words : List Text) : Run Nat := do
  let isOpen := words.head? == some ['-', 'n']
  Run.print (echoWords isOpen (if isOpen then words.tail else words))
  return 0

/-! ### `printf` -/

/-- The part of a text that a number with a point takes. -/
def realLength (t : Text) : Nat :=
  let blanks := t.takeWhile isBlank
  let (_, body) := Numeral.splitSign (t.drop blanks.length)
  let sign := t.length - blanks.length - body.length
  let lower := body.map Char.toLower
  let isHex (c : Char) : Bool := (Escape.hexDigit? c).isSome
  let exponent (letter : Char) (t : Text) : Nat :=
    match t with
    | c :: rest =>
      let (_, digits) := Numeral.splitSign rest
      let count := (digits.takeWhile Char.isDigit).length
      if c.toLower = letter ∧ count ≠ 0 then 1 + (rest.length - digits.length) + count else 0
    | [] => 0
  let digits (isDigit : Char → Bool) (letter : Char) (t : Text) : Nat :=
    let whole := (t.takeWhile isDigit).length
    let (point, part) : Nat × Nat := match t.drop whole with
      | '.' :: rest => (1, (rest.takeWhile isDigit).length)
      | _ => (0, 0)
    if whole + part = 0 then 0 else whole + point + part + exponent letter (t.drop (whole + point + part))
  let size :=
    if "infinity".toList.isPrefixOf lower then 8
    else if "inf".toList.isPrefixOf lower ∨ "nan".toList.isPrefixOf lower then 3
    else if "0x".toList.isPrefixOf lower ∧ digits isHex 'p' (body.drop 2) ≠ 0 then 2 + digits isHex 'p' (body.drop 2)
    else digits Char.isDigit 'e' body
  if size = 0 then 0 else blanks.length + sign + size

/-- What `printf` has done so far. -/
structure Filling where
  words : List Text
  /-- Some word was no number. -/
  hasFailed : Bool := false
  /-- An escape has ended the output. -/
  isOver : Bool := false
  deriving Inhabited

/-- A part of the work of `printf`. -/
abbrev Fill := StateT Filling Run

namespace Fill

/-- The next word; an empty one if there is none. -/
def word : Fill (Option Text) := modifyGet fun s => (s.words.head?, { s with words := s.words.tail })

/-- Reports a word that is not a number as a whole. -/
def check (word rest : Text) (isTooLarge : Bool) : Fill Unit := do
  let report : Option String :=
    if rest = word ∧ rest ≠ [] then some ": expected numeric value"
    else if rest ≠ [] then some ": not completely converted"
    else if isTooLarge then some ": Numerical result out of range"
    else none
  if let some message := report then
    (Run.complain (word ++ message.toList) : Run Unit)
    modify fun s => { s with hasFailed := true }

/-- The number of the character after a quote. -/
def quoted? (t : Text) : Option Nat :=
  match t with
  | '\'' :: rest | '"' :: rest => some ((rest.headD border).toNat)
  | _ => none

/-- The next word as a whole number. -/
def number (isSigned : Bool) : Fill Int := do
  match ← word with
  | none => return 0
  | some t =>
    match quoted? t with
    | some n => return n
    | none =>
      let n := Numeral.read true isSigned t
      check t n.rest n.isTooLarge
      return n.value

/-- The next word as a number with a point. -/
def real : Fill General := do
  match ← word with
  | none => return .missing
  | some t =>
    match quoted? t with
    | some n => return .finite ⟨n, 0⟩
    | none =>
      let size := realLength t
      let isWord := (t.take size).any fun c => c == 'n' || c == 'N'
      let value := General.ofText t
      let isTooLarge : Bool := match value with
        | .finite d => (Directive.toBinary? d.digits.natAbs (Nat.pow 10 d.places)).isNone
        | .missing | .notANumber => false
        | .lowest | .highest => !isWord
      check t (t.drop size) isTooLarge
      return value

/-- Reads a directive after its percent sign.  The result has what follows its last letter, which may be missing. -/
def directive (t : Text) : Fill (Directive × Option Char × Text) := do
  let flags := t.takeWhile fun c => "#-+ 0".toList.contains c
  let amount (t : Text) : Fill (Option Int × Text) := do
    match t with
    | '*' :: rest => return (some (← number true), rest)
    | _ =>
      let digits := t.takeWhile Char.isDigit
      return (some (digits.foldl (fun n c => n * 10 + (c.toNat - 48)) 0 : Nat), t.drop digits.length)
  let (width, t) ← amount (t.drop flags.length)
  let width := width.getD 0
  let (precision, t) ← match t with
    | '.' :: rest => amount rest
    | _ => pure (none, t)
  let d : Directive := {
    flags := if width < 0 then '-' :: flags else flags
    width := width.natAbs
    precision := precision.bind fun n => if n < 0 then none else some n.toNat
    conversion := t.headD ' ' }
  return (d, t.head?, t.tail)

/-- Writes the next word as a directive says; `spelling` is how the format spells it. -/
def apply (d : Directive) (spelling : Text) : Fill Unit := do
  let c := d.conversion
  let print (t : Text) : Fill Unit := (Run.print t : Run Unit)
  if c = 's' then print (d.text ((← word).getD []))
  else if c = 'c' then print (d.pad [((← word).getD []).headD border])
  else if c = 'b' then
    let (t, more) := Escape.resolve escapes 0 ((← word).getD [])
    print (d.text t)
    modify fun s => { s with isOver := ¬ more }
  else if c = 'd' ∨ c = 'i' then print (d.number (← number true))
  else if "ouxX".toList.contains c then print (d.number (← number false))
  else if "aAeEfFgG".toList.contains c then print (d.real (← real))
  else (Run.fail (spelling ++ ": invalid directive".toList) : Run Unit)

/-- Writes a format once. -/
def once (fuel : Nat) (format : Text) : Fill Unit := do
  let print (t : Text) : Fill Unit := (Run.print t : Run Unit)
  match fuel with
  | 0 => return
  | fuel + 1 =>
    if (← get).isOver then return
    match format with
    | [] => return
    | '%' :: '%' :: rest =>
      print ['%']
      once fuel rest
    | '%' :: rest =>
      let (d, letter, after) ← directive rest
      if letter.isNone then (Run.fail "missing format character".toList : Run Unit)
      apply d ('%' :: rest.take (rest.length - after.length))
      once fuel after
    | '\\' :: rest =>
      match Escape.one? escapes rest with
      | some (c, n) =>
        print [c]
        once fuel (rest.drop n)
      | none =>
        print ['\\']
        once fuel rest
    | c :: rest =>
      let plain := rest.takeWhile fun c => c ≠ '%' ∧ c ≠ '\\'
      print (c :: plain)
      once fuel (rest.drop plain.length)

/-- Writes a format until all words are used up; a format without directives is written once. -/
def all (rounds : Nat) (format : Text) : Fill Unit := do
  match rounds with
  | 0 => return
  | rounds + 1 =>
    let before := (← get).words.length
    once (format.length + 1) format
    let s ← get
    if ¬ s.isOver ∧ s.words ≠ [] ∧ s.words.length ≠ before then all rounds format

end Fill

end PipeShell.Script.Builtin
