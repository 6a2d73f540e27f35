import PipeShell.Program.Script.Arithmetic
import PipeShell.Program.Script.Field
import PipeShell.Program.Script.Pattern
import PipeShell.Program.Script.Shell

/-!
# Expanding words

A word becomes a row of cells, part by part, and then a text or several fields.  Values of parameters, the output of
scripts, and numbers can be split into fields, unless they stand in quotes.  `Substitute` runs a script for its output;
words inside braces are expanded with less fuel than the words around them.
-/

namespace PipeShell.Script

/-- How the output of a script is found. -/
abbrev Substitute := Node → Run Text

/-- How a word is expanded. -/
structure Mode where
  /-- The word becomes fields. -/
  splits : Bool := false
  /-- A tilde in front stands for a directory. -/
  tilde : Bool := false
  /-- So does a tilde after a colon, or after the first sign of an assignment. -/
  tildes : Bool := false
  isQuoted : Bool := false
  /-- The word stands in for a value, so that its plain characters can be split. -/
  standsIn : Bool := false
  deriving DecidableEq, Inhabited

/-- How a row of parts is expanded. -/
abbrev ExpandParts := Mode → List Part → Expanded → Run Expanded

namespace Expand

/-- The directory that a name after a tilde stands for. -/
def home? (s : Shell) (name : Text) : Option Text :=
  if name = [] then s.value? "HOME".toList
  else if name = "root".toList then some "/root".toList
  else none

/-- The name after a tilde, and the parts after it. -/
def tildeName? (inAssignment : Bool) : List Part → Option (Text × List Part)
  | [] => some ([], [])
  | .char c :: rest =>
    if c = '/' ∨ (c = ':' ∧ inAssignment) then some ([], .char c :: rest)
    else (tildeName? inAssignment rest).map fun (name, rest) => (c :: name, rest)
  | _ :: _ => none

/-- Texts with a separator between them, as cells. -/
def joinTexts (isQuoted : Bool) (separator : Option Char) : List Text → List Cell
  | [] => []
  | [t] => Cell.ofText isQuoted t
  | t :: ts => Cell.ofText isQuoted (t ++ separator.toList) ++ joinTexts isQuoted separator ts

/-- The value of a parameter. -/
def value? (m : Mode) (s : Shell) (name : Text) : Option (List Cell) :=
  let cells (t : Text) : List Cell := Cell.ofText m.isQuoted t
  let number (n : Nat) : Option (List Cell) := some (cells (showNat n))
  let separators := (s.value? "IFS".toList)
  let all (isStar : Bool) : Option (List Cell) :=
    let separator : Option Char :=
      if m.splits ∧ m.isQuoted ∧ ¬ isStar then some border
      else
        match separators with
        | none => some ' '
        | some t => if m.splits ∧ ¬ m.isQuoted then some border else t.head?
    some (joinTexts m.isQuoted separator s.parameters)
  match name with
  | ['$'] => number s.root
  | ['?'] => number s.status
  | ['#'] => number s.parameters.length
  | ['!'] => s.lastBackground.bind number
  | ['-'] => some (cells (Run.optionLetters s))
  | ['@'] => all false
  | ['*'] => all true
  | _ =>
    if name.head?.any Char.isDigit then
      let n := name.foldl (fun n c => n * 10 + (c.toNat - 48)) 0
      if n = 0 then some (cells s.name) else (s.parameters[n - 1]?).map cells
    else (s.value? name).map cells

/-- The parameter has no value. -/
def failUnset {α : Type} (name message : Text) : Run α := Run.fail (name ++ ": ".toList ++ message)

/-- The cells in front of the first border. -/
def beforeBorder (cells : List Cell) : List Cell := cells.takeWhile (· ≠ .plain border)

/-- What is left of cells when the part that fits a pattern is cut off.  A pattern fits no borders.  What is cut off at
the start is looked for in the first parameter; with the end of a parameter, all that follows goes too. -/
def cut (pattern : Text) (atStart longest : Bool) (cells : List Cell) : List Cell :=
  let places := List.range (cells.length + 1)
  let places := if atStart = longest then places.reverse else places.take ((beforeBorder cells).length + 1)
  let part (n : Nat) : List Cell := if atStart then cells.take n else cells.drop n
  match places.find? fun n => Pattern.fits pattern (Cell.text (beforeBorder (part n))) with
  | some n => if atStart then cells.drop n else cells.take n
  | none => cells

/-- Adds a value, which can be split unless it stands in quotes.  In quotes, only the borders between all parameters
count. -/
def pushValue (m : Mode) (s : Shell) (name : Text) (cells : List Cell) (e : Expanded) : Expanded :=
  let start := e.size
  let e := e.pushAll cells
  if ¬ m.isQuoted then e.mark start false
  else if name = ['@'] ∧ s.parameters ≠ [] then e.mark start true
  else e

/-- Expands a parameter. -/
def parameter (expand : ExpandParts) (m : Mode) (name : Text) (modifier : Modifier) (emptyToo : Bool) (word : Word)
    (e : Expanded) : Run Expanded := do
  let s ← get
  if modifier = .malformed then Run.fail "Bad substitution".toList
  let value := (value? m s name).filter fun cells => ¬ (emptyToo ∧ cells.isEmpty)
  let demanded : Run (List Cell) := do
    match value with
    | some cells => return cells
    | none => if s.has 'u' then failUnset name "parameter not set".toList else return []
  let standIn : Run Expanded := expand { m with tilde := true, standsIn := true } word e
  let alone (m : Mode) : Run Expanded := expand m word {}
  match modifier, value with
  | .alternative, some _ => standIn
  | .alternative, none => return pushValue m s name [] e
  | .default, none => standIn
  | .assign, none =>
    let text := (← alone { tilde := true }).text
    Run.assign name text
    let s ← get
    return pushValue m s name ((value? m s name).getD []) e
  | .demand, none =>
    let message := (← alone { tilde := true }).text
    let standard := "parameter not set".toList ++ if emptyToo then " or null".toList else []
    failUnset name (if word.isEmpty then standard else message)
  | .length, _ =>
    let cells ← demanded
    return pushValue m s [] (Cell.ofText m.isQuoted (showNat cells.length)) e
  | .cutEnd longest, _ =>
    let cells ← demanded
    if value.isNone then return e
    let pattern := Cell.pattern false (← alone { tilde := true }).cells.reverse
    return pushValue m s name (cut pattern false longest cells) e
  | .cutStart longest, _ =>
    let cells ← demanded
    if value.isNone then return e
    let pattern := Cell.pattern false (← alone { tilde := true }).cells.reverse
    return pushValue m s name (cut pattern true longest cells) e
  | _, _ =>
    let cells ← demanded
    return if value.isNone then e else pushValue m s name cells e

/-- The value of an expression as a text; the variables in it may change. -/
def calculate (t : Text) : Run Text := do
  let s ← get
  let (result, given) := Arithmetic.eval ⟨s.value?, fun name => (s.named? name).any (·.isFixed)⟩ t
  for (name, value) in given do Run.assign name value
  match result with
  | .ok n => return showInt n
  | .error message => Run.fail message

/-- The output of a script without the ends of lines at its end. -/
def trimOutput (t : Text) : Text := ((t.filter (· ≠ border)).reverse.dropWhile (· = '\n')).reverse

/-- The directory for a tilde in front of parts, and the number of the parts that name it. -/
def tildeAt? (m : Mode) (s : Shell) : List Part → Option (Text × Nat)
  | .char '~' :: rest =>
    (tildeName? m.tildes rest).bind fun (name, _) => (home? s name).map fun home => (home, name.length + 1)
  | _ => none

/-- The parts of `"$@"`, after its first quotes. -/
def isAllParameters : List Part → Bool
  | .parameter ['@'] .plain false [] :: .mark :: _ => true
  | _ => false

/-- Where the expansion of a row of parts is. -/
structure Progress where
  inQuotes : Bool := false
  /-- Where a run of plain characters has begun that can be split. -/
  begun : Option Nat := none
  /-- There has been the sign of an assignment. -/
  hasSign : Bool := false
  /-- So many parts have been expanded already. -/
  skipped : Nat := 0
  deriving DecidableEq, Inhabited

/-- Expands parts in a row. -/
def parts (substitute : Substitute) (nested : ExpandParts) (m : Mode) (p : Progress) (e : Expanded) :
    List Part → Run Expanded
  | [] => return p.begun.elim e (e.mark · false)
  | part :: rest => do
    if p.skipped ≠ 0 then parts substitute nested m { p with skipped := p.skipped - 1 } e rest
    else
      let isPlain := match part with
        | .char _ => true
        | _ => false
      let e := if isPlain then e else p.begun.elim e (e.mark · false)
      let inner : Mode := { m with isQuoted := m.isQuoted || p.inQuotes, tilde := false }
      let done : Progress := { p with begun := none }
      let pushText (t : Text) : Expanded :=
        let after := e.pushAll (Cell.ofText inner.isQuoted t)
        if inner.isQuoted then after else after.mark e.size false
      match part with
      | .char c =>
        let canSplit := m.standsIn && !inner.isQuoted
        let next := { p with begun := if canSplit then some (p.begun.getD e.size) else none }
        let e := e.push (.plain c)
        if m.tildes ∧ (c = ':' ∨ (c = '=' ∧ ¬ p.hasSign)) then
          let next := { next with hasSign := p.hasSign || c == '=' }
          match tildeAt? m (← get) rest with
          | some (home, used) =>
            parts substitute nested m { next with skipped := used } (e.pushAll (Cell.ofText true home)) rest
          | none => parts substitute nested m next e rest
        else parts substitute nested m next e rest
      | .escaped c => parts substitute nested m done (e.push (.escaped c)) rest
      | .mark =>
        if ¬ p.inQuotes ∧ isAllParameters rest then
          let e ← parameter nested { inner with isQuoted := true } ['@'] .plain false [] e
          parts substitute nested m { done with skipped := 2 } e rest
        else parts substitute nested m { done with inQuotes := ¬ p.inQuotes } (e.push .mark) rest
      | .parameter name modifier emptyToo word =>
        let e ← parameter nested inner name modifier emptyToo word e
        parts substitute nested m done e rest
      | .output script =>
        let text ← substitute script
        parts substitute nested m done (pushText (trimOutput text)) rest
      | .arithmetic expression =>
        let text := (← nested {} expression {}).text
        let value ← calculate text
        parts substitute nested m done (pushText value) rest

/-- Expands a word, with braces to a certain depth. -/
def word (substitute : Substitute) (fuel : Nat) (m : Mode) (ps : List Part) (e : Expanded) : Run Expanded := do
  match fuel with
  | 0 => return e
  | fuel + 1 =>
    let nested := word substitute fuel
    let s ← get
    match if m.tilde then tildeAt? m s ps else none with
    | some (home, used) => parts substitute nested m { skipped := used } (e.pushAll (Cell.ofText true home)) ps
    | none => parts substitute nested m {} e ps

/-- Braces in words have at most this depth. -/
def depth : Nat := 100000

/-- The files that fit the cells of a field, or its text. -/
def files (cells : List Cell) : Run (List Text) := do
  let s ← get
  let text := Cell.text cells
  if s.has 'f' ∨ ¬ text.any (fun c => c == '*' || c == '?' || c == '[') then return [text]
  else
    match ← Run.ask fun h => Pattern.paths h s.process.here (Cell.pattern false cells) with
    | [] => return [text]
    | found => return found

/-- The fields that a word of a command stands for. -/
def fields (substitute : Substitute) (w : Word) : Run (List Text) := do
  let e ← word substitute depth { splits := true, tilde := true } w {}
  let s ← get
  let fields ← (e.fields s.separators none).mapM files
  return fields.flatten

/-- The text that a word stands for. -/
def text (substitute : Substitute) (m : Mode) (w : Word) : Run Text :=
  return (← word substitute depth m w {}).text

/-- The pattern that a word stands for. -/
def pattern (substitute : Substitute) (w : Word) : Run Text :=
  return Cell.pattern false (← word substitute depth { tilde := true } w {}).cells.reverse

end Expand

end PipeShell.Script
