import PipeShell.Text

/-!
# From expanded words to fields

An expanded word is a row of cells, and a list of the regions in it that come from expansions.  Only in the regions do
separators end a field: the characters of the variable `IFS`, of which blanks count differently from others, or the
borders between the parameters in `"$@"`.
-/

namespace PipeShell.Script

/-- A part of an expanded word. -/
inductive Cell
  | plain (c : Char)
  /-- A character without meaning in patterns. -/
  | escaped (c : Char)
  /-- Quotes begin or end. -/
  | mark
  deriving DecidableEq, Inhabited

/-- The character between parameters that are separate fields. -/
def border : Char := Char.ofNat 0

namespace Cell

/-- The character of a cell. -/
def char? : Cell → Option Char
  | plain c | escaped c => some c
  | mark => none

/-- The text of cells. -/
def text (cells : List Cell) : Text := cells.filterMap char?

/-- The cells as a pattern; `isGuarded` says that a backslash stands right before them. -/
def pattern (isGuarded : Bool) : List Cell → Text
  | [] => []
  | mark :: rest => pattern false rest
  | plain '\\' :: rest => '\\' :: pattern true rest
  | plain c :: rest => c :: pattern false rest
  | escaped c :: rest => if isGuarded then c :: pattern false rest else '\\' :: c :: pattern false rest

/-- The cells of a text; in quotes, characters lose their meaning. -/
def ofText (isQuoted : Bool) (t : Text) : List Cell :=
  t.map fun c => if isQuoted && "!*?[]=~:/-\\".toList.contains c then escaped c else plain c

end Cell

/-- A part of an expanded word where fields can end. -/
structure Region where
  start : Nat
  stop : Nat
  /-- Only at borders. -/
  atBorders : Bool
  deriving DecidableEq, Inhabited

/-- An expanded word, in reverse order. -/
structure Expanded where
  cells : List Cell := []
  size : Nat := 0
  regions : List Region := []
  deriving DecidableEq, Inhabited

namespace Expanded

/-- Adds a cell. -/
def push (e : Expanded) (c : Cell) : Expanded := { e with cells := c :: e.cells, size := e.size + 1 }

/-- Adds cells. -/
def pushAll (e : Expanded) (cells : List Cell) : Expanded := cells.foldl push e

/-- Makes a region of what has been added from a place on. -/
def mark (e : Expanded) (start : Nat) (atBorders : Bool) : Expanded :=
  { e with regions := ⟨start, e.size, atBorders⟩ :: e.regions }

/-- The text of the word. -/
def text (e : Expanded) : Text := Cell.text e.cells.reverse

end Expanded

/-! ### Splitting -/

/-- The state of a search for fields. -/
structure Splitting where
  /-- Where the field begins that has not ended. -/
  start : Nat := 0
  /-- The fields in reverse order, each with its start and end. -/
  fields : List (Nat × Nat) := []
  /-- How many fields there may be; the last one takes all that is left. -/
  allowed : Option Nat := none
  /-- Where the last field ends, if it has blanks behind it. -/
  cut : Option Nat := none
  /-- A blank has ended the last field, and what follows it may belong to it. -/
  isSpaced : Bool := false
  deriving DecidableEq, Inhabited

namespace Splitting

/-- A separator that is a blank, or a border. -/
def isSoft (c : Char) : Bool := c == ' ' || c == '\t' || c == '\n' || c == border

/-- Goes over the cell at the place `i`; `atBorders` and `afterBorders` say whether this region and the one before it
have only borders. -/
def step (separators : Text) (afterBorders atBorders : Bool) (s : Splitting) (i : Nat) (cell : Cell) : Splitting :=
  let ends := cell.char?.any fun c => c == border || (!atBorders && separators.contains c)
  let endsSoftly := ends && cell.char?.any isSoft
  if s.allowed = some 0 then
    if endsSoftly then { s with cut := some (s.cut.getD i) }
    else { s with cut := if ends ∧ s.isSpaced then s.cut else none, isSpaced := false }
  else if s.isSpaced ∧ endsSoftly then { s with start := i + 1 }
  else if s.isSpaced then { s with start := if ends then i + 1 else i, isSpaced := false }
  else if ¬ ends then s
  else
    let s := { s with isSpaced := !(afterBorders || atBorders) && endsSoftly }
    if i = s.start ∧ s.isSpaced then { s with start := i + 1, isSpaced := false }
    else if s.allowed = some 1 then { s with allowed := some 0, cut := some i }
    else { s with allowed := s.allowed.map (· - 1), fields := (s.start, i) :: s.fields, start := i + 1 }

/-- Goes over the cells of the regions; `i` is the place of the first cell. -/
def run (separators : Text) (afterBorders : Bool) (s : Splitting) (i : Nat) (regions : List Region)
    (cells : List Cell) : Splitting :=
  match regions with
  | [] => s
  | r :: regions =>
    let before := r.start - i
    let inside := ((cells.drop before).take (r.stop - r.start)).zipIdx r.start
    let s := inside.foldl (fun s (cell, i) => s.step separators afterBorders r.atBorders i cell)
      { s with isSpaced := false }
    run separators r.atBorders s r.stop regions (cells.drop (before + (r.stop - r.start)))

/-- The cells of a field, from the places where it begins and ends. -/
def cut? (cells : List Cell) (field : Nat × Nat) : List Cell := (cells.drop field.1).take (field.2 - field.1)

end Splitting

/-- The fields of an expanded word, at most so many of them. -/
def Expanded.fields (e : Expanded) (separators : Text) (allowed : Option Nat) : List (List Cell) :=
  let cells := e.cells.reverse
  let regions := e.regions.reverse
  let s := Splitting.run separators false { allowed } 0 regions cells
  let stop := if e.regions.head?.any (·.atBorders) then e.size else s.cut.getD e.size
  let last := Splitting.cut? cells (s.start, stop)
  let keepsLast := e.regions.head?.any (·.atBorders) || last.head?.any (· ≠ .plain border)
  (s.fields.reverse.map (Splitting.cut? cells)) ++ if keepsLast then [last] else []

end PipeShell.Script
