import PipeShell.Program.Tool.Numeral
import PipeShell.Program.Tool.Version

/-!
# Keys of lines

A key says which part of a line is compared, and how.  `SortKey.extract` takes the part out of a line and reads it as
its kind of value; lines are then compared by the values of all keys.
-/

namespace PipeShell.Tool

/-- Which characters of a key are left out. -/
inductive KeyFilter
  | all
  | dictionary
  | printable
  deriving DecidableEq, Inhabited

/-- How keys are compared. -/
structure KeyOrder where
  skipsStartBlanks : Bool := false
  skipsEndBlanks : Bool := false
  filter : KeyFilter := .all
  folded : Bool := false
  general : Bool := false
  human : Bool := false
  month : Bool := false
  numeric : Bool := false
  random : Bool := false
  reversed : Bool := false
  version : Bool := false
  deriving DecidableEq, Inhabited

namespace KeyOrder

/-- Which end of a key a letter is written at. -/
inductive Side
  | start
  | finish
  | both
  deriving DecidableEq, Inhabited

/-- Takes in one letter. -/
def take? (o : KeyOrder) (side : Side) (c : Char) : Option KeyOrder :=
  match c with
  | 'b' => some { o with
      skipsStartBlanks := o.skipsStartBlanks || side != .finish
      skipsEndBlanks := o.skipsEndBlanks || side != .start }
  | 'd' => some { o with filter := .dictionary }
  | 'f' => some { o with folded := true }
  | 'g' => some { o with general := true }
  | 'h' => some { o with human := true }
  | 'i' => some { o with filter := if o.filter = .all then .printable else o.filter }
  | 'M' => some { o with month := true }
  | 'n' => some { o with numeric := true }
  | 'R' => some { o with random := true }
  | 'r' => some { o with reversed := true }
  | 'V' => some { o with version := true }
  | _ => none

/-- Takes in letters, and gives what follows them. -/
def takeAll (o : KeyOrder) (side : Side) : Text → KeyOrder × Text
  | [] => (o, [])
  | c :: rest =>
    match o.take? side c with
    | some o => o.takeAll side rest
    | none => (o, c :: rest)

/-- Nothing but perhaps a reversed order has been asked for. -/
def isPlain (o : KeyOrder) : Bool := { o with reversed := false } == {}

/-- The letters that ask for an order. -/
def letters (o : KeyOrder) : Text :=
  [(o.skipsStartBlanks || o.skipsEndBlanks, 'b'), (o.filter == .dictionary, 'd'), (o.folded, 'f'), (o.general, 'g'),
    (o.human, 'h'), (o.filter == .printable, 'i'), (o.month, 'M'), (o.numeric, 'n'), (o.random, 'R'),
    (o.reversed, 'r'), (o.version, 'V')].filterMap fun (given, c) => if given then some c else none

/-- The letters of orders that do not go together. -/
def clash? (o : KeyOrder) : Option Text :=
  let kinds := [o.numeric, o.general, o.human, o.month, o.version || o.random || o.filter != .all]
  if 1 < kinds.count true then
    some { o with skipsStartBlanks := false, skipsEndBlanks := false, reversed := false }.letters
  else none

end KeyOrder

/-- A key: from a character of a field to a character of another one, both counted from zero. -/
structure SortKey where
  startField : Option Nat := none
  startChar : Nat := 0
  /-- The last field, or the end of the line. -/
  endField : Option Nat := none
  /-- The number of characters of the last field; none mean all. -/
  endChar : Nat := 0
  order : KeyOrder := {}
  deriving DecidableEq, Inhabited

namespace SortKey

/-- What follows the first field of a line.  Without a separator a field begins with the blanks in front of it. -/
def afterField (separator : Option Char) (t : Text) : Text :=
  match separator with
  | some c => t.dropWhile (· ≠ c)
  | none => (t.dropWhile isFieldBlank).dropWhile (¬ isFieldBlank ·)

/-- What is left of a line from the start of the field of this number. -/
def fromField (separator : Option Char) : Nat → Text → Text
  | 0, t => t
  | n + 1, t =>
    if t = [] then [] else fromField separator n ((afterField separator t).drop (if separator.isSome then 1 else 0))

/-- What is left of a line behind the last field of a key. -/
def afterFields (separator : Option Char) : Nat → Text → Text
  | 0, t => t
  | n + 1, t =>
    if t = [] then []
    else if n = 0 then afterField separator t
    else afterFields separator n ((afterField separator t).drop (if separator.isSome then 1 else 0))

/-- The number of characters of a line in front of a key. -/
def start (k : SortKey) (separator : Option Char) (line : Text) : Nat :=
  let rest := match k.startField with
    | none => line
    | some n => fromField separator n line
  let rest := if k.order.skipsStartBlanks then rest.dropWhile isFieldBlank else rest
  line.length - (rest.drop (if k.startField.isNone then 0 else k.startChar)).length

/-- The number of characters of a line up to the end of a key. -/
def stop (k : SortKey) (separator : Option Char) (line : Text) : Nat :=
  match k.endField with
  | none => line.length
  | some n =>
    if k.endChar = 0 then line.length - (afterFields separator (n + 1) line).length
    else
      let rest := fromField separator n line
      let rest := if k.order.skipsEndBlanks then rest.dropWhile isFieldBlank else rest
      line.length - (rest.drop k.endChar).length

/-- The part of a line that a key names. -/
def part (k : SortKey) (separator : Option Char) (line : Text) : Text :=
  (line.take (k.stop separator line)).drop (k.start separator line)

/-- The names of the months. -/
def months : List String :=
  ["jan", "feb", "mar", "apr", "may", "jun", "jul", "aug", "sep", "oct", "nov", "dec"]

/-- The number of the month whose name stands in front; zero if there is none. -/
def monthOf (t : Text) : Nat :=
  let name := ((t.dropWhile isFieldBlank).take 3).map Char.toLower
  (months.findIdx? (·.toList == name)).elim 0 (· + 1)

/-- What a part of a line is compared by. -/
inductive Value
  | text (t : Text)
  | number (n : Decimal)
  | general (n : General)
  | human (rank : Int) (n : Decimal)
  | month (n : Nat)
  | version (t : Text)
  deriving DecidableEq, Inhabited

/-- The order of values of one kind. -/
def Value.compare : Value → Value → Ordering
  | .text a, .text b => compareText a b
  | .number a, .number b => a.compare b
  | .general a, .general b => a.compare b
  | .human r a, .human s b => (Ord.compare r s).then (a.compare b)
  | .month a, .month b => Ord.compare a b
  | .version a, .version b => versionOrder a b
  | _, _ => .eq

/-- The value of a part of a line. -/
def value (o : KeyOrder) (t : Text) : Value :=
  let kept := match o.filter with
    | .all => t
    | .dictionary => t.filter fun c => c.isAlphanum || isFieldBlank c
    | .printable => t.filter fun c => ' ' ≤ c && c ≤ '~'
  let t := if o.folded then kept.map Char.toUpper else kept
  if o.numeric then .number (decimalOf t)
  else if o.general then .general (General.ofText t)
  else if o.human then .human (unitRank t) (decimalOf t)
  else if o.month then .month (monthOf t)
  else if o.version then .version t
  else .text t

/-- The value of a line. -/
def extract (k : SortKey) (separator : Option Char) (line : Text) : Value := value k.order (k.part separator line)

end SortKey

end PipeShell.Tool
