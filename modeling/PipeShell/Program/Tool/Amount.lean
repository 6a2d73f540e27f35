import PipeShell.Text

/-!
# Numbers with units

`amount?` reads a number with a letter for a multiple, such as `10k`, `1MB` or `2GiB`.
-/

namespace PipeShell.Tool

/-- The number that digits spell. -/
def digitsValue (t : Text) : Nat := t.foldl (fun n c => n * 10 + (c.toNat - 48)) 0

/-- A blank or an end of a line. -/
def isSpaceChar (c : Char) : Bool := c == ' ' || ('\t' ≤ c && c ≤ '\r')

/-- What is wrong with a number. -/
inductive AmountFault
  | invalid
  | tooLarge
  deriving DecidableEq, Inhabited

/-- The largest number of 64 bits. -/
def wordLimit : Nat := Nat.pow 2 64 - 1

/-- The exponents of the letters for multiples. -/
def unitPower? (c : Char) : Option Nat :=
  [('k', 1), ('K', 1), ('m', 2), ('M', 2), ('g', 3), ('G', 3), ('t', 4), ('T', 4), ('P', 5), ('E', 6), ('Z', 7),
    ('Y', 8), ('R', 9), ('Q', 10)].lookup c

/-- The multiple that the letters after a number stand for, where `units` are the letters that are allowed. -/
def multiple? (units : String) (t : Text) : Option Nat :=
  match t with
  | [] => some 1
  | c :: rest =>
    if ¬ units.toList.contains c then none
    else if c = 'b' ∧ rest = [] then some 512
    else
      match unitPower? c, String.ofList rest with
      | some n, "" | some n, "iB" => some (Nat.pow 1024 n)
      | some n, "B" | some n, "D" => some (Nat.pow 1000 n)
      | _, _ => none

/-- Reads a number with a unit.  A unit by itself stands for one of it. -/
def amount? (units : String) (t : Text) : Except AmountFault Nat :=
  let body := t.dropWhile isSpaceChar
  let body := match body with
    | '+' :: rest => rest
    | rest => rest
  let digits := body.takeWhile Char.isDigit
  let value? : Option (Nat × Text) :=
    if digits ≠ [] then some (digitsValue digits, body.drop digits.length)
    else if t.head?.any (units.toList.contains ·) then some (1, t)
    else none
  match value? with
  | none => .error .invalid
  | some (value, unit) =>
    match multiple? units unit with
    | none => .error .invalid
    | some factor => if value * factor ≤ wordLimit then .ok (value * factor) else .error .tooLarge

end PipeShell.Tool
