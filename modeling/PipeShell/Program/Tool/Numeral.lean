import PipeShell.Program.Escape
import PipeShell.Program.Tool.Amount

/-!
# Numbers in lines

What a line has in front can be read as a number in three ways: as a decimal, as a decimal with a letter for a multiple,
and as a number with an exponent.  All are compared exactly.
-/

namespace PipeShell.Tool

/-- A decimal number: `digits` divided by ten to the power of `places`. -/
structure Decimal where
  digits : Int := 0
  places : Nat := 0
  deriving DecidableEq, Inhabited

/-- The order of the values. -/
def Decimal.compare (a b : Decimal) : Ordering :=
  Ord.compare (a.digits * Nat.pow 10 b.places) (b.digits * Nat.pow 10 a.places)

/-- Blanks and ends of lines separate fields. -/
def isFieldBlank (c : Char) : Bool := c == ' ' || c == '\t' || c == '\n'

/-- The digits of a number before and after its point, and what follows. -/
def splitNumeral (t : Text) : Text × Text × Text :=
  let whole := t.takeWhile Char.isDigit
  match t.drop whole.length with
  | '.' :: rest =>
    let part := rest.takeWhile Char.isDigit
    (whole, part, rest.drop part.length)
  | rest => (whole, [], rest)

/-- A minus sign in front, and what follows. -/
def splitMinus : Text → Bool × Text
  | '-' :: rest => (true, rest)
  | t => (false, t)

/-- The decimal number in front of a text, after blanks; it is zero where there is none. -/
def decimalOf (t : Text) : Decimal :=
  let (negative, body) := splitMinus (t.dropWhile isFieldBlank)
  let (whole, part, _) := splitNumeral body
  let value : Int := digitsValue (whole ++ part)
  { digits := if negative then -value else value, places := part.length }

/-- The rank of the unit after a decimal number. -/
def unitRank (t : Text) : Int :=
  let (negative, body) := splitMinus (t.dropWhile isFieldBlank)
  let (whole, part, rest) := splitNumeral body
  if (whole ++ part).any (· > '0') then
    let rank := (rest.head?.bind fun c => if c ∈ "mgt".toList then none else unitPower? c).getD 0
    if negative then -(rank : Int) else rank
  else 0

/-! ### Numbers with exponents -/

/-- A number that may be infinite, or none. -/
inductive General
  | missing
  | notANumber
  | lowest
  | finite (n : Decimal)
  | highest
  deriving DecidableEq, Inhabited

namespace General

/-- Exponents beyond this give infinite numbers, or zero. -/
def exponentLimit : Nat := 4951

/-- The number with this sign and exponent of ten. -/
def ofParts (negative : Bool) (digits : Nat) (exponent : Int) : General :=
  let value : Int := if negative then -(digits : Int) else digits
  if digits = 0 then .finite {}
  else if (exponentLimit : Int) < exponent + (showNat digits).length then if negative then .lowest else .highest
  else if exponent + (showNat digits).length < -(exponentLimit : Int) then .finite {}
  else if 0 ≤ exponent then .finite ⟨value * Nat.pow 10 exponent.toNat, 0⟩
  else .finite ⟨value, exponent.natAbs⟩

/-- The exponent after its letter; without digits there is none. -/
def exponentOf (letters : String) (t : Text) : Int :=
  match t with
  | c :: rest =>
    if ¬ letters.toList.contains c then 0
    else
      let (negative, body) : Bool × Text := match rest with
        | '-' :: body => (true, body)
        | '+' :: body => (false, body)
        | body => (false, body)
      let value : Int := digitsValue ((body.takeWhile Char.isDigit).take 9)
      if negative then -value else value
  | [] => 0

/-- A number in base sixteen, after its mark. -/
def ofHex? (negative : Bool) (t : Text) : Option General :=
  let isHex (c : Char) : Bool := (Escape.hexDigit? c).isSome
  let whole := t.takeWhile isHex
  let rest := t.drop whole.length
  let (part, rest) : Text × Text := match rest with
    | '.' :: more => (more.takeWhile isHex, more.dropWhile isHex)
    | more => ([], more)
  if whole = [] ∧ part = [] then none
  else
    let value := (whole ++ part).foldl (fun n c => n * 16 + (Escape.hexDigit? c).getD 0) 0
    let power := exponentOf "pP" rest - 4 * part.length
    if 0 ≤ power then some (ofParts negative (value * Nat.pow 2 (min power 20000).toNat) 0)
    else some (ofParts negative (value * Nat.pow 5 (min power.natAbs 20000)) (-(min power.natAbs 20000 : Nat)))

/-- The number in front of a text, after blanks. -/
def ofText (t : Text) : General :=
  let body := t.dropWhile isSpaceChar
  let (negative, body) : Bool × Text := match body with
    | '-' :: rest => (true, rest)
    | '+' :: rest => (false, rest)
    | rest => (false, rest)
  let startsWith (word : String) : Bool := word.toList.isPrefixOf (body.map Char.toLower)
  let plain : General :=
    let (whole, part, rest) := splitNumeral body
    if whole = [] ∧ part = [] then .missing
    else ofParts negative (digitsValue (whole ++ part)) (exponentOf "eE" rest - part.length)
  if startsWith "inf" then if negative then .lowest else .highest
  else if startsWith "nan" then .notANumber
  else if startsWith "0x" then (ofHex? negative (body.drop 2)).getD plain
  else plain

/-- The place of a kind of number before others. -/
def rank : General → Nat
  | missing => 0
  | notANumber => 1
  | lowest => 2
  | finite _ => 3
  | highest => 4

/-- The order of numbers. -/
def compare (a b : General) : Ordering :=
  match a, b with
  | finite m, finite n => m.compare n
  | a, b => Ord.compare a.rank b.rank

end General

end PipeShell.Tool
