import PipeShell.Program.Tool.Numeral

/-!
# Writing values in fields

A directive such as `%-5s` or `%08.3f` says how a value is written: in which base or form, with how many digits, and in
a field of which width.  Numbers with a point are rounded to 53 binary digits first, and then to the decimal digits
that are asked for, each time to the nearest, and to the even one of two that are equally near.
-/

namespace PipeShell

open Tool (General Decimal)

/-- How a value is written. -/
structure Directive where
  flags : Text := []
  width : Nat := 0
  precision : Option Nat := none
  conversion : Char := 's'
  deriving DecidableEq, Inhabited

namespace Directive

/-- A flag is set. -/
def has (d : Directive) (flag : Char) : Bool := d.flags.contains flag

/-- A text in its field. -/
def pad (d : Directive) (t : Text) : Text :=
  let fill := List.replicate (d.width - t.length) ' '
  if d.has '-' then t ++ fill else fill ++ t

/-- A text, cut to its length. -/
def text (d : Directive) (t : Text) : Text := d.pad (d.precision.elim t t.take)

/-- A sign and digits in their field, with zeros between them where they are asked for. -/
def padNumber (d : Directive) (zeros : Bool) (sign digits : Text) : Text :=
  if zeros ∧ d.has '0' ∧ ¬ d.has '-' then
    sign ++ List.replicate (d.width - sign.length - digits.length) '0' ++ digits
  else d.pad (sign ++ digits)

/-- The sign of a number. -/
def sign (d : Directive) (negative : Bool) : Text :=
  if negative then ['-'] else if d.has '+' then ['+'] else if d.has ' ' then [' '] else []

/-- Digits of a number in a base up to sixteen. -/
def digitsIn (base n : Nat) (upper : Bool) : Text :=
  (Nat.toDigits base n).map fun c => if upper then c.toUpper else c

/-- A whole number of 64 bits. -/
def number (d : Directive) (n : Int) : Text :=
  let word : Nat := (n % Nat.pow 2 64).toNat
  let signed : Int := if word < Nat.pow 2 63 then word else (word : Int) - Nat.pow 2 64
  let isSigned : Bool := d.conversion == 'd' || d.conversion == 'i'
  let value := if isSigned then signed.natAbs else word
  let base := if d.conversion = 'o' then 8 else if d.conversion = 'x' ∨ d.conversion = 'X' then 16 else 10
  let digits := if value = 0 ∧ d.precision = some 0 then [] else digitsIn base value (d.conversion = 'X')
  let digits := List.replicate (d.precision.getD 0 - digits.length) '0' ++ digits
  let digits := if d.conversion = 'o' ∧ d.has '#' ∧ digits.head? ≠ some '0' then '0' :: digits else digits
  let mark := if base = 16 ∧ d.has '#' ∧ value ≠ 0 then ['0', d.conversion] else []
  d.padNumber d.precision.isNone (if isSigned then d.sign (signed < 0) else mark) digits

/-! ### Numbers with a point -/

/-- The nearest whole number to a quotient; of two, the even one. -/
def nearest (n m : Nat) : Nat :=
  let q := n / m
  let r := n % m
  if m < 2 * r ∨ (2 * r = m ∧ q % 2 = 1) then q + 1 else q

/-- A positive quotient with 53 binary digits, as a quotient again; `none` if it is too large. -/
def toBinary? (n m : Nat) : Option (Nat × Nat) :=
  let exponent : Int := max ((n.log2 : Int) - m.log2 - 53) (-1074)
  let scaled (e : Int) : Nat :=
    if 0 ≤ e then nearest n (m * Nat.pow 2 e.toNat) else nearest (n * Nat.pow 2 e.natAbs) m
  let exponent := if Nat.pow 2 53 ≤ scaled exponent then exponent + 1 else exponent
  let digits := scaled exponent
  if 0 ≤ exponent then
    let value := digits * Nat.pow 2 exponent.toNat
    if Nat.pow 2 1024 ≤ value then none else some (value, 1)
  else some (digits, Nat.pow 2 exponent.natAbs)

/-- A quotient with a number of decimal places. -/
def fixed (places : Nat) (alternate : Bool) (n m : Nat) : Text :=
  let digits := showNat (nearest (n * Nat.pow 10 places) m)
  let digits := List.replicate (places + 1 - digits.length) '0' ++ digits
  let whole := digits.take (digits.length - places)
  whole ++ (if places = 0 ∧ ¬ alternate then [] else '.' :: digits.drop whole.length)

/-- The exponent of ten of a positive quotient, searched from a guess that is too small or right. -/
def exponentFrom (fuel : Nat) (guess : Int) (n m : Nat) : Int :=
  let isBelow (e : Int) : Bool := if 0 ≤ e then m * Nat.pow 10 e.toNat ≤ n else m ≤ n * Nat.pow 10 e.natAbs
  match fuel with
  | 0 => guess
  | fuel + 1 => if isBelow (guess + 1) then exponentFrom fuel (guess + 1) n m else guess

/-- The digits of a quotient, one of them before the point, and the exponent of ten. -/
def scientificParts (places : Nat) (n m : Nat) : Text × Int :=
  if n = 0 then (List.replicate (places + 1) '0', 0)
  else
    let guess := ((showNat n).length : Int) - (showNat m).length - 1
    let e := exponentFrom 3 guess n m
    let shift : Int := places - e
    let digits :=
      if 0 ≤ shift then nearest (n * Nat.pow 10 shift.toNat) m else nearest n (m * Nat.pow 10 shift.natAbs)
    if digits = Nat.pow 10 (places + 1) then ('1' :: List.replicate places '0', e + 1) else (showNat digits, e)

/-- An exponent after its letter, with at least two digits. -/
def exponentPart (upper : Bool) (e : Int) : Text :=
  let digits := showNat e.natAbs
  (if upper then 'E' else 'e') :: (if e < 0 then '-' else '+') ::
    (List.replicate (2 - digits.length) '0' ++ digits)

/-- A quotient with an exponent. -/
def scientific (places : Nat) (alternate upper : Bool) (n m : Nat) : Text :=
  let (digits, e) := scientificParts places n m
  digits.take 1 ++ (if places = 0 ∧ ¬ alternate then [] else '.' :: digits.drop 1) ++ exponentPart upper e

/-- A text without zeros at the end of its places. -/
def withoutZeros (t : Text) : Text :=
  if ¬ t.contains '.' then t
  else
    let t := t.reverse.dropWhile (· = '0')
    (if t.head? = some '.' then t.tail else t).reverse

/-- A quotient in the shorter form. -/
def general (digits : Nat) (alternate upper : Bool) (n m : Nat) : Text :=
  let digits := max 1 digits
  let (_, e) := scientificParts (digits - 1) n m
  if -4 ≤ e ∧ e < digits then
    let t := fixed (digits - 1 - e).toNat alternate n m
    if alternate then t else withoutZeros t
  else
    let (ds, e) := scientificParts (digits - 1) n m
    let t := ds.take 1 ++ '.' :: ds.drop 1
    (if alternate then t else withoutZeros t) ++ exponentPart upper e

/-- A number with a point. -/
def real (d : Directive) (value : General) : Text :=
  let upper := d.conversion.isUpper
  let word (t : String) : Text := t.toList.map fun c => if upper then c.toUpper else c
  let places := d.precision.getD 6
  let write (n m : Nat) : Text :=
    match d.conversion.toLower with
    | 'f' => fixed places (d.has '#') n m
    | 'e' => scientific places (d.has '#') upper n m
    | _ => general places (d.has '#') upper n m
  match value with
  | .missing => d.padNumber true (d.sign false) (write 0 1)
  | .notANumber => d.padNumber false (d.sign false) (word "nan")
  | .lowest => d.padNumber false (d.sign true) (word "inf")
  | .highest => d.padNumber false (d.sign false) (word "inf")
  | .finite ⟨0, _⟩ => d.padNumber true (d.sign false) (write 0 1)
  | .finite ⟨digits, n⟩ =>
    let negative := decide (digits < 0)
    match toBinary? digits.natAbs (Nat.pow 10 n) with
    | none => d.padNumber false (d.sign negative) (word "inf")
    | some (n, m) => d.padNumber true (d.sign negative) (write n m)

end Directive

end PipeShell
