import PipeShell.Program.Escape

/-!
# Numbers in scripts

A text is read as a number of 64 bits, after blanks and a sign.  In any base, `0x` begins a number in base sixteen,
`0b` one in base two, and `0` one in base eight.  Numbers that are too large are cut down to the largest one, and
marked.
-/

namespace PipeShell.Script

/-- A character between words of a text. -/
def isBlank (c : Char) : Bool := c == ' ' || ('\t' ≤ c && c ≤ '\r')

/-- The number in front of a text, and what follows it. -/
structure Numeral where
  value : Int
  rest : Text
  isTooLarge : Bool := false
  deriving DecidableEq, Inhabited

namespace Numeral

/-- The value of a digit in a base. -/
def digit? (base : Nat) (c : Char) : Option Nat := (Escape.hexDigit? c).filter (· < base)

/-- The base of a text without sign, and the text after its mark. -/
def splitBase (t : Text) : Nat × Text :=
  match t with
  | '0' :: x :: d :: rest =>
    if (x = 'x' ∨ x = 'X') ∧ (digit? 16 d).isSome then (16, d :: rest)
    else if (x = 'b' ∨ x = 'B') ∧ (digit? 2 d).isSome then (2, d :: rest)
    else (8, t)
  | '0' :: _ => (8, t)
  | _ => (10, t)

/-- The sign of a text, and the text after it. -/
def splitSign : Text → Bool × Text
  | '-' :: rest => (true, rest)
  | '+' :: rest => (false, rest)
  | t => (false, t)

/-- Reads a number; one without sign bit may be twice as large, and a negative one is taken from above. -/
def read (anyBase isSigned : Bool) (t : Text) : Numeral :=
  let (isNegative, body) := splitSign (t.dropWhile isBlank)
  let (base, body) := if anyBase then splitBase body else (10, body)
  let digits := body.takeWhile fun c => (digit? base c).isSome
  if digits = [] then ⟨0, t, false⟩
  else
    let size := digits.foldl (fun n c => n * base + (digit? base c).getD 0) 0
    let rest := body.drop digits.length
    if isSigned then
      if isNegative then if Nat.pow 2 63 < size then ⟨-(Nat.pow 2 63), rest, true⟩ else ⟨-(size : Int), rest, false⟩
      else if Nat.pow 2 63 ≤ size then ⟨Nat.pow 2 63 - 1, rest, true⟩ else ⟨size, rest, false⟩
    else if Nat.pow 2 64 ≤ size then ⟨Nat.pow 2 64 - 1, rest, true⟩
    else ⟨if isNegative then (Nat.pow 2 64 - (size : Int)) % Nat.pow 2 64 else size, rest, false⟩

/-- The number that a whole text spells. -/
def whole? (anyBase : Bool) (t : Text) : Option Int :=
  let n := read anyBase true t
  if n.isTooLarge ∨ (¬ anyBase ∧ n.rest = t) ∨ (n.rest.dropWhile isBlank) ≠ [] then none else some n.value

/-- The number that a whole text spells, if it can be a count. -/
def count? (t : Text) : Option Nat :=
  (whole? false t).bind fun n => if 0 ≤ n ∧ n < Nat.pow 2 31 then some n.toNat else none

end Numeral

end PipeShell.Script
