import PipeShell.Text

/-!
# Escapes

A backslash and what follows it can stand for another character: letters for control characters, and octal digits for
any byte.  A backslash that begins nothing stands for itself.
-/

namespace PipeShell.Escape

/-- Which escapes there are beside octal digits. -/
structure Style where
  /-- The characters that letters stand for. -/
  letters : List (Char × Char) :=
    [('a', '\x07'), ('b', '\x08'), ('f', '\x0c'), ('n', '\n'), ('r', '\r'), ('t', '\t'), ('v', '\x0b'), ('\\', '\\')]
  /-- An `x` and one or two digits in base sixteen spell a byte. -/
  hex : Bool := false
  deriving DecidableEq, Inhabited

/-- The byte that at most three octal digits in front spell, and their number. -/
def octalByte (t : Text) : Char × Nat :=
  let digits := (t.take 3).takeWhile isOctal
  (Char.ofNat (octalValue digits % 256), digits.length)

/-- The value of a digit in base sixteen. -/
def hexDigit? (c : Char) : Option Nat :=
  if c.isDigit then some (c.toNat - 48)
  else if 'a' ≤ c ∧ c ≤ 'f' then some (c.toNat - 87)
  else if 'A' ≤ c ∧ c ≤ 'F' then some (c.toNat - 55)
  else none

/-- The character that the text after a backslash spells, and the number of characters that spell it. -/
def one? (s : Style) (t : Text) : Option (Char × Nat) :=
  match t with
  | [] => none
  | c :: rest =>
    if isOctal c then some (octalByte t)
    else if s.hex ∧ c = 'x' then
      match (rest.take 2).map hexDigit? with
      | some a :: some b :: _ => some (Char.ofNat (a * 16 + b), 3)
      | some a :: _ => some (Char.ofNat a, 2)
      | _ => none
    else (s.letters.lookup c).map (·, 1)

/-- A text with its escapes resolved, where the first `skipped` characters have been read; the flag is false if `\c`
ends it.  An octal number may have a zero in front of its three digits. -/
def resolve (s : Style) (skipped : Nat) : Text → Text × Bool
  | [] => ([], true)
  | c :: rest =>
    match skipped with
    | n + 1 => resolve s n rest
    | 0 =>
      let add (c : Char) (more : Text × Bool) : Text × Bool := (c :: more.1, more.2)
      if c ≠ '\\' then add c (resolve s 0 rest)
      else if rest.head? = some 'c' then ([], false)
      else
        let skip := if rest.head? = some '0' ∧ rest.tail.head?.any isOctal then 1 else 0
        match one? s (rest.drop skip) with
        | some (d, n) => add d (resolve s (skip + n) rest)
        | none => add '\\' (resolve s 0 rest)

end PipeShell.Escape
