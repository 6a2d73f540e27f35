import PipeShell.Program.Script.Shell

/-!
# The options of builtin commands

Options are letters after a minus sign, in front of the other words.  A letter with a colon after it in the list of
known ones takes a value, which is the rest of its word or the next word.
-/

namespace PipeShell.Script.Builtin

/-- The options in front of words. -/
structure Options where
  given : List (Char × Text) := []
  words : List Text
  deriving DecidableEq, Inhabited

/-- An option is given. -/
def Options.has (o : Options) (letter : Char) : Bool := o.given.any (·.1 = letter)

/-- The last option that is given. -/
def Options.last? (o : Options) : Option Char := o.given.getLast?.map (·.1)

/-- Whether a letter is known, and whether it takes a value. -/
def takesValue? (known : Text) (letter : Char) : Option Bool :=
  match known with
  | [] => none
  | c :: ':' :: rest => if c = letter then some true else takesValue? rest letter
  | c :: rest => if c = letter then some false else takesValue? rest letter

/-- Reads the letters of a word; `words` are those after it.  The result has the words that are left. -/
def readLetters (known : Text) (words : List Text) : Text → Run (List (Char × Text) × List Text)
  | [] => return ([], words)
  | c :: rest => do
    match takesValue? known c with
    | none => Run.fail ("Illegal option -".toList ++ [c])
    | some false =>
      let (given, words) ← readLetters known words rest
      return ((c, []) :: given, words)
    | some true =>
      match rest, words with
      | [], [] => Run.fail ("No arg for -".toList ++ c :: " option".toList)
      | [], value :: words => return ([(c, value)], words)
      | value, words => return ([(c, value)], words)

/-- Reads the options in front of words, with fuel for all words. -/
def readOptions (known : Text) (fuel : Nat) (words : List Text) : Run Options := do
  match fuel, words with
  | fuel + 1, ('-' :: letters) :: rest =>
    if letters = [] then return { words }
    else if letters = ['-'] then return { words := rest }
    else
      let (given, rest) ← readLetters known rest letters
      let more ← readOptions known fuel rest
      return { more with given := given ++ more.given }
  | _, words => return { words }

/-- Reads the options in front of words. -/
def options (known : String) (words : List Text) : Run Options :=
  readOptions known.toList (words.length + 1) words

end PipeShell.Script.Builtin
