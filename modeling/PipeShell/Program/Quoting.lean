import PipeShell.Text

/-!
# Names in diagnostics

Programs put a name into quotes so that it can be told from the words around it and read on one line.  There are three
ways: `quoted` for words, with backslashes as in a program text, and for file names `shellQuoted`, which a shell reads
as the name again, and `shellQuotedIfNeeded`, which leaves a plain name as it is.
-/

namespace PipeShell.Quoting

/-- The letter that stands for a character after a backslash. -/
def letter? (c : Char) : Option Char :=
  [('\x07', 'a'), ('\x08', 'b'), ('\x0c', 'f'), ('\n', 'n'), ('\r', 'r'), ('\t', 't'), ('\x0b', 'v')].lookup c

/-- Characters that can be shown as they are. -/
def isPrintable (c : Char) : Bool := ' ' ≤ c && c ≤ '~'

/-- A character that cannot be printed, as it is spelled after a backslash. -/
def escapeOf (c : Char) : Text :=
  match letter? c with
  | some l => [l]
  | none =>
    let n := c.toNat
    [n / 64, n / 8 % 8, n % 8].map fun d => Char.ofNat (48 + d)

/-- A word in single quotes, with backslashes in front of quotes and backslashes. -/
def quoted (t : Text) : Text :=
  '\'' :: t.flatMap (fun c =>
    if c = '\'' ∨ c = '\\' then ['\\', c] else if isPrintable c then [c] else '\\' :: escapeOf c) ++ ['\'']

/-- A character without which no quotes are needed, if it is not the first one. -/
def isCalm (c : Char) : Bool := isPrintable c && !" !\"$&'()*;<=>?[\\^`|".toList.contains c

/-- A name that a shell takes as it is; `colon` says that a colon is plain as well. -/
def isPlain (colon : Bool) (t : Text) : Bool :=
  match t with
  | [] => false
  | c :: rest =>
    t.all (fun c => isCalm c && (colon || c != ':')) && c != '#' && c != '~' &&
      !(rest.isEmpty && (c == '\x7b' || c == '\x7d'))

/-- A character that may stand in double quotes. -/
def fitsDouble (atStart alone : Bool) (c : Char) : Bool :=
  c == ' ' || c == '\'' || "%+,-./:]_@".toList.contains c || c.isAlphanum ||
    ((c == '#' || c == '~') && atStart) || ((c == '\x7b' || c == '\x7d') && alone)

/-- The inside of single quotes; `escaping` says that the characters just before were spelled with backslashes. -/
def inSingle (escaping : Bool) : Text → Text
  | [] => []
  | c :: rest =>
    if isPrintable c then
      let start : Text := if escaping then ['\'', '\''] else []
      if c = '\'' then "'\\''".toList ++ inSingle false rest
      else start ++ c :: inSingle false rest
    else (if escaping then ['\\'] else "'$'\\".toList) ++ escapeOf c ++ inSingle true rest

/-- A name in quotes.  One with single quotes is gone through twice, and the second time begins as the first one has
ended. -/
def shellQuoted (t : Text) : Text :=
  let alone := t.length == 1
  let twice := t.contains '\''
  if twice ∧ (t.zipIdx.all fun (c, i) => fitsDouble (i == 0) alone c) then '"' :: t ++ ['"']
  else '\'' :: inSingle (twice && t.getLast?.any (¬ isPrintable ·)) t ++ ['\'']

/-- A name that stands before a colon, in quotes if it needs them. -/
def shellQuotedIfNeeded (t : Text) : Text := if isPlain false t then t else shellQuoted t

end PipeShell.Quoting
