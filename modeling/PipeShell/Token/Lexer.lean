import PipeShell.Token.Basic

/-!
# From a line to its tokens

The line is read once, from left to right.  Quotes and backslashes only take away the meaning of blanks, bars and
operators; they never end a word, so `a'b c'd` is one word.  A bar is a token where a word could begin and a blank
or the end of the line follows; an operator is a `>`, or two, with the word `1` or `2` written bare in front of it
as the number of the stream.

`Lexer.read` reads one character, and looks at the next one; `Lexed.ofLine` reads them all.  A quote that is still
open at the end of the line is reported, and closed there.
-/

namespace PipeShell

/-- The two kinds of quotes. -/
inductive Quote
  | single
  | double
  deriving DecidableEq, Inhabited

def Quote.char : Quote → Char
  | .single => '\''
  | .double => '"'

/-- Where a line is being read: where a word may begin, inside a word, or inside a quote. -/
inductive Phase
  | start
  | inWord
  | inQuote (q : Quote)
  deriving DecidableEq, Inhabited

/-- A line that has been read up to some character. -/
structure Lexer where
  phase : Phase := .start
  /-- The characters of the pending word, the last one first. -/
  typed : Text := []
  /-- A word is pending; it may be empty, as after an empty quote. -/
  begun : Bool := false
  /-- Some part of the pending word is quoted or escaped. -/
  guarded : Bool := false
  tokens : List Token := []
  deriving DecidableEq, Inhabited

/-- The tokens of a line, and the quote left open at its end. -/
structure Lexed where
  tokens : List Token
  openQuote : Option Quote
  deriving DecidableEq, Inhabited

/-- Characters that separate words. -/
def isBlank (c : Char) : Bool := c == ' ' || c == '\t'

/-- A bar is a token only before a blank or the end of the line. -/
def endsWord : Option Char → Bool
  | none => true
  | some c => isBlank c

/-- The characters that a backslash can escape inside double quotes. -/
def isEscapable (c : Char) : Bool := c == '"' || c == '\\' || c == '$' || c == Char.ofNat 96

namespace Lexer

/-- The pending word. -/
def pending (s : Lexer) : Text := s.typed.reverse

/-- Drops the pending word. -/
def forget (s : Lexer) : Lexer := { s with typed := [], begun := false, guarded := false }

/-- Adds a token to the line. -/
def emit (s : Lexer) (t : Token) : Lexer := { s with tokens := s.tokens ++ [t] }

/-- The pending word, if there is one, becomes a token. -/
def flush (s : Lexer) : Lexer := ((if s.begun then s.emit (.word s.pending) else s)).forget

/-- One more bare character of the word. -/
def push (s : Lexer) (c : Char) : Lexer := { s with phase := .inWord, typed := c :: s.typed, begun := true }

/-- One more escaped character of the word. -/
def pushEscaped (s : Lexer) (c : Char) : Lexer := { s.push c with guarded := true }

/-- One more character inside a quote. -/
def pushQuoted (s : Lexer) (c : Char) : Lexer := { s with typed := c :: s.typed }

/-- A quote opens; it begins a word even if it turns out empty. -/
def openQuote (s : Lexer) (q : Quote) : Lexer := { s with phase := .inQuote q, begun := true, guarded := true }

/-- The stream whose number is the pending word, if that is a bare `1` or `2`. -/
def selector (s : Lexer) : Option StdStream :=
  if s.guarded then none
  else if s.typed = ['1'] then some .out
  else if s.typed = ['2'] then some .err
  else none

/-- Reads a bare `>` and says whether the next character belongs to the operator. -/
def readOperator (s : Lexer) (next : Option Char) : Lexer × Bool :=
  let stream := s.selector
  let ended := if stream.isSome then s.forget else s.flush
  let twice := next == some '>'
  let op := ⟨stream.getD .out, if twice then .append else .overwrite⟩
  ({ ended.emit (.redirect op) with phase := .start }, twice)

/-- Reads a character outside quotes, before `next`, and says whether `next` is read with it. -/
def readBare (s : Lexer) (c : Char) (next : Option Char) : Lexer × Bool :=
  if isBlank c then ({ s.flush with phase := .start }, false)
  else if c = '\'' then (s.openQuote .single, false)
  else if c = '"' then (s.openQuote .double, false)
  else if c = '\\' then
    match next with
    | some d => (s.pushEscaped d, true)
    | none => (s.push '\\', false)
  else if c = '|' ∧ s.phase = .start ∧ endsWord next then (s.emit .bar, false)
  else if c = '>' then s.readOperator next
  else (s.push c, false)

/-- Reads a character inside single quotes; only the closing quote means anything. -/
def readSingle (s : Lexer) (c : Char) : Lexer :=
  if c = '\'' then { s with phase := .inWord } else s.pushQuoted c

/-- Reads a character inside double quotes, before `next`, and says whether `next` is read with it. -/
def readDouble (s : Lexer) (c : Char) (next : Option Char) : Lexer × Bool :=
  if c = '"' then ({ s with phase := .inWord }, false)
  else if c = '\\' then
    match next with
    | some d => if isEscapable d then (s.pushQuoted d, true) else (s.pushQuoted '\\', false)
    | none => (s.pushQuoted '\\', false)
  else (s.pushQuoted c, false)

/-- Reads a character, before `next`, and says whether `next` is read with it. -/
def read (s : Lexer) (c : Char) (next : Option Char) : Lexer × Bool :=
  match s.phase with
  | .start => s.readBare c next
  | .inWord => s.readBare c next
  | .inQuote .single => (s.readSingle c, false)
  | .inQuote .double => s.readDouble c next

/-- Reads all characters of a text. -/
def readAll (s : Lexer) : Text → Lexer
  | [] => s
  | [c] => (s.read c none).1
  | c :: d :: rest =>
    let (s', both) := s.read c (some d)
    if both then readAll s' rest else readAll s' (d :: rest)

/-- The tokens when the line ends here. -/
def finish (s : Lexer) : Lexed where
  tokens := s.flush.tokens
  openQuote := match s.phase with
    | .inQuote q => some q
    | _ => none

end Lexer

/-- The tokens of a line, and the quote left open at its end. -/
def Lexed.ofLine (line : Text) : Lexed := (({} : Lexer).readAll line).finish

/-- The tokens of a line, where an open quote is closed at the end. -/
def Token.ofLine (line : Text) : List Token := (Lexed.ofLine line).tokens

end PipeShell
