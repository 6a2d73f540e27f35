import PipeShell.Text

/-!
# Tokens of a command line

A line is made of words, bars between stages, and redirection operators.  Quoting is gone from a word, so a word
may hold any characters and may be empty.  `Token.text` is the form in which a diagnostic shows a token.
-/

namespace PipeShell

/-- The two streams that a stage writes. -/
inductive StdStream
  | out
  | err
  deriving DecidableEq, Inhabited

/-- What happens to the former contents of a redirection target. -/
inductive OpenMode
  | overwrite
  | append
  deriving DecidableEq, Inhabited

/-- A redirection operator: the stream it concerns and how the target is opened. -/
structure Operator where
  stream : StdStream
  mode : OpenMode
  deriving DecidableEq, Inhabited

/-- The shortest spelling of an operator; standard output needs no number. -/
def Operator.text (op : Operator) : Text :=
  (match op.stream with
    | .out => []
    | .err => ['2']) ++
  match op.mode with
    | .overwrite => ['>']
    | .append => ['>', '>']

/-- What a line is made of. -/
inductive Token
  | word (text : Text)
  | bar
  | redirect (op : Operator)
  deriving DecidableEq, Inhabited

/-- The form in which a diagnostic shows a token. -/
def Token.text : Token → Text
  | .word w => w
  | .bar => ['|']
  | .redirect op => op.text

end PipeShell
