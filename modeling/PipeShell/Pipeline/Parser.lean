import PipeShell.Pipeline.Basic
import PipeShell.Token.Lexer

/-!
# From tokens to a pipeline

Bars cut the tokens into segments, and each segment gives one stage: an operator takes the word after it as file
name, and all other words are the command.  A line is refused as a whole.  An open quote is reported before
anything else, then an empty segment anywhere, then the first fault of the leftmost segment that has one.
-/

namespace PipeShell

/-- Why a line is refused. -/
inductive SyntaxError
  | openQuote (mark : Char)
  | emptySegment
  | danglingOperator (op : Operator)
  | unexpected (text : Text)
  | noCommand
  deriving DecidableEq, Inhabited

/-- The diagnostic of a line that is no pipeline. -/
def SyntaxError.message : SyntaxError → Text
  | .openQuote mark => "unexpected end of line while looking for matching `".toList ++ [mark, '\'']
  | .emptySegment => "syntax error near unexpected token `|'".toList
  | .danglingOperator op => "syntax error: missing file name after `".toList ++ op.text ++ ['\'']
  | .unexpected text => "syntax error near unexpected token `".toList ++ text ++ ['\'']
  | .noCommand => "syntax error: redirection without a command".toList

namespace Token

/-- The runs of tokens between the bars. -/
def runs : List Token → List (List Token)
  | [] => [[]]
  | t :: ts =>
    if t = .bar then [] :: runs ts
    else
      match runs ts with
      | [] => [[t]]
      | seg :: segs => (t :: seg) :: segs

/-- The segments of a line, none of which may be empty. -/
def segments (tokens : List Token) : Except SyntaxError (List (List Token)) :=
  if (runs tokens).any List.isEmpty then .error .emptySegment else .ok (runs tokens)

end Token

namespace Stage

/-- Adds the tokens of a segment to the part of a stage that has been read. -/
def add (s : Stage) : List Token → Except SyntaxError Stage
  | [] => .ok s
  | .word w :: ts => add { s with argv := s.argv ++ [w] } ts
  | .bar :: _ => .error (.unexpected Token.bar.text)
  | .redirect op :: .word path :: ts => add { s with redirections := s.redirections.set op path } ts
  | .redirect _ :: t :: _ => .error (.unexpected t.text)
  | [.redirect op] => .error (.danglingOperator op)

/-- The words and the redirections of a segment, which may have no command. -/
def gather (tokens : List Token) : Except SyntaxError Stage := add ⟨[], {}⟩ tokens

/-- The stage that a segment spells. -/
def ofTokens (tokens : List Token) : Except SyntaxError Stage := do
  let s ← gather tokens
  if s.argv = [] then .error .noCommand else .ok s

end Stage

namespace Pipeline

/-- The pipeline that some tokens spell. -/
def ofTokens (tokens : List Token) : Except SyntaxError Pipeline := do
  let segs ← Token.segments tokens
  return ⟨← segs.mapM Stage.ofTokens⟩

/-- The pipeline that a line spells; a line without tokens spells none. -/
def ofLine (line : Text) : Except SyntaxError (Option Pipeline) :=
  match Lexed.ofLine line with
  | ⟨_, some q⟩ => .error (.openQuote q.char)
  | ⟨[], none⟩ => .ok none
  | ⟨tokens, none⟩ => (ofTokens tokens).map some

end Pipeline

end PipeShell
