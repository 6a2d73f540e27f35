import PipeShell.Text

/-!
# Scripts

The language of the command interpreter `sh`.  A word is a row of parts, which are put together when its command runs;
among them are whole scripts, so that words and commands are defined together.  All texts are spelled out in bytes.
-/

namespace PipeShell.Script

/-- What an expansion of a parameter does besides giving its value. -/
inductive Modifier
  | plain
  /-- The word stands in for a missing value. -/
  | default
  /-- The word stands in for a value that is there. -/
  | alternative
  /-- A missing value is a fault with this message. -/
  | demand
  /-- The word stands in for a missing value, and becomes the value. -/
  | assign
  /-- The end that matches the pattern is cut off, the longest one if `longest`. -/
  | cutEnd (longest : Bool)
  /-- The start that matches the pattern is cut off, the longest one if `longest`. -/
  | cutStart (longest : Bool)
  | length
  /-- Braces that spell no expansion, which is a fault when the command runs. -/
  | malformed
  deriving DecidableEq, Inhabited

/-- How a redirection changes a descriptor. -/
inductive RedirectKind
  | input
  | both
  | output
  /-- Output to a file that may be there already. -/
  | overwrite
  | append
  /-- Another descriptor is copied. -/
  | copy
  /-- The text with this number becomes the input. -/
  | document (number : Nat)
  deriving DecidableEq, Inhabited

mutual

/-- A part of a word. -/
inductive Part
  | char (c : Char)
  /-- A character without meaning of its own. -/
  | escaped (c : Char)
  /-- Quotes begin or end. -/
  | mark
  /-- The value of a parameter; with `emptyToo`, an empty value counts as missing. -/
  | parameter (name : Text) (modifier : Modifier) (emptyToo : Bool) (word : List Part)
  /-- The output of a script. -/
  | output (script : Node)
  | arithmetic (expression : List Part)

/-- A change of a descriptor. -/
inductive Redirect
  | mk (descriptor : Nat) (kind : RedirectKind) (target : List Part)

/-- A command.  The numbers are those of the lines in which commands begin. -/
inductive Node
  | nothing
  | simple (line : Nat) (assignments words : List (List Part)) (redirects : List Redirect)
  | pipeline (commands : List Node) (background : Bool)
  | redirected (line : Nat) (body : Node) (redirects : List Redirect)
  | background (line : Nat) (body : Node) (redirects : List Redirect)
  | subshell (line : Nat) (body : Node) (redirects : List Redirect)
  | both (first second : Node)
  | either (first second : Node)
  | sequence (first second : Node)
  | negation (body : Node)
  | condition (test yes no : Node)
  | loop (whileFails : Bool) (test body : Node)
  | each (line : Nat) (name : Text) (words : List (List Part)) (body : Node)
  | choice (line : Nat) (word : List Part) (branches : List (List (List Part) × Node))
  | function (name : Text) (body : Node)

end

/-- A word of a command. -/
abbrev Word := List Part

instance : Inhabited Node := ⟨.nothing⟩
instance : Inhabited Part := ⟨.mark⟩

/-- The command is missing. -/
def Node.isNothing : Node → Bool
  | .nothing => true
  | _ => false

/-- A character that can begin the name of a variable. -/
def isNameStart (c : Char) : Bool := c.isAlpha || c == '_'

/-- A character that can stand in the name of a variable. -/
def isNameChar (c : Char) : Bool := c.isAlphanum || c == '_'

/-- A parameter that is named by one character. -/
def isSpecial (c : Char) : Bool := "!#$*-?@".toList.contains c || c.isDigit

/-- A text that can name a variable. -/
def isName (t : Text) : Bool := t.head?.any isNameStart && t.all isNameChar

/-- A word of plain characters, as a text. -/
def Word.bare? (w : Word) : Option Text :=
  w.mapM fun
    | .char c => some c
    | _ => none

/-- The plain characters in front of a word. -/
def Word.start : Word → Text
  | .char c :: rest => c :: Word.start rest
  | _ => []

/-- The word has the form of an assignment. -/
def Word.isAssignment (w : Word) : Bool :=
  let start := w.start
  let name := start.takeWhile isNameChar
  isName name && (start.drop name.length).head? == some '='

/-! ### Tokens -/

/-- The words that have a meaning of their own where a command can begin. -/
inductive Keyword
  | not | case | doing | done | elseIf | otherwise | endCase | endIf | each | ifTrue | within | thenDo | untilTrue
  | whileTrue | opening | closing
  deriving DecidableEq, Inhabited

namespace Keyword

/-- The keywords with their spellings. -/
def all : List (Keyword × String) :=
  [(not, "!"), (case, "case"), (doing, "do"), (done, "done"), (elseIf, "elif"), (otherwise, "else"),
    (endCase, "esac"), (endIf, "fi"), (each, "for"), (ifTrue, "if"), (within, "in"), (thenDo, "then"),
    (untilTrue, "until"), (whileTrue, "while"), (opening, "\x7b"), (closing, "\x7d")]

/-- The word that spells a keyword. -/
def spelling (k : Keyword) : String := (all.lookup k).getD ""

/-- The keyword that a word spells. -/
def ofText? (t : Text) : Option Keyword := (all.find? fun (_, s) => s.toList == t).map (·.1)

/-- A list of commands can end before this keyword. -/
def endsList (k : Keyword) : Bool :=
  [doing, done, elseIf, otherwise, endCase, endIf, thenDo, closing].contains k

end Keyword

/-- What a script is read as. -/
inductive Token
  | ending
  | newline
  | semicolon
  | ampersand
  | both
  | either
  | bar
  | opening
  | closing
  | endBranch
  | redirect
  | word
  | keyword (k : Keyword)
  deriving DecidableEq, Inhabited

namespace Token

/-- How complaints name a token. -/
def shown : Token → String
  | ending => "end of file"
  | newline => "newline"
  | semicolon => "\";\""
  | ampersand => "\"&\""
  | both => "\"&&\""
  | either => "\"||\""
  | bar => "\"|\""
  | opening => "\"(\""
  | closing => "\")\""
  | endBranch => "\";;\""
  | redirect => "redirection"
  | word => "word"
  | keyword k => "\"" ++ k.spelling ++ "\""

/-- A list of commands can end before this token. -/
def endsList : Token → Bool
  | ending | closing | endBranch => true
  | keyword k => k.endsList
  | _ => false

/-- The token is spelled by a word. -/
def isWord : Token → Bool
  | word | keyword _ => true
  | _ => false

end Token

end PipeShell.Script
