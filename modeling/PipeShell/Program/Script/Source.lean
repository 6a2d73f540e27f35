import PipeShell.Program.Script.Syntax

/-!
# The text that a script is read from

A source is a text with a place in it.  Characters are taken from its front, and a backslash before the end of a line
joins two lines.  The value of an alias is put in front of the text; as long as its characters are read, and until the
character after them has been read too, the alias is not replaced again.
-/

namespace PipeShell.Script

/-- The text after the value of an alias. -/
structure Continuation where
  name : Text
  text : Text
  deriving DecidableEq, Inhabited

/-- What to look for in the next token. -/
structure Lookout where
  /-- Ends of lines are skipped. -/
  lines : Bool := false
  keywords : Bool := false
  aliases : Bool := false
  /-- The word is the end mark of a document, in which nothing is expanded. -/
  endMark : Bool := false
  deriving DecidableEq, Inhabited

/-- A document that is to be read after the end of the line. -/
structure Awaited where
  number : Nat
  mark : Text
  withoutTabs : Bool
  expands : Bool
  deriving DecidableEq, Inhabited

/-- The text of a script, and what has been learned on the way. -/
structure Source where
  text : Text
  /-- The number of the line. -/
  line : Nat := 1
  /-- The last character that was read. -/
  before : Char := '\n'
  outer : List Continuation := []
  /-- Aliases whose values are being read. -/
  active : List Text := []
  /-- Aliases whose values have ended with the last character. -/
  ended : List Text := []
  aliases : List (Text × Text) := []
  lookout : Lookout := {}
  /-- The last token; it is the next one again if `repeats`. -/
  token : Token := .newline
  repeats : Bool := false
  word : Word := []
  /-- The last word has quotes in it. -/
  isQuoted : Bool := false
  /-- The descriptor and kind of the last redirection. -/
  redirect : Nat × RedirectKind := (0, .input)
  /-- The document that the last redirection takes. -/
  announced : Option Awaited := none
  awaited : List Awaited := []
  /-- The documents by their numbers, with those that are plain text. -/
  documents : List (Nat × Word) := []
  nextDocument : Nat := 0
  /-- Somebody has asked for a character behind the end. -/
  hitsEnd : Bool := false
  deriving Inhabited

/-- Reading a script: it changes the source, and can fail with a message. -/
abbrev Reader := ExceptT Text (StateM Source)

namespace Source

/-- Goes on behind the value of an alias that has ended. -/
def leaveAlias (s : Source) (c : Continuation) (outer : List Continuation) : Source :=
  let isBlank := s.before == ' ' || s.before == '\t'
  { s with
    text := c.text
    outer := outer
    ended := c.name :: s.ended
    lookout := if isBlank then { s.lookout with aliases := true } else s.lookout }

/-- The first character from the texts after the values of aliases. -/
def nextOuter (s : Source) : List Continuation → Option Char × Source
  | [] => (none, { s with outer := [], hitsEnd := true })
  | c :: outer =>
    let s := s.leaveAlias c outer
    match s.text with
    | d :: text => (some d, { s with text, before := d })
    | [] => nextOuter s outer

/-- Takes the next character; there is none at the end. -/
def next (s : Source) : Option Char × Source :=
  let s := if s.ended.isEmpty then s else { s with active := s.active.filter (!s.ended.contains ·), ended := [] }
  match s.text with
  | c :: text => (some c, { s with text, before := c })
  | [] => s.nextOuter s.outer

/-- Gives a character back. -/
def giveBack (s : Source) (c : Option Char) : Source :=
  match c with
  | some c => { s with text := c :: s.text }
  | none => s

/-- Another line begins. -/
def countLine (s : Source) : Source := { s with line := s.line + 1 }

/-- Takes the next character after lines are joined. -/
def nextJoinedWithin (fuel : Nat) (s : Source) : Option Char × Source :=
  match fuel, s.next with
  | fuel + 1, (some '\\', s) =>
    match s.next with
    | (some '\n', s) => nextJoinedWithin fuel s.countLine
    | (c, s) => (some '\\', s.giveBack c)
  | _, result => result

/-- Takes the next character after lines are joined. -/
def nextJoined (s : Source) : Option Char × Source :=
  match s.text with
  | '\\' :: _ | [] => s.nextJoinedWithin (s.text.length + 1)
  | _ => s.next

/-- Puts the value of an alias in front. -/
def enterAlias (s : Source) (name value : Text) : Source :=
  { s with text := value, outer := ⟨name, s.text⟩ :: s.outer, active := name :: s.active }

/-- The source that reads another text in between. -/
def inside (s : Source) (text : Text) : Source :=
  { s with text, line := 1, outer := [], repeats := false, awaited := [] }

/-- The text goes on after an end mark, which ends with a line or the text. -/
def skipMark? (mark text : Text) : Option Text :=
  match mark, text with
  | [], [] => some []
  | [], '\n' :: rest => some rest
  | m :: mark, c :: rest => if m = c then skipMark? mark rest else none
  | _, _ => none

end Source

namespace Reader

/-- The reading fails with a message. -/
def fail {α : Type} (message : String) : Reader α := throw message.toList

/-- The last token does not fit; another one may be expected. -/
def refuse {α : Type} (expected : Option Token := none) : Reader α := do
  let found := (← get).token.shown
  match expected with
  | none => fail (found ++ " unexpected")
  | some t => fail (found ++ " unexpected (expecting " ++ t.shown ++ ")")

/-- The last token is to be read again. -/
def again : Reader Unit := modify fun s => { s with repeats := true }

/-- Says what to look for in the next token. -/
def watch (lookout : Lookout) : Reader Unit := modify fun s => { s with lookout }

end Reader

end PipeShell.Script
