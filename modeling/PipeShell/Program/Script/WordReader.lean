import PipeShell.Program.Script.Source

/-!
# Reading words

A word is read character by character.  What a character means depends on the quotes and braces around it: the levels
of a `Draft` keep track of them, one for each change between the styles.  The same reader serves for the documents
that follow a line, where quotes mean nothing outside braces.  It takes the reader of scripts as an argument, because
a word can contain whole scripts; the flag says whether a closing bracket ends the script.
-/

namespace PipeShell.Script

/-- What is read. -/
inductive Goal
  | word
  /-- A text inside double quotes, up to its end. -/
  | text
  | document (d : Awaited)
  deriving DecidableEq, Inhabited

/-- How characters are understood. -/
inductive Style
  | base
  | double
  | single
  | arithmetic
  deriving DecidableEq, Inhabited

/-- What a character does. -/
inductive Effect
  | newline | plain | guarded | backslash | singleQuote | doubleQuote | endQuote | dollar | backquote | endBrace
  | openBracket | closeBracket | ending | special
  deriving DecidableEq, Inhabited

/-- The mark around the script of a command substitution. -/
def backquote : Char := Char.ofNat 96

/-- What a character does in a style. -/
def Style.effect (style : Style) (c : Option Char) : Effect :=
  match c with
  | none => .ending
  | some c =>
    if c = '\n' then .newline
    else if style = .single then
      if c = '\'' then .endQuote else if "!*?[]=~:/-\\".toList.contains c then .guarded else .plain
    else if c = '\\' then .backslash
    else if c = '$' then .dollar
    else if c = backquote then .backquote
    else if c = '\x7d' then .endBrace
    else
      match style with
      | .base =>
        if c = '\'' then .singleQuote
        else if c = '"' then .doubleQuote
        else if "<>();&| \t".toList.contains c then .special
        else .plain
      | .double =>
        if c = '"' then .endQuote else if "!*?[]=~:/-".toList.contains c then .guarded else .plain
      | .arithmetic => if c = '(' then .openBracket else if c = ')' then .closeBracket else .plain
      | .single => .plain

/-- A stretch of a word that is read in one style, with the braces and brackets that are open in it. -/
structure Level where
  style : Style
  isDouble : Bool := false
  /-- There are quotes inside braces inside quotes. -/
  hasInner : Bool := false
  braces : Nat := 0
  doubleBraces : Nat := 0
  brackets : Nat := 0
  /-- Braces have begun the level, and end it. -/
  isBraced : Bool := false
  deriving DecidableEq, Inhabited

/-- What is still open. -/
inductive Opened
  | parameter (name : Text) (modifier : Modifier) (emptyToo : Bool)
  | arithmetic
  deriving DecidableEq, Inhabited

/-- A word that is being read; parts are in reverse order. -/
structure Draft where
  level : Level
  levels : List Level := []
  parts : List Part := []
  opened : List (Opened × List Part) := []
  isQuoted : Bool := false
  deriving Inhabited

namespace Draft

/-- Adds a part. -/
def add (w : Draft) (p : Part) : Draft := { w with parts := p :: w.parts }

/-- Begins a level. -/
def enter (w : Draft) (level : Level) : Draft := { w with level, levels := w.level :: w.levels }

/-- Ends a level. -/
def leave (w : Draft) : Draft :=
  match w.levels with
  | level :: levels => { w with level, levels }
  | [] => w

/-- Begins something that has an end of its own. -/
def start (w : Draft) (o : Opened) : Draft := { w with opened := (o, w.parts) :: w.opened, parts := [] }

/-- Ends what has been begun last. -/
def finish (w : Draft) : Draft :=
  match w.opened with
  | (o, before) :: opened =>
    let inner := w.parts.reverse
    let part : Part := match o with
      | .parameter name modifier emptyToo => .parameter name modifier emptyToo inner
      | .arithmetic => .arithmetic inner
    { w with parts := part :: before, opened }
  | [] => w

/-- Notes that quotes begin or end. -/
def addMark (goal : Goal) (w : Draft) : Draft := if goal = .word then w.add .mark else w

/-- Notes that double quotes begin or end. -/
def toggle (goal : Goal) (w : Draft) : Draft :=
  addMark goal (if w.level.braces = 0 then w else { w with level.hasInner := !w.level.hasInner })

/-- Quotes end. -/
def endQuote (goal : Goal) (c : Char) (w : Draft) : Draft :=
  if goal ≠ .word ∧ w.level.braces = 0 then w.add (.char c)
  else
    let w := if w.level.doubleBraces = 0 then { w with level.style := .base, level.isDouble := false } else w
    let w := { w with isQuoted := true }
    if c = '"' then w.toggle goal else w.addMark goal

/-- Braces end, if there are any. -/
def endBrace (w : Draft) : Draft :=
  let level := w.level
  if level.hasInner ∨ level.braces = 0 then w.add (.char '\x7d')
  else
    let w := w.finish
    if level.braces = 1 ∧ level.isBraced then w.leave
    else { w with level.braces := level.braces - 1, level.doubleBraces := level.doubleBraces - 1 }

/-- Adds a character after a backslash. -/
def addEscaped (goal : Goal) (c : Char) (w : Draft) : Draft :=
  let level := w.level
  let keeps := level.isDouble ∧ c ≠ '\\' ∧ c ≠ backquote ∧ c ≠ '$' ∧
    (c ≠ '"' ∨ (goal ≠ .word ∧ level.braces = 0)) ∧ (c ≠ '\x7d' ∨ level.braces = 0)
  let w := if keeps then w.add (.escaped '\\') else w
  { w.add (.escaped c) with isQuoted := true }

end Draft

namespace Reader

/-- Repeats a step until it has a result. -/
def loop {σ β : Type} (fuel : Nat) (step : σ → Reader (σ ⊕ β)) (x : σ) (s : Source) : Except Text β × Source :=
  match fuel with
  | 0 => (.error [], s)
  | fuel + 1 =>
    match (step x).run s with
    | (.error message, s) => (.error message, s)
    | (.ok (.inl x), s) => loop fuel step x s
    | (.ok (.inr r), s) => (.ok r, s)

/-- Loops of readers end after this many rounds. -/
def limit : Nat := 1000000000

/-- Repeats a step until it has a result. -/
def repeating {σ β : Type} (step : σ → Reader (σ ⊕ β)) (x : σ) : Reader β := fun s => loop limit step x s

/-- Takes the next character. -/
def next : Reader (Option Char) := modifyGet Source.next

/-- Takes the next character after lines are joined. -/
def nextJoined : Reader (Option Char) := modifyGet Source.nextJoined

/-- Gives a character back. -/
def giveBack (c : Option Char) : Reader Unit := modify (·.giveBack c)

/-- Counts the end of a line. -/
def countLine : Reader Unit := modify Source.countLine

/-- Takes the characters from `c` on that fit, and the one after them. -/
def takeWhile (fits : Char → Bool) (c : Option Char) : Reader (Text × Option Char) :=
  repeating (fun (taken, c) => do
    match c with
    | some d => if fits d then return .inl (d :: taken, ← nextJoined) else return .inr (taken.reverse, c)
    | none => return .inr (taken.reverse, c)) (([] : Text), c)

/-! ### Expansions -/

/-- What stands between a brace and the modifier of an expansion. -/
inductive Header
  | named (name : Text) (after : Option Char)
  | measured (name : Text) (after : Option Char)
  | bad (name : Text) (after : Option Char)
  deriving DecidableEq, Inhabited

/-- Reads the name of a parameter, from `c` on, if it has a name of letters or digits. -/
def readName? (c : Option Char) : Reader (Option (Text × Option Char)) := do
  if c.any isNameStart then return some (← takeWhile isNameChar c)
  else if c.any Char.isDigit then return some (← takeWhile Char.isDigit c)
  else return none

/-- Reads the name in braces, of which `c` is the first character. -/
def readHeader (c : Option Char) : Reader Header := do
  match ← readName? c with
  | some (name, c) => return .named name c
  | none =>
    if c = some '\x7d' then return .bad [] c
    else
      let d ← nextJoined
      let special (c d : Option Char) : Header :=
        match c.filter isSpecial with
        | some c => .named [c] d
        | none => .bad [] d
      if c ≠ some '#' then return special c d
      else
        match ← readName? d with
        | some (name, e) => return .measured name e
        | none =>
          let e ← nextJoined
          if d = some '\x7d' ∨ e ≠ some '\x7d' then
            giveBack e
            return .named ['#'] d
          else
            match d.filter isSpecial with
            | some d => return .measured [d] e
            | none => return .bad [] e

/-- The modifiers of one character. -/
def modifier? (c : Option Char) : Option Modifier :=
  c.bind fun c =>
    [('\x7d', Modifier.plain), ('-', .default), ('+', .alternative), ('?', .demand), ('=', .assign)].lookup c

/-- Reads an expansion in braces. -/
def readBraced (w : Draft) : Reader Draft := do
  let (name, modifier, emptyToo) ← do
    match ← readHeader (← nextJoined) with
    | .bad name c =>
      giveBack c
      pure (name, Modifier.malformed, false)
    | .measured name c =>
      giveBack c
      pure (name, if c = some '\x7d' then Modifier.length else .malformed, false)
    | .named name c =>
      if c = some ':' then pure (name, (modifier? (← nextJoined)).getD .malformed, true)
      else if c = some '%' ∨ c = some '#' then
        let d ← nextJoined
        if d ≠ c then giveBack d
        pure (name, if c = some '#' then Modifier.cutStart (d = c) else .cutEnd (d = c), false)
      else pure (name, (modifier? c).getD .malformed, false)
  let isPattern := match modifier with
    | .cutStart _ | .cutEnd _ => true
    | _ => false
  let style := if isPattern then .base else if w.level.style = .arithmetic then .double else w.level.style
  if modifier = .plain ∧ ¬ emptyToo then return w.add (.parameter name .plain false [])
  else
    let w := if style ≠ w.level.style ∨ w.level.hasInner then
        w.enter { style, isBraced := true, isDouble := style ≠ .base }
      else w
    let level := w.level
    let w := { w with level.braces := level.braces + 1 }
    return { w with level.doubleBraces := level.doubleBraces + if level.isDouble then 1 else 0 }.start
      (.parameter name modifier emptyToo)

/-- Reads a script inside brackets, after the opening one. -/
def readInner (script : Bool → Reader Node) : Reader Node := do
  let awaited := (← get).awaited
  modify fun s => { s with awaited := [] }
  let n ← script true
  modify fun s => { s with awaited }
  return n

/-- Reads the text of a script between backquotes. -/
def readOldText (isDouble : Bool) : Reader Text :=
  repeating (fun (taken : Text) => do
    match ← nextJoined with
    | none => fail "EOF in backquote substitution"
    | some c =>
      if c = backquote then return .inr taken.reverse
      else if c = '\\' then
        match ← next with
        | none => return .inl ('\\' :: taken)
        | some d =>
          let isBare := d = '\\' ∨ d = backquote ∨ d = '$' ∨ (isDouble ∧ d = '"')
          return .inl (d :: if isBare then taken else '\\' :: taken)
      else
        if c = '\n' then countLine
        return .inl (c :: taken)) []

/-- Reads a script between backquotes. -/
def readOld (script : Bool → Reader Node) (isDouble : Bool) : Reader Node := do
  let text ← readOldText isDouble
  let s ← get
  set (s.inside text)
  let n ← script false
  modify fun t => { t with text := s.text, line := s.line, outer := s.outer, repeats := false, awaited := s.awaited }
  return n

/-- Reads what begins with a dollar. -/
def readDollar (script : Bool → Reader Node) (w : Draft) : Reader Draft := do
  let c ← nextJoined
  let begins : Bool := c.any fun c => c == '(' || c == '\x7b' || isNameStart c || isSpecial c
  if (← get).lookout.endMark ∨ ¬ begins then
    giveBack c
    return w.add (.char '$')
  else if c = some '(' then
    let d ← nextJoined
    if d = some '(' then return (w.enter { style := .arithmetic, isDouble := true }).start .arithmetic
    else
      giveBack d
      return w.add (.output (← readInner script))
  else if c = some '\x7b' then readBraced w
  else if c.any isNameStart then
    let (name, d) ← takeWhile isNameChar c
    giveBack d
    return w.add (.parameter name .plain false [])
  else return w.add (.parameter c.toList .plain false [])

/-! ### Whole words -/

/-- Looks for the end mark of a document at the start of a line, and says which character is the next one. -/
def checkEnd (goal : Goal) (c : Option Char) : Reader (Option Char) := do
  match goal with
  | .document d =>
    let c ← if d.withoutTabs ∧ c = some '\t' then
        let (_, c) ← takeWhileRaw c
        pure c
      else pure c
    let s ← get
    match Source.skipMark? d.mark (c.toList ++ s.text) with
    | some text =>
      set ({ s with text }.countLine)
      return none
    | none => return c
  | _ => return c
where
  /-- Takes tabs, and the character after them. -/
  takeWhileRaw (c : Option Char) : Reader (Unit × Option Char) :=
    repeating (fun (c : Option Char) => do
      if c = some '\t' then return .inl (← next) else return .inr ((), c)) c

/-- Takes in one character.  The result is the next one, or none at all if the word has ended before this one. -/
def step (script : Bool → Reader Node) (goal : Goal) (w : Draft) (c : Option Char) :
    Reader ((Draft × Option Char) ⊕ (Draft × Option Char)) := do
  let level := w.level
  let more (w : Draft) : Reader (Option Char) := if w.level.style = .single then next else nextJoined
  let go (w : Draft) : Reader ((Draft × Option Char) ⊕ (Draft × Option Char)) := do return .inl (w, ← more w)
  let literal : Part := .char (c.getD ' ')
  match level.style.effect c with
  | .newline =>
    if level.style = .base ∧ level.braces = 0 then return .inr (w, c)
    else
      countLine
      return .inl (w.add literal, ← checkEnd goal (← more w))
  | .plain => go (w.add literal)
  | .guarded =>
    go (w.add (if goal = .word ∨ level.isDouble ∨ level.braces ≠ 0 then .escaped (c.getD ' ') else literal))
  | .backslash =>
    match ← next with
    | none => go (w.add (.escaped '\\'))
    | some d => go (w.addEscaped goal d)
  | .singleQuote => go (Draft.addMark goal { w with level.style := .single })
  | .doubleQuote => go ({ w with level.style := .double, level.isDouble := true }.toggle goal)
  | .endQuote => go (w.endQuote goal (c.getD ' '))
  | .dollar => go (← readDollar script w)
  | .endBrace => go w.endBrace
  | .openBracket => go { w.add literal with level.brackets := level.brackets + 1 }
  | .closeBracket =>
    if level.brackets ≠ 0 then go { w.add literal with level.brackets := level.brackets - 1 }
    else
      let d ← nextJoined
      if d = some ')' then go w.finish.leave
      else
        giveBack d
        go (w.add literal)
  | .backquote =>
    if (← get).lookout.endMark then go (w.add literal)
    else go (w.add (.output (← readOld script level.isDouble)))
  | .ending => return .inr (w, c)
  | .special => if level.braces = 0 then return .inr (w, c) else go (w.add literal)

/-- Reads a word from the character `c` on, and the character that ends it. -/
def readWord (script : Bool → Reader Node) (goal : Goal) (style : Style) (c : Option Char) :
    Reader (Word × Bool × Option Char) := do
  let c ← checkEnd goal c
  let (w, c) ← repeating (fun (w, c) => step script goal w c)
    (({ level := { style, isDouble := style = .double } } : Draft), c)
  let level := w.level
  if level.style = .arithmetic then fail "Missing '))'"
  else if level.style ≠ .base ∧ goal = .word then fail "Unterminated quoted string"
  else if level.braces ≠ 0 then fail "Missing '\x7d'"
  else return (w.parts.reverse, w.isQuoted, c)

end Reader

end PipeShell.Script
