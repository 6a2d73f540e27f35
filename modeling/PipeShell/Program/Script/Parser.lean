import PipeShell.Program.Script.WordReader

/-!
# From text to commands

A script is read one line of commands at a time, so that what a command changes is known when the next line is read.
Keywords have their meaning only where a command can begin; `Reader.watch` says what to look for before each token.
All functions that read commands call each other with less and less fuel.
-/

namespace PipeShell.Script

/-- Where a list of commands stands. -/
inductive ListKind
  /-- A line of the script. -/
  | line
  /-- Inside a command that needs some. -/
  | required
  /-- Inside a branch or a substitution, which may be empty. -/
  | optional
  deriving DecidableEq, Inhabited

/-- The builtin commands that no function can replace. -/
def specialBuiltins : List Text :=
  [".", ":", "break", "continue", "eval", "exec", "exit", "export", "local", "readonly", "return", "set", "shift",
    "times", "trap", "unset"].map String.toList

/-- A command in the background. -/
def Node.inBackground (line : Nat) : Node → Node
  | .pipeline commands _ => .pipeline commands true
  | .redirected line body redirects => .background line body redirects
  | n => .background line n []

/-- The parts of a simple command that have been read, in reverse order. -/
structure Simple where
  assignments : List Word := []
  words : List Word := []
  redirects : List Redirect := []
  deriving Inhabited

namespace Reader

/-- The lookout where a command can begin. -/
def atCommand : Lookout := { lines := true, keywords := true, aliases := true }

/-- Reads the documents that the last line has announced. -/
def readDocuments (script : Bool → Reader Node) : Reader Unit := do
  let awaited := (← get).awaited
  modify fun s => { s with awaited := [] }
  for d in awaited do
    let c ← if d.expands then nextJoined else next
    let (w, _, _) ← readWord script (.document d) (if d.expands then .double else .single) c
    modify fun s => { s with documents := (d.number, w) :: s.documents }

/-- Reads the operator of a redirection, of which `c` is the first character. -/
def readOperator (c : Char) (descriptor : Option Nat) : Reader Token := do
  let take (own : Nat) (kind : RedirectKind) : Reader Unit :=
    modify fun s => { s with redirect := (descriptor.getD own, kind), announced := none }
  let d ← nextJoined
  if c = '>' then
    match d with
    | some '>' => take 1 .append
    | some '|' => take 1 .overwrite
    | some '&' => take 1 .copy
    | d =>
      giveBack d
      take 1 .output
  else
    match d with
    | some '<' =>
      let e ← nextJoined
      if e ≠ some '-' then giveBack e
      let number := (← get).nextDocument
      take 0 (.document number)
      modify fun s => { s with nextDocument := number + 1, announced := some ⟨number, [], e = some '-', true⟩ }
    | some '&' => take 0 .copy
    | some '>' => take 0 .both
    | d =>
      giveBack d
      take 0 .input
  return .redirect

/-- The descriptor that a word in front of an operator names; there is none if the word is empty. -/
def descriptor? (w : Word) : Option (Option Nat) :=
  match w with
  | [] => some none
  | [.char c] => if c.isDigit then some (some (c.toNat - 48)) else none
  | _ => none

/-- Skips blanks and comments, and takes the character after them. -/
def skipBlanks : Reader (Option Char) :=
  repeating (fun () => do
    let c ← nextJoined
    if c = some ' ' ∨ c = some '\t' then return .inl ()
    else if c = some '#' then
      modify fun s => { s with text := s.text.dropWhile (· ≠ '\n') }
      return .inl ()
    else return .inr c) ()

/-- Reads a token that begins with an operator, or a word. -/
def readFresh (script : Bool → Reader Node) : Reader Token := do
  let either (d : Char) (double single : Token) : Reader Token := do
    let e ← nextJoined
    if e = some d then return double
    else
      giveBack e
      return single
  let c ← skipBlanks
  match c with
  | none => return .ending
  | some '\n' =>
    countLine
    return .newline
  | some '&' => either '&' .both .ampersand
  | some '|' => either '|' .either .bar
  | some ';' => either ';' .endBranch .semicolon
  | some '(' => return .opening
  | some ')' => return .closing
  | c =>
    let (w, isQuoted, c) ← readWord script .word .base c
    let operator? := if c = some '<' ∨ c = some '>' then if isQuoted then none else descriptor? w else none
    match operator? with
    | some descriptor => readOperator (c.getD ' ') descriptor
    | none =>
      giveBack c
      modify fun s => { s with word := w, isQuoted }
      return .word

/-- Reads a token, or the last one again. -/
def readPlainToken (script : Bool → Reader Node) : Reader Token := do
  if (← get).repeats then modify fun s => { s with repeats := false }
  else
    let t ← readFresh script
    modify fun s => { s with token := t }
  return (← get).token

/-- Skips ends of lines from the token `t` on. -/
def skipLines (script : Bool → Reader Node) (t : Token) : Reader Token :=
  repeating (fun t => do
    if t = .newline then
      readDocuments script
      watch {}
      return .inl (← readPlainToken script)
    else return .inr t) t

/-- Reads a token as the lookout says. -/
def readToken (script : Bool → Reader Node) : Reader Token := do
  repeating (fun (lookout : Lookout) => do
    let t ← readPlainToken script
    let t ← if lookout.lines then skipLines script t else pure t
    let s ← get
    let lookout := { lookout with aliases := lookout.aliases || s.lookout.aliases }
    watch {}
    let name? := if t = .word ∧ ¬ s.isQuoted then s.word.bare? else none
    match name? with
    | none => return .inr t
    | some name =>
      match if lookout.keywords then Keyword.ofText? name else none with
      | some k =>
        modify fun s => { s with token := .keyword k }
        return .inr (.keyword k)
      | none =>
        match if lookout.aliases ∧ ¬ s.active.contains name then s.aliases.lookup name else none with
        | some value =>
          if value ≠ [] then modify (·.enterAlias name value)
          return .inl lookout
        | none => return .inr t) (← get).lookout

/-- Reads the target of the redirection whose operator has been read. -/
def readTarget (script : Bool → Reader Node) : Reader Redirect := do
  let s ← get
  let (descriptor, kind) := s.redirect
  if s.announced.isSome then watch { endMark := true }
  if (← readToken script) ≠ .word then refuse
  let t ← get
  match s.announced with
  | none => return .mk descriptor kind t.word
  | some d =>
    let mark := t.word.filterMap fun
      | .char c | .escaped c => some c
      | _ => none
    set { t with awaited := t.awaited ++ [{ d with mark, expands := ¬ t.isQuoted }] }
    return .mk descriptor kind []

/-- Reads redirections as long as there are any. -/
def readRedirects (script : Bool → Reader Node) : Reader (List Redirect) := do
  watch { keywords := true, aliases := true }
  let rs ← repeating (fun (rs : List Redirect) => do
    if (← readToken script) = .redirect then return .inl ((← readTarget script) :: rs) else return .inr rs) []
  again
  return rs.reverse

/-- Reads a certain token. -/
def expect (script : Bool → Reader Node) (t : Token) : Reader Unit := do
  if (← readToken script) ≠ t then refuse (some t)

/-- Reads words as long as there are any; another token comes after them. -/
def readWords (script : Bool → Reader Node) : Reader (List Word) := do
  let ws ← repeating (fun (ws : List Word) => do
    if (← readToken script) = .word then return .inl ((← get).word :: ws) else return .inr ws) []
  return ws.reverse

/-- Reads the patterns of a branch, from the last token on; a token that is no word stands for the last word. -/
def readPatterns (script : Bool → Reader Node) : Reader (List Word) := do
  let ws ← repeating (fun (ws : List Word) => do
    let ws := (← get).word :: ws
    if (← readToken script) = .bar then
      let _ ← readToken script
      return .inl ws
    else return .inr ws) []
  if (← get).token ≠ .closing then refuse (some .closing)
  return ws.reverse

/-- All parameters of the script, each as a word of its own. -/
def allParameters : Word := [.mark, .parameter ['@'] .plain false [], .mark]

mutual

/-- Reads a list of commands.  There is none at the end of the script. -/
def readList (fuel : Nat) (kind : ListKind) : Reader (Option Node) :=
  match fuel with
  | 0 => fail "out of fuel"
  | fuel + 1 => do
    let script := readScript fuel
    let ended (n : Option Node) : Reader (Option Node) := do
      readDocuments script
      again
      modify fun s => { s with token := .ending }
      return n
    repeating (fun (before : Option Node) => do
      watch { atCommand with lines := kind ≠ .line }
      let t ← readToken script
      if t = .newline then
        readDocuments script
        return .inr (some (before.getD .nothing))
      else if t = .ending then
        return .inr (← ended (if kind = .line then before else some (before.getD .nothing)))
      else
        again
        if kind ≠ .line ∧ (kind = .optional ∨ before.isSome) ∧ t.endsList then return .inr (some (before.getD .nothing))
        let n ← readAndOr fuel
        let t ← readToken script
        let line := (← get).line
        let n := if t = .ampersand then n.inBackground line else n
        let n := before.elim n (.sequence · n)
        match t with
        | .ending => return .inr (← ended (some n))
        | .newline =>
          again
          return .inl (some n)
        | .ampersand | .semicolon => return .inl (some n)
        | _ =>
          if kind = .line then refuse
          again
          return .inr (some n)) none

/-- Reads a script inside a word, up to a closing bracket if there must be one. -/
def readScript (fuel : Nat) (isClosed : Bool) : Reader Node :=
  match fuel with
  | 0 => fail "out of fuel"
  | fuel + 1 => do
    let n ← readList fuel .optional
    if isClosed then expect (readScript fuel) .closing else readDocuments (readScript fuel)
    return n.getD .nothing

/-- Reads commands joined by `&&` and `||`. -/
def readAndOr (fuel : Nat) : Reader Node :=
  match fuel with
  | 0 => fail "out of fuel"
  | fuel + 1 => do
    let n ← readPipeline fuel
    repeating (fun n => do
      let t ← readToken (readScript fuel)
      if t = .both ∨ t = .either then
        watch atCommand
        let m ← readPipeline fuel
        return .inl (if t = .both then .both n m else .either n m)
      else
        again
        return .inr n) n

/-- Reads commands with pipes between them. -/
def readPipeline (fuel : Nat) : Reader Node :=
  match fuel with
  | 0 => fail "out of fuel"
  | fuel + 1 => do
    let isNegated := (← readToken (readScript fuel)) == .keyword .not
    if isNegated then watch { keywords := true, aliases := true } else again
    let n ← readCommand fuel
    let ns ← repeating (fun (ns : List Node) => do
      if (← readToken (readScript fuel)) = .bar then
        watch atCommand
        return .inl ((← readCommand fuel) :: ns)
      else return .inr ns) [n]
    again
    let n := if ns.length = 1 then n else .pipeline ns.reverse false
    return if isNegated then .negation n else n

/-- Reads the rest of a condition, after its first keyword. -/
def readCondition (fuel : Nat) : Reader Node :=
  match fuel with
  | 0 => fail "out of fuel"
  | fuel + 1 => do
    let script := readScript fuel
    let test ← readList fuel .required
    expect script (.keyword .thenDo)
    let yes ← readList fuel .required
    let t ← readToken script
    let no ← if t = .keyword .elseIf then readCondition fuel
      else if t = .keyword .otherwise then do pure ((← readList fuel .required).getD .nothing)
      else do
        again
        pure .nothing
    return .condition (test.getD .nothing) (yes.getD .nothing) no

/-- Reads the rest of a loop over words, after its first keyword. -/
def readEach (fuel line : Nat) : Reader Node :=
  match fuel with
  | 0 => fail "out of fuel"
  | fuel + 1 => do
    let script := readScript fuel
    let t ← readToken script
    let s ← get
    match if t = .word ∧ ¬ s.isQuoted then s.word.bare?.filter isName else none with
    | none => fail "Bad for loop variable"
    | some name =>
      watch atCommand
      let words ← if (← readToken script) = .keyword .within then do
          let ws ← readWords script
          let t := (← get).token
          if t ≠ .newline ∧ t ≠ .semicolon then refuse
          pure ws
        else do
          if (← get).token ≠ .semicolon then again
          pure [allParameters]
      watch atCommand
      expect script (.keyword .doing)
      let body ← readList fuel .required
      return .each line name words (body.getD .nothing)

/-- Reads the rest of a choice, after its first keyword. -/
def readChoice (fuel line : Nat) : Reader Node :=
  match fuel with
  | 0 => fail "out of fuel"
  | fuel + 1 => do
    let script := readScript fuel
    expect script .word
    let word := (← get).word
    watch atCommand
    expect script (.keyword .within)
    let branches ← repeating (fun (branches : List (List Word × Node)) => do
      watch { lines := true, keywords := true }
      let t ← readToken script
      if t = .keyword .endCase then return .inr branches
      else
        if t = .opening then
          let _ ← readToken script
        let patterns ← readPatterns script
        let body ← readList fuel .optional
        let branches := (patterns, body.getD .nothing) :: branches
        watch { lines := true, keywords := true }
        let t ← readToken script
        if t = .keyword .endCase then return .inr branches
        else if t = .endBranch then return .inl branches
        else refuse (some .endBranch)) []
    return .choice line word branches.reverse

/-- Reads a simple command, or the definition of a function. -/
def readSimple (fuel : Nat) : Reader Node :=
  match fuel with
  | 0 => fail "out of fuel"
  | fuel + 1 => do
    let script := readScript fuel
    let line := (← get).line
    repeating (fun (c : Simple) => do
      watch { aliases := c.words.isEmpty }
      match ← readToken script with
      | .word =>
        let w := (← get).word
        if c.words.isEmpty ∧ w.isAssignment then return .inl { c with assignments := w :: c.assignments }
        else return .inl { c with words := w :: c.words }
      | .redirect =>
        let r ← readTarget script
        return .inl { c with redirects := r :: c.redirects }
      | t =>
        match t, c with
        | .opening, ⟨[], [w], []⟩ =>
          expect script .closing
          match w.bare?.filter fun name => isName name && !specialBuiltins.contains name with
          | none => fail "Bad function name"
          | some name =>
            watch atCommand
            return .inr (.function name (← readCommand fuel))
        | _, _ =>
          again
          return .inr (.simple line c.assignments.reverse c.words.reverse c.redirects.reverse)) ({} : Simple)

/-- Reads a command that begins with the token that comes next. -/
def readCommand (fuel : Nat) : Reader Node :=
  match fuel with
  | 0 => fail "out of fuel"
  | fuel + 1 => do
    let script := readScript fuel
    let line := (← get).line
    let inner (last : Token) (make : Node → Node) : Reader Node := do
      let n ← readList fuel .required
      expect script last
      return make (n.getD .nothing)
    let loop (whileFails : Bool) : Reader Node := do
      let test ← readList fuel .required
      expect script (.keyword .doing)
      inner (.keyword .done) (.loop whileFails (test.getD .nothing))
    match ← readToken script with
    | .word | .redirect =>
      again
      readSimple fuel
    | t =>
      let n ← match t with
        | .keyword .ifTrue => do
          let n ← readCondition fuel
          expect script (.keyword .endIf)
          pure n
        | .keyword .whileTrue => loop false
        | .keyword .untilTrue => loop true
        | .keyword .each => do
          let n ← readEach fuel line
          expect script (.keyword .done)
          pure n
        | .keyword .case => readChoice fuel line
        | .opening => inner .closing (.subshell line · [])
        | .keyword .opening => inner (.keyword .closing) id
        | _ => refuse
      match n, ← readRedirects script with
      | n, [] => return n
      | .subshell line body _, rs => return .subshell line body rs
      | n, rs => return .redirected line n rs

end

/-- Reads the next line of commands.  There is none at the end of the script. -/
def readLine : Reader (Option Node) := do
  modify fun s => { s with repeats := false, awaited := [], lookout := {}, hitsEnd := false }
  readList limit .line

/-- Reads a text in which expansions are made, as between double quotes. -/
def readText : Reader Word := do
  let c ← nextJoined
  let (w, _, _) ← readWord (readScript limit) .text .double c
  return w

end Reader

end PipeShell.Script
