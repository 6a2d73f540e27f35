import PipeShell.Program.Process

/-!
# Options of tools

Options stand between the operands in any order, up to the word `--`: letters after one dash, of which some take a
value, and names after two, which may be cut short as long as they stay clear.  `OptionTable.scan` takes the words of a
process apart up to the first one that is not understood, and `OptionTable.apply` lets a tool take in one option after
the other before it runs.
-/

namespace PipeShell.Tool

/-- Whether an option has a value. -/
inductive Takes
  | nothing
  | value
  /-- A value may be added after an equals sign. -/
  | perhaps
  deriving DecidableEq, Inhabited

/-- An option that is spelled with a name. -/
structure LongOption where
  name : String
  /-- The letter that means the same, or the name itself. -/
  key : String
  takes : Takes := .nothing
  deriving DecidableEq, Inhabited

/-- The options that a tool knows. -/
structure OptionTable where
  /-- The letters of options without value. -/
  letters : String := ""
  /-- The letters of options with value. -/
  valued : String := ""
  names : List LongOption := []
  /-- All words after the first operand are operands. -/
  ordered : Bool := false
  /-- The lines that explain the tool. -/
  help : List String := []
  /-- The exit code of a tool that does not understand its words. -/
  code : Nat := 1

/-- A part of the words of a process. -/
inductive Item
  | option (key : String) (value : Text)
  | operand (word : Text)
  /-- A word that is not understood, and why. -/
  | mistake (message : Text)
  deriving DecidableEq, Inhabited

namespace OptionTable

/-- A word in the quotes of diagnostics about options. -/
def inQuotes (t : Text) : Text := '\'' :: t ++ ['\'']

/-- The names that every tool knows beside its own. -/
def allNames (t : OptionTable) : List LongOption :=
  t.names ++ [⟨"help", "help", .nothing⟩, ⟨"version", "version", .nothing⟩]

/-- Reads the letters of one word; the last one may still lack its value. -/
def scanLetters (t : OptionTable) : Text → List Item × Option Char
  | [] => ([], none)
  | c :: rest =>
    if t.valued.toList.contains c then
      if rest = [] then ([], some c) else ([.option (String.singleton c) rest], none)
    else if t.letters.toList.contains c then
      let (items, last) := t.scanLetters rest
      (.option (String.singleton c) [] :: items, last)
    else ([.mistake ("invalid option -- ".toList ++ inQuotes [c])], none)

/-- The options that a name can mean: one of this very name, or all that begin with it. -/
def meanings (t : OptionTable) (name : Text) : List LongOption :=
  match t.allNames.find? (·.name.toList == name) with
  | some o => [o]
  | none => t.allNames.filter fun o => name.isPrefixOf o.name.toList

/-- Reads words; an option at the end of a word may take the next word as its value. -/
def scan (t : OptionTable) : List Text → List Item
  | [] => []
  | w :: ws =>
    match w with
    | ['-', '-'] => ws.map .operand
    | '-' :: '-' :: body =>
      let name := body.takeWhile (· ≠ '=')
      let value := if body.length = name.length then none else some (body.drop (name.length + 1))
      match t.meanings name with
      | [] => [.mistake ("unrecognized option ".toList ++ inQuotes w)]
      | o :: others =>
        let shown := inQuotes ("--".toList ++ o.name.toList)
        if others.any fun o' => o'.key ≠ o.key ∨ o'.takes ≠ o.takes then
          [.mistake ("option ".toList ++ inQuotes w ++ " is ambiguous; possibilities:".toList ++
            (o :: others).flatMap fun o => ' ' :: inQuotes ("--".toList ++ o.name.toList))]
        else
          match o.takes, value with
          | .nothing, some _ => [.mistake ("option ".toList ++ shown ++ " doesn't allow an argument".toList)]
          | .value, none =>
            match ws with
            | [] => [.mistake ("option ".toList ++ shown ++ " requires an argument".toList)]
            | v :: ws => .option o.key v :: t.scan ws
          | .perhaps, none => .option o.key [] :: t.scan ws
          | _, v => .option o.key (v.getD []) :: t.scan ws
    | '-' :: c :: rest =>
      match t.scanLetters (c :: rest) with
      | (items, none) => items ++ if items.any (· matches .mistake _) then [] else t.scan ws
      | (items, some letter) =>
        match ws with
        | [] => items ++ [.mistake ("option requires an argument -- ".toList ++ inQuotes [letter])]
        | v :: ws => items ++ .option (String.singleton letter) v :: t.scan ws
    | _ => if t.ordered then (w :: ws).map .operand else .operand w :: t.scan ws

/-- Ends a tool with a pointer to its help after some lines of diagnostics. -/
def advise {α : Type} (t : OptionTable) (p : Process) (message : Text) : Work α :=
  p.die t.code (message ++ "\nTry '".toList ++ p.name ++ " --help' for more information.".toList)

/-- Ends a tool with nothing but a pointer to its help. -/
def pointToHelp {α : Type} (t : OptionTable) (p : Process) : Work α := do
  let _ ← p.put 2 (bytesOf ("Try '".toList ++ p.name ++ " --help' for more information.\n".toList))
  throw (.exited t.code)

/-- Explains a tool; an at sign stands for its name. -/
def explain {α : Type} (t : OptionTable) (p : Process) : Work α := do
  p.emitOr t.code Process.writeError (bytesOf (t.help.flatMap fun line =>
    line.toList.flatMap (fun c => if c = '@' then p.name else [c]) ++ ['\n']))
  throw (.exited 0)

/-- Takes in the items in their order, from some settings on. -/
def settle {σ : Type} (t : OptionTable) (p : Process) (take : σ → String → Text → Work σ) (s : σ) :
    List Item → Work σ
  | [] => return s
  | .operand _ :: rest => t.settle p take s rest
  | .mistake message :: _ => t.advise p message
  | .option key value :: rest =>
    if key = "help" then t.explain p
    else if key = "version" then throw (.exited 0)
    else do t.settle p take (← take s key value) rest

/-- The items of a process.  A variable can ask for options to stand in front of all operands. -/
def items (t : OptionTable) (p : Process) (words : List Text) : List Item :=
  scan { t with ordered := t.ordered || (p.vars.lookup "POSIXLY_CORRECT".toList).isSome } words

/-- Runs a tool on its words, after its options have been taken in. -/
def applyTo {σ : Type} (t : OptionTable) (p : Process) (words : List Text) (start : σ)
    (take : σ → String → Text → Work σ) (run : σ → List Text → Work Nat) : Job Ending :=
  Work.job do
    let items := t.items p words
    run (← t.settle p take start items) (items.filterMap fun
      | .operand w => some w
      | _ => none)

/-- Runs a tool after its options have been taken in. -/
def apply {σ : Type} (t : OptionTable) (p : Process) (start : σ) (take : σ → String → Text → Work σ)
    (run : σ → List Text → Work Nat) : Job Ending := t.applyTo p p.words start take run

/-- The value of a word that names one of some choices, which may be cut short as long as it stays clear. -/
def choose {α : Type} [BEq α] (t : OptionTable) (p : Process) (option : String) (value : Text)
    (choices : List (String × α)) : Work α :=
  let meant := match choices.find? (·.1.toList == value) with
    | some c => [c]
    | none => choices.filter fun c => value.isPrefixOf c.1.toList
  match meant with
  | (_, a) :: rest => if rest.all (·.2 == a) then return a else complaint "ambiguous"
  | [] => complaint "invalid"
where
  complaint (what : String) : Work α :=
    let shown := choices.map fun c => (Quoting.quoted c.1.toList, c.2)
    let lines := groups shown
    { t with code := 1 }.advise p (what.toList ++ " argument ".toList ++ Quoting.quoted value ++ " for ".toList ++
      Quoting.quoted option.toList ++ "\nValid arguments are:".toList ++
      lines.flatMap fun line => "\n  - ".toList ++ joinWith ", ".toList line)
  /-- Neighbours that mean the same stand on one line. -/
  groups : List (Text × α) → List (List Text)
    | [] => []
    | [(name, _)] => [[name]]
    | (name, a) :: (name', a') :: rest =>
      match groups ((name', a') :: rest) with
      | line :: lines => if a == a' then (name :: line) :: lines else [name] :: line :: lines
      | [] => [[name]]

end OptionTable

/-- The files that are read: the operands, or the input if there are none. -/
def inputsOf (operands : List Text) : List Text := if operands = [] then [['-']] else operands

end PipeShell.Tool
