import PipeShell.Builtin.Basic
import PipeShell.Lookup

/-!
# The standard builtins

`cd` and `exit` change the shell, `echo` and `pwd` write to the standard output, and `type` says what a name stands
for.
-/

namespace PipeShell

namespace Builtin

/-- Writes texts to the standard output, and succeeds if that does. -/
def print (texts : List Text) : Act Reply := do
  match ← Act.sayAll .out texts with
  | none => return {}
  | some fault => fail fault.parts

/-! ### `pwd` -/

/-- The builtin `pwd` shows the current directory. -/
def pwd : Builtin :=
  ofForm "pwd".toList
    { synopsis := "pwd".toList, purpose := "Print the current working directory to standard output.".toList }
    ({} : Form Unit) () fun _ call => print [call.context.cwd, ['\n']]

/-! ### `cd` -/

/-- At most one operand, as it is. -/
def cdForm : Form (Option Text) where
  operand? a := if a = none then some ⟨"target".toList, fun word => .ok (some word)⟩ else none

/-- The directory that `cd` goes to; it is unknown if it is needed and there is no home. -/
def cdDestination (ctx : Context) : Option Text → Option Text
  | none => ctx.home
  | some [] => ctx.home
  | some ['~'] => ctx.home
  | some ('~' :: '/' :: rest) => ctx.home.map (joinPath · rest)
  | some target => some (joinPath ctx.cwd target)

/-- Goes to a directory, named `shown` in diagnostics. -/
def changeDirectory (shown destination : Text) : Act Reply := do
  match ← Act.ask (·.canonical? destination) with
  | none => fail ["cd: ".toList ++ shown ++ ": No such file or directory".toList]
  | some path =>
    if ← Act.ask (·.isDirectory path) then return { directory := some path }
    else fail ["cd: ".toList ++ shown ++ ": Not a directory".toList]

/-- The builtin `cd` changes the current directory. -/
def cd : Builtin :=
  ofForm "cd".toList
    { synopsis := "cd [--] [<target>]".toList
      purpose := ("Change the current working directory. If no target is provided, changes to the directory " ++
        "specified by the HOME environment variable.").toList
      operands := [("target".toList, ["directory to switch to; absolute, relative to the current".toList,
        "directory, or starting with ~.".toList])] }
    cdForm none fun target call =>
      match cdDestination call.context target with
      | none => fail ["cd: HOME not set".toList]
      | some destination => changeDirectory (target.getD ['~']) destination

/-! ### `exit` -/

/-- At most one operand, a number. -/
def exitForm : Form (Option Int) where
  operand? a := if a = none then some ⟨"code".toList, fun word => (readInt32 word).map some⟩ else none

/-- The builtin `exit` asks the shell to end. -/
def exit : Builtin :=
  ofForm "exit".toList
    { synopsis := "exit [--] [<code>]".toList
      purpose := "Exit the shell.".toList
      operands := [("code".toList, ["exit status, taken modulo 256. Defaults to 0.".toList])] }
    exitForm none fun code _ =>
      let status := code.getD 0 % 256
      return { status, exit := some status }

/-! ### `echo` -/

/-- What `echo` writes for its operands: the leading `-n` take away the end of the line, all else is written as it
is. -/
def echoTexts (words : List Text) : List Text :=
  let isFlag (word : Text) : Bool := word == ['-', 'n']
  let text := joinWith [' '] (words.dropWhile isFlag)
  if words.head?.any isFlag then [text] else [text, ['\n']]

/-- The builtin `echo` shows its words. -/
def echo : Builtin where
  name := "echo".toList
  run call := print (echoTexts call.argv.tail)

/-! ### `type` -/

/-- Any number of operands, and none of them is an option after the first. -/
def typeForm : Form (List Text) where
  operand? a := some ⟨"names".toList, fun word => .ok (a ++ [word])⟩
  isGreedy := true

/-- What a name stands for. -/
inductive Verdict
  | builtin
  | program (path : Text)
  | unknown
  deriving DecidableEq, Inhabited

/-- What a name stands for, among builtins with these names. -/
def verdict (builtins : List Text) (ctx : Context) (name : Text) (h : Host) : Verdict :=
  if builtins.contains name then .builtin
  else
    match h.program? ctx name with
    | some path => .program path
    | none => .unknown

/-- Says what each of the names stands for, where `status` is the status so far. -/
def sayVerdicts (call : Call) (status : Int) : List Text → Act Reply
  | [] => return { status }
  | name :: names => do
    let answer ← Act.ask (verdict call.builtins call.context name)
    let fault ← match answer with
      | .builtin => Act.sayAll .out [name, " is a shell builtin\n".toList]
      | .program path => Act.sayAll .out [name, " is ".toList, path, ['\n']]
      | .unknown => Act.sayAll .err [name, ": not found\n".toList]
    match fault with
    | some fault => fail fault.parts
    | none => sayVerdicts call (if answer = .unknown then 1 else status) names

/-- The builtin `type` tells what its names stand for. -/
def type : Builtin :=
  ofForm "type".toList
    { synopsis := "type [names...]".toList
      purpose := "tell how each name would be interpreted if used as a command.".toList }
    typeForm [] fun names call => sayVerdicts call 0 names

end Builtin

/-- The builtins of a standard shell. -/
def Registry.standard : Registry :=
  [Builtin.cd, Builtin.echo, Builtin.exit, Builtin.pwd, Builtin.type].foldl register {}

end PipeShell
