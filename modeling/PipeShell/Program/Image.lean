import PipeShell.Program.Process

/-!
# Starting a program from its file

The file of a native program begins with a mark, after which the files of this machine have the name of the tool.  A
file that begins with `#!` names its interpreter on the first line.  The system starts no other file.
-/

namespace PipeShell

/-- What the file of a program says about how to run it. -/
inductive Image
  | native (tool : Text)
  | interpreted (interpreter : Text) (argument : Option Text)
  deriving DecidableEq, Inhabited

namespace Image

/-- How the file of a native program begins. -/
def mark : Bytes := 0x7f :: utf8 "ELF".toList

/-- The contents of the file of a tool. -/
def ofTool (tool : Text) : Bytes := mark ++ utf8 tool

/-- The system reads this many bytes of a file to see how to run it; a shorter file is continued with zeros. -/
def headSize : Nat := 256

/-- A blank between the words of the first line. -/
def isBlank (b : UInt8) : Bool := b == 32 || b == 9

/-- Some bytes up to a zero, as a text. -/
def textOf (b : Bytes) : Text := charsOf (b.takeWhile (· ≠ 0))

/-- The interpreter and its argument, from the words of the first line.  A zero ends a word. -/
def ofWords (line : Bytes) : Image :=
  let line := ((line.reverse.dropWhile isBlank).reverse).dropWhile isBlank
  let name := line.takeWhile fun b => ¬ isBlank b ∧ b ≠ 0
  match line.drop name.length with
  | [] | 0 :: _ => .interpreted (textOf name) none
  | rest => .interpreted (textOf name) (some (textOf (rest.dropWhile isBlank)))

/-- The interpreter and its argument, from the bytes after `#!`.  A line without end must have something after the
name of the interpreter, which could be cut off otherwise. -/
def ofFirstLine (head : Bytes) : Option Image :=
  if head.contains 10 then
    let line := head.takeWhile (· ≠ 10)
    if line.all isBlank then none else some (ofWords line)
  else if (head.dropWhile isBlank).any fun b => isBlank b ∨ b = 0 then some (ofWords head.dropLast)
  else none

/-- What a file says about how to run it. -/
def ofFile? (contents : Bytes) : Option Image :=
  if mark.isPrefixOf contents then some (.native (charsOf (contents.drop mark.length)))
  else
    match contents with
    | 35 :: 33 :: rest =>
      let head := rest.take (headSize - 2)
      ofFirstLine (head ++ List.replicate (headSize - 2 - head.length) 0)
    | _ => none

end Image

/-- A chain of interpreters may have this many links. -/
def interpreterLimit : Nat := 5

/-- Starts the file at `path` as a process. -/
def startFile (toolbox : List (Text × Program)) (h : Host) (links : Nat) (p : Process) (path : Text) :
    Except Fault (Job Ending) := do
  match ← (if path = [] then .error (.os .permission) else h.tree.walk .use p.here (readBack path)) with
  | .vacant _ _ => .error (.os .noEntry)
  | .found _ (.file n) =>
    let file := h.files.getD n {}
    if file.permissions &&& 0o111 = 0 then .error (.os .permission)
    else
      match Image.ofFile? file.contents with
      | none => .error (.os .notExecutable)
      | some (.native tool) => return ((toolbox.lookup tool).getD fun _ => .done (.exited 0)) p
      | some (.interpreted interpreter argument) =>
        match links with
        | 0 => .error (.os .tooManyLinks)
        | links + 1 =>
          startFile toolbox h links { p with argv := interpreter :: argument.toList ++ path :: p.words } interpreter
  | .found _ _ => .error (.os .permission)

/-- The directory that a path leads to. -/
def Host.directory (h : Host) (path : Text) : Except Fault Location := do
  match ← h.walk .use path with
  | .found l .directory => return l
  | .found _ _ => .error (.os .notDirectory)
  | .vacant _ _ => .error (.os .noEntry)

/-- A null character stands in an argument, a variable, or the directory. -/
def Launch.holdsNull (l : Launch) : Bool :=
  let null := Char.ofNat 0
  l.argv.any (·.contains null) || l.vars.any (fun (n, v) => n.contains null || v.contains null) || l.cwd.contains null

/-- The process that a launch makes, in a directory. -/
def Launch.process (l : Launch) (h : Host) (here : Location) : Process where
  argv := l.argv.map spellOut
  vars := l.vars.map fun (n, v) => (spellOut n, spellOut v)
  here := here
  number := h.nextProcess
  targets := [(StdStream.out, l.out), (StdStream.err, l.err)].filterMap fun
    | (s, .file handle) => some (s, handle)
    | _ => none

/-- Starts a program with a toolbox: first its words and variables are looked at, then the directory is entered, then
the file is read. -/
def startWith (toolbox : List (Text × Program)) (l : Launch) (h : Host) : Except Fault (Act Ending) :=
  if l.holdsNull then .error .nullInArgument
  else do
    let here ← h.directory l.cwd
    return (← startFile toolbox h interpreterLimit (l.process h here) (spellOut l.path)).toAct

end PipeShell
