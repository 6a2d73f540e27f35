import PipeShell.Act
import PipeShell.Arguments
import PipeShell.Environment

/-!
# Builtins and their registry

A builtin is a program of the shell itself.  Besides its status it may ask for a new working directory or for an
exit.  A registry has at most one builtin of each name, in the order of the names.
-/

namespace PipeShell

/-- What a builtin tells the shell when it has ended. -/
structure Reply where
  status : Int := 0
  directory : Option Text := none
  exit : Option Int := none
  deriving DecidableEq, Inhabited

/-- The shell is asked to change its state. -/
def Reply.isRequest (r : Reply) : Bool := r.directory.isSome || r.exit.isSome

/-- What a builtin is called with: its words, of which the first is the name it was called by, and what the shell
knows. -/
structure Call where
  argv : List Text
  context : Context
  /-- The names of all builtins. -/
  builtins : List Text

/-- A command that the shell performs itself. -/
structure Builtin where
  name : Text
  run : Call → Act Reply

namespace Builtin

/-- Writes a diagnostic line, whose text comes in parts, and fails. -/
def fail (message : List Text) : Act Reply := do
  let _ ← Act.sayAll .err (message ++ [['\n']])
  return { status := 1 }

/-- A builtin that takes its words by a form.  Usage goes to the standard output, a mistake is a failure. -/
def ofForm {α : Type} (name : Text) (usage : Usage) (form : Form α) (start : α) (body : α → Call → Act Reply) :
    Builtin where
  name
  run call :=
    match form.read start call.argv.tail with
    | .accepted a => body a call
    | .mistake text => fail [text]
    | .usage => do
      let _ ← Act.sayAll .out [usage.text, ['\n']]
      return {}

end Builtin

/-- The builtins of a shell. -/
structure Registry where
  builtins : List Builtin := []

namespace Registry

/-- Puts a builtin into its place in the order of the names. -/
def insert (b : Builtin) : List Builtin → List Builtin
  | [] => [b]
  | c :: cs =>
    if b.name = c.name then b :: cs
    else if b.name < c.name then b :: c :: cs
    else c :: insert b cs

/-- Adds a builtin, in place of the former one of its name. -/
def register (r : Registry) (b : Builtin) : Registry := ⟨insert b r.builtins⟩

/-- The builtin of a name. -/
def find? (r : Registry) (name : Text) : Option Builtin := r.builtins.find? (·.name = name)

/-- The names of all builtins, in order. -/
def names (r : Registry) : List Text := r.builtins.map (·.name)

end Registry

end PipeShell
