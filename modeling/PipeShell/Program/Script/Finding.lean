import PipeShell.Lookup
import PipeShell.Program.Script.Shell

/-!
# What the name of a command stands for

Functions come before builtin commands, and these before programs.  A name with a slash is a path.  Other programs are
looked for along the search path, and those that are found are tracked, so that they need not be looked for again.
-/

namespace PipeShell.Script

/-- The builtin commands that functions can replace. -/
def plainBuiltins : List Text :=
  ["alias", "bg", "cd", "chdir", "command", "echo", "false", "fg", "getopts", "hash", "jobs", "kill", "printf", "pwd",
    "read", "test", "[", "true", "type", "ulimit", "umask", "unalias", "wait"].map String.toList

/-- What a name stands for. -/
inductive Meaning
  | function (body : Node)
  | builtin
  /-- A program, and the path where it has been found. -/
  | program (path : Text)
  | unknown
  deriving Inhabited

/-- A file in the machine that a name may stand for. -/
inductive Candidate
  | missing
  /-- The file cannot be executed. -/
  | unusable
  | usable
  deriving DecidableEq, Inhabited

namespace Run

/-- What is at a path that a name may stand for. -/
def candidate (s : Shell) (h : Host) (path : Text) : Candidate :=
  match h.tree.walk .use s.process.here (readBack path) with
  | .ok (.found _ (.file n)) => if (h.files.getD n {}).permissions &&& 0o111 ≠ 0 then .usable else .unusable
  | .ok (.found _ _) => .unusable
  | _ => .missing

/-- Finds a command, but no function if `plainly`; `path` is the search path if it is not the usual one.  With
`reports`, a failure is reported. -/
def find (name : Text) (plainly reports : Bool) (path : Option Text) : Run Meaning := do
  let s ← get
  if name.contains '/' then return .program name
  else
    match if plainly then none else s.functions.lookup name with
    | some body => return .function body
    | none =>
      match if path.isNone then s.tracked.lookup name else none with
      | some file => return .program file
      | none =>
        if specialBuiltins.contains name ∨ plainBuiltins.contains name then return .builtin
        else
          let files := Shell.candidates (path.getD s.searchPath) name
          let found ← ask fun h => files.map fun file => (file, candidate s h file)
          match found.find? (·.2 = .usable) with
          | some (file, _) =>
            if path.isNone then modify fun s => { s with tracked := s.tracked ++ [(name, file)] }
            return .program file
          | none =>
            if reports then
              let reason := if found.any (·.2 = .unusable) then ": Permission denied" else ": not found"
              complain (name ++ reason.toList)
            return .unknown

/-- Says what a name stands for: with `verbose` in a sentence, otherwise with words that mean the same. -/
def describe (name : Text) (path : Option Text) (verbose : Bool) : Run Nat := do
  let s ← get
  let say (words : String) : Run Nat := do
    printLine (if verbose then name ++ words.toList else name)
    return 0
  if (Keyword.ofText? name).isSome then say " is a shell keyword"
  else
    match s.aliases.lookup name with
    | some value =>
      printLine (if verbose then name ++ " is an alias for ".toList ++ value
        else "alias ".toList ++ name ++ '=' :: inSingleQuotes value)
      return 0
    | none =>
      let isTracked := path.isNone && (s.tracked.lookup name).isSome
      match ← find name false false path with
      | .function _ => say " is a shell function"
      | .builtin => say (if specialBuiltins.contains name then " is a special shell builtin" else " is a shell builtin")
      | .program file =>
        let isMissing ← if file.contains '/' ∧ name.contains '/' then ask fun h => candidate s h file == .missing
          else pure false
        if isMissing then failing
        else
          printLine (if verbose then
            name ++ (if isTracked then " is a tracked alias for " else " is ").toList ++ file else file)
          return 0
      | .unknown => failing
where
  /-- The name stands for nothing. -/
  failing : Run Nat := do
    if verbose then printLine (name ++ ": not found".toList)
    return 127

end Run

end PipeShell.Script
