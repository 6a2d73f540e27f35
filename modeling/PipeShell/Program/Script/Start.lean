import PipeShell.Program.Script.Evaluation

/-!
# The command interpreter

`interpreter` is the program `sh`.  Its options come first; then a script follows as a word, a file, or the input.
-/

namespace PipeShell.Script

namespace Shell

/-- The state with which an interpreter starts, without its options. -/
def start (p : Process) (h : Host) : Shell :=
  let set (name : String) (value : Text) : Variable := { name := name.toList, value := some value }
  let own : List Variable :=
    [set "IFS" " \t\n".toList, set "PATH" standardPath, set "PS1" "# ".toList, set "PS2" "> ".toList,
      set "PS4" "+ ".toList, set "OPTIND" ['1']]
  let empty : Shell := { process := p, name := p.name, vars := own, root := p.number, deaf := p.ignored }
  let s := (p.vars.filter fun (name, _) => isName name).foldl
    (fun s (name, value) => s.put { name, value := some value, isExported := true }) empty
  let again (s : Shell) (v : Variable) : Shell := s.put { v with isExported := (s.named? v.name).any (·.isExported) }
  let s := [set "IFS" " \t\n".toList, set "OPTIND" ['1'], set "PPID" (showNat p.parent)].foldl again s
  let isHere (path : Text) : Bool :=
    isAbsolute path &&
      match h.tree.walk .use p.here (readBack path) with
      | .ok (.found l .directory) => l == p.here
      | _ => false
  let directory := ((s.value? "PWD".toList).filter isHere).getD (Builtin.spelledPath p.here)
  { s with directory }.put { name := "PWD".toList, value := some directory, isExported := true }

end Shell

namespace Run

/-- Commands inside commands have at most this depth. -/
def depthLimit : Nat := 1000000

/-- Runs a script as the words of the interpreter say. -/
def main (load : Loader) (words : List Text) : Run Unit := do
  let evaluate := tree load depthLimit
  let settings ← Builtin.readSettings true (words.length + 1) { words }
  let hasControl := (← get).has 'm' || (← get).has 'i'
  Builtin.refuseControl hasControl
  let _ ← flush
  let name (words : List Text) : Run Unit :=
    match words with
    | name :: rest => modify fun s => { s with name, parameters := rest }
    | [] => return
  match settings.hasScript, settings.words with
  | true, [] => fail "-c requires an argument".toList
  | true, text :: rest =>
    name rest
    let reads := (← get).has 's'
    let _ ← script evaluate {} text
    if reads ∧ (← get).skip = .nothing then
      let _ ← file evaluate (.input 0) []
  | false, words =>
    if words = [] ∨ (← get).has 's' then
      modify fun s => { s.setOption 's' true with parameters := words }
      let _ ← file evaluate (.input 0) []
    else
      let text ← fileText (words.headD [])
      name words
      let _ ← file evaluate .file text

end Run

/-- The program `sh`. -/
def interpreter (load : Loader) : Program := fun p => do
  let start ← Job.ask (Shell.start p)
  Run.process (Run.tree load Run.depthLimit) (Run.main load p.words) start

end PipeShell.Script
