import PipeShell.Host.Change
import PipeShell.Program.Tool.Help
import PipeShell.Program.Tool.Options
import PipeShell.Program.Tool.Permission

/-!
# Tools that change the directory tree

`mkdir`, `rmdir`, `rm`, `chmod` and `touch`.
-/

namespace PipeShell.Tool

/-- Applies a change to each operand; the flag says that it went well. -/
def forEach (change : Text → Work Bool) (code : Nat) : List Text → Work Nat
  | [] => return code
  | name :: names => do forEach change (if ← change name then code else 1) names

/-- Reports a fault that concerns a file. -/
def blame (p : Process) (words : String) (name : Text) (fault : Fault) : Job Unit :=
  p.complain (words.toList ++ ' ' :: Quoting.shellQuoted name ++ ": ".toList ++ fault.reason)

/-- Writes a line of output. -/
def announce (p : Process) (line : Text) : Work Unit := p.emit (bytesOf (line ++ ['\n']))

/-! ### `mkdir` and `rmdir` -/

/-- Which directories `mkdir` and `rmdir` treat, and whether they tell about it. -/
structure DirectoryOptions where
  parents : Bool := false
  verbose : Bool := false
  mode : Option Text := none
  /-- Directories that are not empty stay without a report. -/
  sparesFilled : Bool := false
  deriving Inhabited

def mkdirOptions : OptionTable where
  letters := "pvZ"
  valued := "m"
  names := [⟨"context", "context", .perhaps⟩, ⟨"mode", "m", .value⟩, ⟨"parents", "p", .nothing⟩,
    ⟨"verbose", "v", .nothing⟩]
  help := Help.mkdir

/-- Makes a directory, and tells about it. -/
def makeOne (p : Process) (o : DirectoryOptions) (name : Text) : Work (Option Fault) := do
  let fault ← (Job.attempt (·.makeDirectory (p.path name)) : Job (Option Fault))
  if fault.isNone ∧ o.verbose then
    announce p (p.name ++ ": created directory ".toList ++ Quoting.shellQuoted name)
  return fault

/-- Reports that a directory cannot be made. -/
def blameMaking (p : Process) (name : Text) (fault : Fault) : Job Unit :=
  p.complain ("cannot create directory ".toList ++ Quoting.quoted name ++ ": ".toList ++ fault.reason)

/-- Makes the directories on the way along `names`, after `done`; a step may find what it would make. -/
def makeWay (p : Process) (o : DirectoryOptions) (done : Text) : List Text → Work Bool
  | [] => return true
  | name :: names => do
    let path := done ++ name
    if name = [] then makeWay p o (path ++ ['/']) names
    else if ← (Job.ask (·.isDirectory (p.path path)) : Job Bool) then makeWay p o (path ++ ['/']) names
    else
      match ← makeOne p o (if names.all (· = []) then path ++ names.map (fun _ => '/') else path) with
      | none => makeWay p o (path ++ ['/']) names
      | some fault =>
        let isThere ← (Job.ask (fun h => (h.node? (p.path path)).isSome) : Job Bool)
        let isOnWay := fault = .os .alreadyExists ∧ isThere ∧ names.any (· ≠ [])
        blameMaking p path (if isOnWay then .os .notDirectory else fault)
        return false

/-- The tool `mkdir`. -/
def mkdir : Program := Process.buffered 1 fun p =>
  mkdirOptions.apply p ({} : DirectoryOptions) (fun o key value => return match key with
    | "p" => { o with parents := true }
    | "v" => { o with verbose := true }
    | "m" => { o with mode := some value }
    | _ => o) fun o operands => do
    if operands = [] then mkdirOptions.advise p "missing operand".toList
    if let some mode := o.mode then
      if (PermissionChange.ofText? mode).isNone then p.die 1 ("invalid mode ".toList ++ Quoting.quoted mode)
    forEach (fun name => do
      if o.parents ∧ name ≠ [] then makeWay p o [] (splitAt '/' name)
      else
        match ← makeOne p o name with
        | none => return true
        | some fault =>
          blameMaking p name fault
          return false) 0 operands

def rmdirOptions : OptionTable where
  letters := "pv"
  names := [⟨"ignore-fail-on-non-empty", "ignore", .nothing⟩, ⟨"path", "p", .nothing⟩, ⟨"parents", "p", .nothing⟩,
    ⟨"verbose", "v", .nothing⟩]
  help := Help.rmdir

/-- Removes a directory, and those that are in front of it in its path if it is asked for. -/
def removeWay (p : Process) (o : DirectoryOptions) (fuel : Nat) (isFirst : Bool) (name : Text) : Work Bool :=
  match fuel with
  | 0 => return true
  | fuel + 1 => do
    if o.verbose then announce p (p.name ++ ": removing directory, ".toList ++ Quoting.shellQuoted name)
    let isDot := (splitAt '/' name).getLast? = some ['.']
    let remove (h : Host) : Except Fault Host :=
      if isDot then (h.walk .use (p.path name)).bind fun _ => .error (.os .invalid) else h.removeDirectory (p.path name)
    match ← (Job.attempt remove : Job (Option Fault)) with
    | some fault =>
      if fault = .os .notEmpty ∧ o.sparesFilled then return true
      blame p (if isFirst then "failed to remove" else "failed to remove directory") name fault
      return false
    | none =>
      let rest := (((name.reverse.dropWhile (· = '/')).dropWhile (· ≠ '/')).dropWhile (· = '/')).reverse
      if o.parents ∧ rest ≠ [] then removeWay p o fuel false rest else return true

/-- The tool `rmdir`. -/
def rmdir : Program := Process.buffered 1 fun p =>
  rmdirOptions.apply p ({} : DirectoryOptions) (fun o key _ => return match key with
    | "p" => { o with parents := true }
    | "v" => { o with verbose := true }
    | _ => { o with sparesFilled := true }) fun o operands => do
    if operands = [] then rmdirOptions.advise p "missing operand".toList
    forEach (fun name => removeWay p o (name.length + 1) true name) 0 operands

/-! ### `rm` -/

/-- When `rm` asks before it removes. -/
inductive AskMode
  | never
  | once
  | always
  deriving DecidableEq, Inhabited

/-- What `rm` removes, and how. -/
structure RemoveOptions where
  force : Bool := false
  asks : AskMode := .never
  recursive : Bool := false
  emptyDirectories : Bool := false
  verbose : Bool := false
  keepsRoot : Bool := true
  deriving Inhabited

namespace RemoveOptions

def options : OptionTable where
  letters := "dfirvIR"
  names := [⟨"force", "f", .nothing⟩, ⟨"interactive", "interactive", .perhaps⟩,
    ⟨"one-file-system", "one-file-system", .nothing⟩, ⟨"no-preserve-root", "no-preserve-root", .nothing⟩,
    ⟨"preserve-root", "preserve-root", .perhaps⟩, ⟨"recursive", "r", .nothing⟩, ⟨"dir", "d", .nothing⟩,
    ⟨"verbose", "v", .nothing⟩]
  help := Help.rm

def take (p : Process) (o : RemoveOptions) (key : String) (value : Text) : Work RemoveOptions := do
  match key with
  | "d" => return { o with emptyDirectories := true }
  | "f" => return { o with force := true, asks := .never }
  | "i" => return { o with force := false, asks := .always }
  | "I" => return { o with force := false, asks := .once }
  | "r" | "R" => return { o with recursive := true }
  | "v" => return { o with verbose := true }
  | "interactive" =>
    let modes := [("never", AskMode.never), ("no", .never), ("none", .never), ("once", .once), ("always", .always),
      ("yes", .always)]
    let asks ← if value = [] then pure AskMode.always else options.choose p "--interactive" value modes
    return { o with asks, force := if asks = .never then o.force else false }
  | "no-preserve-root" =>
    let name := "--no-preserve-root".toList
    if p.words.any fun w => w ≠ name ∧ "--n".toList.isPrefixOf w ∧ w.isPrefixOf name then
      p.die 1 "you may not abbreviate the --no-preserve-root option".toList
    return { o with keepsRoot := false }
  | _ => return o

/-- Reads a line of input up to its end, one byte after the other. -/
def readLine (p : Process) (rounds : Nat) (line : Bytes) : Job Bytes :=
  match rounds with
  | 0 => return line
  | rounds + 1 => do
    match ← p.take 0 1 with
    | .ok [b] => if b = 10 then return line else readLine p rounds (line ++ [b])
    | _ => return line

/-- Asks a question, which only a word with a `y` in front answers with yes. -/
def ask (p : Process) (question : Text) : Job Bool := do
  let _ ← p.put 2 (bytesOf (p.name ++ ": ".toList ++ question ++ "? ".toList))
  let line ← readLine p Job.longRun []
  return line.head? == some 121 || line.head? == some 89

/-- The last component of a path is a dot or two. -/
def isDots (name : Text) : Bool :=
  match (splitAt '/' name).reverse.dropWhile (· = []) with
  | last :: _ => last == ['.'] || last == ['.', '.']
  | [] => false

/-- What stands at a path, for questions. -/
def kind (h : Host) : Node → String
  | .directory => "directory"
  | .link _ => "symbolic link"
  | .device _ => "character special file"
  | .file n => if (h.files.getD n {}).contents = [] then "regular empty file" else "regular file"

/-- A path with a slash at its end names a link that leads nowhere. -/
def namesLink (h : Host) (path : Text) : Bool :=
  path.getLast? == some '/' &&
    match h.walk .inspect ((path.reverse.dropWhile (· = '/')).reverse) with
    | .ok (.found _ (.link _)) => true
    | _ => false

/-- Removes what a name stands for, and what is below it. -/
def removeName (p : Process) (o : RemoveOptions) (fuel : Nat) (name : Text) : Work Bool :=
  match fuel with
  | 0 => return true
  | fuel + 1 => do
    let blamed (fault : Fault) : Work Bool := do
      blame p "cannot remove" name fault
      return false
    let h ← (Job.ask id : Job Host)
    let shown := Quoting.shellQuoted name
    match h.walk .inspect (p.path name) with
    | .error fault =>
      if o.force ∧ (fault = .os .noEntry ∨ fault = .os .notDirectory) then return true
      else blamed (if o.asks ≠ .always ∧ namesLink h (p.path name) then .os .notDirectory else fault)
    | .ok (.vacant _ _) =>
      if o.force then return true
      else blamed (.os (if o.asks ≠ .always ∧ namesLink h (p.path name) then .notDirectory else .noEntry))
    | .ok (.found l node) =>
      let finish (message : String) (change : Host → Except Fault Host) : Work Bool := do
        match ← (Job.attempt change : Job (Option Fault)) with
        | some fault => blamed fault
        | none =>
          if o.verbose then announce p (message.toList ++ shown)
          return true
      let agrees (question : String) : Work Bool := do
        if o.asks = .always then ask p (question.toList ++ ' ' :: shown) else return true
      if node = .directory then
        let names := h.tree.names l
        if ¬ o.recursive ∧ ¬ o.emptyDirectories then blamed (.os .isDirectory)
        else if ¬ o.recursive ∧ names ≠ [] then blamed (.os .notEmpty)
        else if isDots name then
          p.complain ("refusing to remove '.' or '..' directory: skipping ".toList ++ shown)
          return false
        else if o.recursive ∧ o.keepsRoot ∧ l = [] then
          p.complain ("it is dangerous to operate recursively on ".toList ++ shown ++
            if name = ['/'] then [] else " (same as '/')".toList)
          p.complain "use --no-preserve-root to override this failsafe".toList
          return false
        else
          if names ≠ [] then
            if ¬ (← agrees "descend into directory") then return true
            let stem := if name.getLast? = some '/' then name else name ++ ['/']
            let code ← forEach (fun n => removeName p o fuel (stem ++ spellOut n)) 0 names
            if code ≠ 0 then return false
          if ← agrees "remove directory" then
            finish "removed directory " (·.removeDirectory (p.path name))
          else return true
      else if ← agrees ("remove " ++ kind h node) then finish "removed " (·.removeFile (p.path name))
      else return true

end RemoveOptions

/-- The tool `rm`. -/
def rm : Program := Process.buffered 1 fun p =>
  RemoveOptions.options.apply p {} (RemoveOptions.take p) fun o operands => do
    if operands = [] then
      if o.force then return 0 else RemoveOptions.options.advise p "missing operand".toList
    if o.asks = .once ∧ (o.recursive ∨ 3 < operands.length) then
      let what := if operands.length = 1 then " argument" else " arguments"
      let question := "remove ".toList ++ showNat operands.length ++ what.toList ++
        (if o.recursive then " recursively".toList else [])
      if ¬ (← (RemoveOptions.ask p question : Job Bool)) then return 0
    let depth ← (Job.ask (fun h => h.tree.entries.length + 1) : Job Nat)
    forEach (o.removeName p depth) 0 operands

/-! ### `chmod` -/

/-- What `chmod` tells, and how far it goes. -/
structure ModeOptions where
  recursive : Bool := false
  changesOnly : Bool := false
  silent : Bool := false
  verbose : Bool := false
  reference : Option Text := none
  /-- The words that look like options and are changes. -/
  modes : List Text := []
  deriving Inhabited

namespace ModeOptions

def options : OptionTable where
  letters := "Rcfv"
  names := [⟨"changes", "c", .nothing⟩, ⟨"recursive", "R", .nothing⟩,
    ⟨"no-preserve-root", "no-preserve-root", .nothing⟩, ⟨"preserve-root", "preserve-root", .nothing⟩,
    ⟨"quiet", "f", .nothing⟩, ⟨"reference", "reference", .value⟩, ⟨"silent", "f", .nothing⟩,
    ⟨"verbose", "v", .nothing⟩]
  help := Help.chmod

/-- A word that begins like an option and is a change of permissions. -/
def isMode (word : Text) : Bool :=
  match word with
  | '-' :: c :: _ => "rwxXstugoa,+=01234567".toList.contains c
  | _ => false

def take (o : ModeOptions) (key : String) (value : Text) : Work ModeOptions :=
  return match key with
    | "R" => { o with recursive := true }
    | "c" => { o with changesOnly := true, verbose := false }
    | "f" => { o with silent := true }
    | "v" => { o with verbose := true, changesOnly := false }
    | "reference" => { o with reference := some value }
    | _ => o

/-- The permissions that a node has. -/
def bitsOf (h : Host) : Node → Nat
  | .file n => (h.files.getD n {}).permissions
  | .link _ => 0o777
  | .device _ => 0o666
  | .directory => 0o755

/-- Changes the permissions of what a name stands for, and of all below it. -/
def changeName (p : Process) (o : ModeOptions) (change : PermissionChange) (fuel : Nat) (isOperand : Bool)
    (name : Text) : Work Bool :=
  match fuel with
  | 0 => return true
  | fuel + 1 => do
    let h ← (Job.ask id : Job Host)
    let shown := Quoting.shellQuoted name
    let refuse (message : Text) : Work Bool := do
      if ¬ o.silent then p.complain message
      if o.verbose then announce p (shown ++ " could not be accessed".toList)
      return false
    match h.walk .use (p.path name), h.walk .inspect (p.path name) with
    | _, .error fault => refuse ("cannot access ".toList ++ shown ++ ": ".toList ++ fault.reason)
    | _, .ok (.vacant _ _) => refuse ("cannot access ".toList ++ shown ++ ": ".toList ++ Errno.noEntry.description)
    | .ok (.found l node), .ok (.found _ inspected) =>
      if ¬ isOperand ∧ inspected matches .link _ then
        if o.verbose then
          announce p ("neither symbolic link ".toList ++ shown ++ " nor referent has been changed".toList)
        return true
      let isDirectory := node = .directory
      let before := bitsOf h node
      let after := change.apply isDirectory p.mask before
      let _ ← (Job.attempt (·.changePermissions (p.path name) fun _ => after) : Job (Option Fault))
      let both (n : Nat) : Text := showOctal n ++ " (".toList ++ showPermissions n ++ [')']
      if after ≠ before ∧ (o.verbose ∨ o.changesOnly) then
        announce p ("mode of ".toList ++ shown ++ " changed from ".toList ++ both before ++ " to ".toList ++ both after)
      else if o.verbose then announce p ("mode of ".toList ++ shown ++ " retained as ".toList ++ both after)
      let expected := change.apply isDirectory 0 before
      let isSurprise := o.modes ≠ [] ∧ after - (after &&& expected) ≠ 0
      if isSurprise then
        p.complain (Quoting.shellQuotedIfNeeded name ++ ": new permissions are ".toList ++ showPermissions after ++
          ", not ".toList ++ showPermissions expected)
      if isDirectory ∧ o.recursive then
        let stem := if name.getLast? = some '/' then name else name ++ ['/']
        let code ← forEach (fun n => changeName p o change fuel false (stem ++ spellOut n)) 0 (h.tree.names l)
        return code = 0 && !isSurprise
      else return !isSurprise
    | _, .ok (.found _ _) => refuse ("cannot operate on dangling symlink ".toList ++ shown)

end ModeOptions

/-- The tool `chmod`. -/
def chmod : Program := Process.buffered 1 fun p =>
  let front := p.words.takeWhile (· ≠ ['-', '-'])
  let modes := front.filter ModeOptions.isMode
  let words := front.filter (¬ ModeOptions.isMode ·) ++ p.words.drop front.length
  ModeOptions.options.applyTo p words { modes } ModeOptions.take fun o operands => do
    let missing {α : Type} (after : Option Text) : Work α :=
      ModeOptions.options.advise p ("missing operand".toList ++
        after.elim [] fun word => " after ".toList ++ Quoting.quoted word)
    let run (change : PermissionChange) (names : List Text) : Work Nat := do
      let depth ← (Job.ask (fun h => h.tree.entries.length + 1) : Job Nat)
      forEach (o.changeName p change depth true) 0 names
    let read (mode : Text) : Work PermissionChange :=
      match PermissionChange.ofText? mode with
      | some change => return change
      | none => ModeOptions.options.advise p ("invalid mode: ".toList ++ Quoting.quoted mode)
    match o.reference, modes with
    | some file, [] =>
      if operands = [] then missing none
      match ← (Job.ask (fun h => (h.node? (p.path file)).map (ModeOptions.bitsOf h)) : Job (Option Nat)) with
      | some bits => run [⟨0o7777, '=', .given bits⟩] operands
      | none =>
        p.die 1 ("failed to get attributes of ".toList ++ Quoting.shellQuoted file ++ ": ".toList ++
          Errno.noEntry.description)
    | some _, _ => ModeOptions.options.advise p "cannot combine mode and --reference options".toList
    | none, [] =>
      match operands with
      | [] => missing none
      | [mode] => missing (some mode)
      | mode :: names => do run (← read mode) names
    | none, modes =>
      if operands = [] then missing none
      run (← read (joinWith [','] modes)) operands

/-! ### `touch` -/

def touchOptions : OptionTable where
  letters := "acfhm"
  valued := "drt"
  names := [⟨"time", "time", .value⟩, ⟨"no-create", "c", .nothing⟩, ⟨"date", "d", .value⟩,
    ⟨"reference", "r", .value⟩, ⟨"no-dereference", "h", .nothing⟩]
  help := Help.touch

/-- The tool `touch`. -/
def touch : Program := fun p =>
  touchOptions.apply p false (fun spares key _ => return spares || key == "c") fun spares operands => do
    if operands = [] then touchOptions.advise p "missing file operand".toList
    forEach (fun name => do
      let found ← (Job.ask (·.walk .use (p.path name)) : Job (Except Fault Place))
      if found matches .ok (.found _ _) then return true
      if spares then
        if found matches .ok _ ∨ found matches .error (.os ⟨2⟩) then return true
        blame p "setting times of" name (.os .notDirectory)
        return false
      match ← (p.openAs name { permissions := 0o666 - (0o666 &&& p.mask) } : Job (Except Fault Wire)) with
      | .ok _ => return true
      | .error fault =>
        blame p "cannot touch" name fault
        return false) 0 operands

end PipeShell.Tool
