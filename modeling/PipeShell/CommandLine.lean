import PipeShell.Arguments
import PipeShell.Builtin.Standard
import PipeShell.LineInput
import PipeShell.Session

/-!
# The command line of the shell

The shell runs the line after `-c`, or else the lines of its standard input until one requests an exit.  Records are
printed on standard error, or appended to a file that is opened before anything runs.
-/

namespace PipeShell

/-- What the words of the command line ask for. -/
structure Settings where
  command : Option Text := none
  /-- The most detailed level that is printed; the inner value is none for no records at all. -/
  level : Option (Option Level) := none
  logFile : Option Text := none
  deriving DecidableEq, Inhabited

namespace Settings

/-- Records of this level and more serious ones are printed if nothing else is asked for. -/
def defaultLevel : Option Level := some .warn

/-- The level that a text names, in whatever case. -/
def readLevel (t : Text) : Except Text (Option Level) :=
  let name := t.map Char.toUpper
  if name = "OFF".toList then .ok none
  else
    match [Level.error, .warn, .info, .debug, .trace].find? (·.name = name) with
    | some l => .ok (some l)
    | none => .error "attempted to convert a string that doesn't match an existing log level".toList

/-- Takes in the value of an option that may be given once. -/
def once {α : Type} (old : Option α) (value : Except Text α) : Except Text α :=
  if old.isSome then .error "duplicate values provided".toList else value

def takeCommand (s : Settings) (t : Text) : Except Text Settings :=
  (once s.command (.ok t)).map fun c => { s with command := some c }

def takeLevel (s : Settings) (t : Text) : Except Text Settings :=
  (once s.level (readLevel t)).map fun l => { s with level := some l }

def takeLogFile (s : Settings) (t : Text) : Except Text Settings :=
  (once s.logFile (.ok t)).map fun f => { s with logFile := some f }

/-- The form of the command line of the shell. -/
def form : Form Settings where
  options := [⟨"-c".toList, takeCommand⟩, ⟨"--command".toList, takeCommand⟩,
    ⟨"--log-level".toList, takeLevel⟩, ⟨"--log-file".toList, takeLogFile⟩]

def usage : Usage where
  synopsis := "lineshell [-c <command>] [--log-level <log-level>] [--log-file <log-file>]".toList
  purpose := "A line-oriented command interpreter with pipes and output redirection.".toList
  options := [("-c, --command".toList, ["run a single command line and exit with its status.".toList]),
    ("--log-level".toList, ["log level: off, error, warn, info, debug or trace.".toList]),
    ("--log-file".toList, ["append log records to this file instead of stderr.".toList])]

end Settings

namespace CommandLine

/-- The lines on standard input are not text. -/
def notText : Text := "stream did not contain valid UTF-8".toList

/-- A failure of the shell itself, with its cause. -/
def failure (what cause : Text) : Text := "Error: ".toList ++ what ++ "\n\nCaused by:\n    ".toList ++ cause ++ ['\n']

/-- Colours are used on a terminal that is not a dumb one, unless they are unwanted. -/
def wantsColour (vars : Variables) : Bool :=
  (vars.lookup "TERM".toList).any (· ≠ "dumb".toList) && (vars.lookup "NO_COLOR".toList).isNone

/-- Sets up where records go. -/
def openLog (s : Settings) (h : Host) : Except Text Host :=
  let limit := s.level.getD Settings.defaultLevel
  match s.logFile with
  | none => .ok { h with logger := ⟨limit, .terminal .err, wantsColour h.inherited⟩ }
  | some path =>
    match h.openForWriting path .append with
    | .ok (h, handle) => .ok { h with logger := ⟨limit, .file handle, false⟩ }
    | .error fault => .error (failure ("cannot open log file ".toList ++ path) fault.message)

/-- Writes to a terminal stream. -/
def print (h : Host) (stream : StdStream) (t : Text) : Host := h.tryWrite (.terminal stream) (utf8 t)

/-- The exit code of a process that ends with this status. -/
def exitCode (status : Int) : Nat := (status % 256).toNat

/-- Terminals that cannot be told where to write. -/
def plainTerminals : List Text := ["dumb", "cons25", "emacs"].map String.toList

/-- The terminal is one of the plain ones, in whatever case its name is spelled. -/
def isPlainTerminal (vars : Variables) : Bool :=
  (vars.lookup "TERM".toList).any fun name => plainTerminals.contains (name.map Char.toLower)

/-- How the terminal measures clusters, as its variables tell. -/
def clusterMode (vars : Variables) : Text :=
  match vars.lookup "TERM_PROGRAM".toList with
  | some program =>
    if ["Apple_Terminal", "iTerm.app", "WezTerm"].any (·.toList = program) then "Unicode".toList else "WcWidth".toList
  | none => if vars.lookup "TERM".toList = some "xterm-kitty".toList then "NoZwj".toList else "WcWidth".toList

/-- What is shown in front of a line on a plain terminal. -/
def prompt : Text := "$ ".toList

/-- The shell asks for a line: a plain terminal gets a prompt, although the input is none. -/
def askLine (h : Host) : Host :=
  if isPlainTerminal h.inherited then print (h.note .debug "unsupported terminal".toList) .out prompt
  else h.note .debug "stdin is not a tty".toList

/-- Runs the shell after its command line has been read. -/
def runWith {σ : Type} (programs : Programs σ) (s : Settings) (input : Bytes) (h : Host) : Option (Nat × Host) :=
  match openLog s h with
  | .error message => some (1, print h .err message)
  | .ok h =>
    let r : Runner σ := { registry := Registry.standard, programs }
    let session : Session := { environment := Environment.ofHost h }
    match s.command with
    | some line => (session.execute r line h).map fun (s, h) => (exitCode s.exitStatus, h)
    | none =>
      let (lines, allText) := LineInput.ofBytes input
      let h := h.note .debug ("GraphemeClusterMode: ".toList ++ clusterMode h.inherited)
      (session.executeAll r askLine h lines).map fun (s, h) =>
        if allText ∨ s.environment.isLeaving then (exitCode s.exitStatus, h.note .info "leaving interpreter".toList)
        else (1, print h .err (failure notText notText))

/-- Runs the shell with these words and this standard input; the answer is its exit code.  There is no answer if a
pipeline is given up. -/
def run {σ : Type} (programs : Programs σ) (words : List Text) (input : Bytes) (h : Host) : Option (Nat × Host) :=
  match Settings.form.read {} words with
  | .usage => some (0, print h .out (Settings.usage.text ++ ['\n']))
  | .mistake text => some (1, print h .err (text ++ "\nRun lineshell --help for more information.\n".toList))
  | .accepted s => runWith programs s input h

end CommandLine

end PipeShell
