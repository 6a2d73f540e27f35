import PipeShell.Host.Journal
import PipeShell.Host.Tree
import PipeShell.Token.Basic

/-!
# The machine that the shell runs on

A host is all state outside a running pipeline: the directory tree, the contents of the files, the open files, the
two terminal streams, the journal, and what a new process inherits.

An open file is a description: it has an offset of its own, or appends.  All who hold the same handle share the
description, so their writes follow each other.  Contents are kept by file number and not by name; a file that is
removed while it is open goes on taking writes.
-/

namespace PipeShell

/-- The value of a variable, by name. -/
abbrev Variables := List (Text × Text)

/-- Sets a variable, in place of its former value. -/
def Variables.set (vars : Variables) (name value : Text) : Variables :=
  match vars with
  | [] => [(name, value)]
  | (n, v) :: rest => if n = name then (name, value) :: rest else (n, v) :: Variables.set rest name value

/-- Sets several variables. -/
def Variables.setAll (vars more : Variables) : Variables := more.foldl (fun vs (n, v) => vs.set n v) vars

/-- A regular file. -/
structure File where
  contents : Bytes := []
  /-- The permission bits. -/
  permissions : Nat := 0o644
  deriving DecidableEq, Inhabited

/-- What an open file reads and writes. -/
inductive Backing
  | file (number : Nat)
  | device (d : Device)
  | directory
  /-- A pipe without writer, which holds the contents of a file without name. -/
  | rest (number : Nat)
  deriving DecidableEq, Inhabited

/-- An open file. -/
structure Description where
  backing : Backing
  offset : Nat := 0
  /-- Every write goes to the end. -/
  append : Bool := false
  readable : Bool := false
  writable : Bool := true
  deriving DecidableEq, Inhabited

/-- What somebody wants to do with a file that is opened. -/
structure Opening where
  reads : Bool := false
  writes : Bool := true
  /-- A file that is missing is made. -/
  creates : Bool := true
  /-- An existing file loses its contents. -/
  truncates : Bool := false
  appends : Bool := false
  /-- The permissions of a file that is made. -/
  permissions : Nat := 0o644
  deriving DecidableEq, Inhabited

/-- Where a stream goes: to the terminal, to an open file, or nowhere. -/
inductive Destination
  | terminal (stream : StdStream)
  | file (handle : Nat)
  | nowhere
  deriving DecidableEq, Inhabited

/-- Where and how records are printed while they are noted. -/
structure Logger where
  limit : Option Level := none
  target : Destination := .nowhere
  coloured : Bool := false
  deriving DecidableEq, Inhabited

/-- All state outside a running pipeline. -/
structure Host where
  tree : Tree := {}
  files : List File := []
  handles : List Description := []
  terminalOut : Bytes := []
  terminalErr : Bytes := []
  journal : List Record := []
  logger : Logger := {}
  /-- The time of day, in seconds since midnight. -/
  clock : Nat := 0
  /-- The number of the next process. -/
  nextProcess : Nat := 1
  /-- The processes that can be sent signals. -/
  processes : List Nat := [1]
  /-- The signals that have been sent and not taken, each with the process it is for. -/
  signals : List (Nat × Nat) := []
  /-- The directory that relative paths start from. -/
  here : Location := []
  /-- The variables that every new process starts with. -/
  inherited : Variables := []
  deriving Inhabited

/-- Writes bytes over others from an offset on; a gap before the offset is filled with zeros. -/
def splice (old : Bytes) (offset : Nat) (data : Bytes) : Bytes :=
  if data = [] then old
  else old.take offset ++ List.replicate (offset - old.length) 0 ++ data ++ old.drop (offset + data.length)

namespace Host

/-- Where a path leads. -/
def walk (h : Host) (p : Purpose) (path : Text) : Except Fault Place := h.tree.walk p h.here path

/-- The node that a path leads to, through all links. -/
def node? (h : Host) (path : Text) : Option Node :=
  match h.walk .use path with
  | .ok (.found _ n) => some n
  | _ => none

def isDirectory (h : Host) (path : Text) : Bool := h.node? path == some .directory

/-- A regular file that someone may execute. -/
def isExecutable (h : Host) (path : Text) : Bool :=
  match h.node? path with
  | some (.file n) => (h.files.getD n {}).permissions &&& 0o111 != 0
  | _ => false

/-- The location that a path leads to, as a path from the root without links.  The names are looked up one by one, so
that the path may be longer than what the system takes at once, but not what it is resolved to on the way. -/
def canonical? (h : Host) (path : Text) : Option Text :=
  match h.tree.walkFar .use h.here path with
  | .ok (.found l _) => if h.tree.InReach h.here path then some l.path else none
  | _ => none

/-- Writes the contents of a file. -/
def setContents (h : Host) (number : Nat) (contents : Bytes) : Host :=
  { h with files := h.files.modify number fun f => { f with contents } }

/-- Adds a file, and gives its number. -/
def addFile (h : Host) (f : File) : Host × Nat := ({ h with files := h.files ++ [f] }, h.files.length)

/-- Adds an open file, and gives its handle. -/
def addHandle (h : Host) (d : Description) : Host × Nat := ({ h with handles := h.handles ++ [d] }, h.handles.length)

/-- Opens a path. -/
def openAs (h : Host) (path : Text) (o : Opening) : Except Fault (Host × Nat) :=
  let description (backing : Backing) : Description :=
    { backing, append := o.appends, readable := o.reads, writable := o.writes }
  match h.walk (if o.creates then .create else .use) path with
  | .error e => .error e
  | .ok (.vacant directory name) =>
    if o.creates then
      let (h, number) := h.addFile { permissions := o.permissions }
      .ok ({ h with tree := h.tree.set (directory ++ [name]) (.file number) }.addHandle (description (.file number)))
    else .error (.os .noEntry)
  | .ok (.found _ (.file number)) =>
    .ok ((if o.truncates then h.setContents number [] else h).addHandle (description (.file number)))
  | .ok (.found _ (.device d)) => .ok (h.addHandle (description (.device d)))
  | .ok (.found _ .directory) =>
    if o.writes then .error (.os .isDirectory) else .ok (h.addHandle (description .directory))
  | .ok (.found _ (.link _)) => .error (.os .tooManyLinks)

/-- Opens a path for writing.  A file that is missing is made if its directory exists; an existing one loses its
contents unless it is opened for appending. -/
def openForWriting (h : Host) (path : Text) (mode : OpenMode) : Except Fault (Host × Nat) :=
  h.openAs path { truncates := mode == .overwrite, appends := mode == .append }

/-- Opens a path for reading. -/
def openForReading (h : Host) (path : Text) : Except Fault (Host × Nat) :=
  h.openAs path { reads := true, writes := false, creates := false }

/-- Reads at most `limit` bytes from an open file. -/
def readHandle (h : Host) (handle limit : Nat) : Except Fault (Host × Bytes) :=
  match h.handles[handle]? with
  | none => .error (.os .badDescriptor)
  | some d =>
    let stored (number : Nat) : Except Fault (Host × Bytes) :=
      let data := ((h.files.getD number {}).contents.drop d.offset).take limit
      .ok ({ h with handles := h.handles.set handle { d with offset := d.offset + data.length } }, data)
    if ¬ d.readable then .error (.os .badDescriptor)
    else
      match d.backing with
      | .file number | .rest number => stored number
      | .device .null => .ok (h, [])
      | .device .full => .ok (h, List.replicate limit 0)
      | .directory => .error (.os .isDirectory)

/-- Gives back the last bytes that were read from an open file, if it is one that can be read from any place. -/
def giveBack (h : Host) (handle count : Nat) : Host :=
  match h.handles[handle]? with
  | some d =>
    match d.backing with
    | .file _ => { h with handles := h.handles.set handle { d with offset := d.offset - count } }
    | _ => h
  | none => h

/-- Writes to an open file.  Nothing is written where the write fails. -/
def writeHandle (h : Host) (handle : Nat) (data : Bytes) : Except Fault Host :=
  match h.handles[handle]? with
  | none => .ok h
  | some d =>
    if ¬ d.writable then .error (.os .badDescriptor) else
    match d.backing with
    | .directory | .rest _ => .error (.os .badDescriptor)
    | .device .null => .ok h
    | .device .full => if data = [] then .ok h else .error (.os .noSpace)
    | .file number =>
      let old := (h.files.getD number {}).contents
      let start := if d.append then old.length else d.offset
      .ok { h.setContents number (splice old start data) with
        handles := h.handles.set handle { d with offset := start + data.length } }

/-- Writes to the end of a stream. -/
def write (h : Host) (s : Destination) (data : Bytes) : Except Fault Host :=
  match s with
  | .terminal .out => .ok { h with terminalOut := h.terminalOut ++ data }
  | .terminal .err => .ok { h with terminalErr := h.terminalErr ++ data }
  | .file handle => h.writeHandle handle data
  | .nowhere => .ok h

/-- Writes if that is possible, and does nothing otherwise. -/
def tryWrite (h : Host) (s : Destination) (data : Bytes) : Host :=
  match h.write s data with
  | .ok h' => h'
  | .error _ => h

/-- Writes a diagnostic line; a stream that cannot take it swallows it. -/
def report (h : Host) (s : Destination) (message : Text) : Host := h.tryWrite s (utf8 (message ++ ['\n']))

/-- Adds a record to the journal, and prints it where the logger asks for it. -/
def note (h : Host) (level : Level) (text : Text) : Host :=
  let r : Record := ⟨level, text⟩
  let h := { h with journal := h.journal ++ [r] }
  if level.passes h.logger.limit then
    h.tryWrite h.logger.target (utf8 (r.line h.clock h.logger.coloured))
  else h

/-- The contents of the file that a path leads to. -/
def contentsAt (h : Host) (path : Text) : Except Fault Bytes :=
  match h.walk .use path with
  | .error e => .error e
  | .ok (.found _ (.file number)) => .ok (h.files.getD number {}).contents
  | .ok (.found _ (.device .null)) => .ok []
  | .ok (.found _ (.device .full)) => .ok []
  | .ok (.found _ _) => .error (.os .isDirectory)
  | .ok (.vacant _ _) => .error (.os .noEntry)

end Host

end PipeShell
