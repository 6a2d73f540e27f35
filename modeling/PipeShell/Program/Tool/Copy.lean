import PipeShell.Program.Tool.Help
import PipeShell.Program.Tool.Options

/-!
# Copying files to the output

The tool `cat`.  It can number lines, leave out repeated empty ones, and show bytes that cannot be seen.
-/

namespace PipeShell.Tool

/-- How `cat` changes what it copies. -/
structure Dress where
  numbersAll : Bool := false
  numbersFilled : Bool := false
  squeezes : Bool := false
  showsEnds : Bool := false
  showsTabs : Bool := false
  showsUnseen : Bool := false
  deriving DecidableEq, Inhabited

/-- Where in a line the copying has come to. -/
structure LinePlace where
  number : Nat := 1
  atStart : Bool := true
  /-- The number of empty lines just before. -/
  empties : Nat := 0
  /-- A carriage return has been read whose look depends on what follows. -/
  waits : Bool := false
  deriving Inhabited

/-- A byte as it is shown among visible ones. -/
def visible (b : UInt8) : Bytes :=
  let low (b : UInt8) : Bytes := if b < 32 then [94, b + 64] else if b = 127 then [94, 63] else [b]
  if b = 9 ∨ b = 10 then [b] else if b < 128 then low b else [77, 45] ++ low (b - 128)

/-- A byte as it is copied, and the place after it. -/
def Dress.copy (d : Dress) (s : LinePlace) (b : UInt8) : Bytes × LinePlace :=
  let label : Bytes :=
    let digits := showNat s.number
    bytesOf (List.replicate (6 - digits.length) ' ' ++ digits ++ ['\t'])
  if b = 10 then
    let isEmpty := s.atStart
    if isEmpty ∧ d.squeezes ∧ 0 < s.empties then ([], s)
    else
      let numbered := isEmpty && d.numbersAll && !d.numbersFilled
      ((if numbered then label else []) ++ (if s.waits then [94, 77] else []) ++ (if d.showsEnds then [36] else []) ++
          [10],
        { number := if numbered then s.number + 1 else s.number
          atStart := true
          empties := if isEmpty then s.empties + 1 else 0 })
  else
    let numbered := s.atStart && (d.numbersAll || d.numbersFilled)
    let waits := b == 13 && d.showsEnds && !d.showsUnseen
    ((if s.waits then [13] else []) ++ (if numbered then label else []) ++
        (if waits then [] else if b = 9 ∧ d.showsTabs then [94, 73] else if d.showsUnseen then visible b else [b]),
      { number := if numbered then s.number + 1 else s.number, atStart := false, empties := 0, waits })

/-- Bytes as they are copied, and the place after them. -/
def Dress.copyAll (d : Dress) (s : LinePlace) (b : Bytes) : Bytes × LinePlace :=
  if d = {} then (b, s)
  else
    let (chunks, s) := b.foldl (fun (chunks, s) b =>
      let (c, s) := d.copy s b
      (c :: chunks, s)) (([] : List Bytes), s)
    (chunks.reverse.flatten, s)

/-- Copies what comes from a wire to the output, up to its end or a fault. -/
def copyWire (p : Process) (d : Dress) (wire : Wire) (rounds : Nat) (s : LinePlace) :
    Work (Option Fault × LinePlace) :=
  match rounds with
  | 0 => return (none, s)
  | rounds + 1 => do
    match ← Job.take wire 131072 with
    | .error fault => return (some fault, s)
    | .ok [] => return (none, s)
    | .ok b => do
      let (b, s) := d.copyAll s b
      p.emit b
      copyWire p d wire rounds s

/-- A regular file is both read and written, and there is more to read. -/
def feedsItself (h : Host) (source target : Nat) : Bool :=
  match h.handles[source]?, h.handles[target]? with
  | some a, some b =>
    match a.backing with
    | .file number => a.backing == b.backing && a.offset < (h.files.getD number {}).contents.length
    | _ => false
  | _, _ => false

/-- A wire brings what the program itself writes. -/
def feedsOutput (p : Process) (wire : Wire) : Job Bool :=
  match p.handleOf? wire, p.handle? 1 with
  | some source, some target => Job.ask (feedsItself · source target)
  | _, _ => return false

/-- Copies one file, or the input for a dash, and reports a fault.  The flag says that all went well. -/
def copyFile (p : Process) (d : Dress) (s : LinePlace) (file : Text) : Work (Bool × LinePlace) := do
  let report (fault : Fault) : Job Unit := p.complain (Quoting.shellQuotedIfNeeded file ++ ": ".toList ++ fault.reason)
  let opened ← if file = ['-'] then pure ((p.wires.lookup 0).elim (.error Job.closed) .ok) else p.openForReading file
  match opened with
  | .error fault =>
    report fault
    return (false, s)
  | .ok wire =>
    if ← feedsOutput p wire then
      p.complain (Quoting.shellQuotedIfNeeded file ++ ": input file is output file".toList)
      return (false, s)
    else
      match ← copyWire p d wire Job.longRun s with
      | (none, s) => return (true, s)
      | (some fault, s) =>
        report fault
        return (false, s)

/-- Copies files one after the other. -/
def copyFiles (p : Process) (d : Dress) (code : Nat) (s : LinePlace) : List Text → Work Nat
  | [] => do
    p.emit (if s.waits then [13] else [])
    return code
  | file :: files => do
    let (isFine, s) ← copyFile p d s file
    copyFiles p d (if isFine then code else 1) s files

def catOptions : OptionTable where
  letters := "AbeEnstTuv"
  names := [⟨"number-nonblank", "b", .nothing⟩, ⟨"number", "n", .nothing⟩, ⟨"squeeze-blank", "s", .nothing⟩,
    ⟨"show-nonprinting", "v", .nothing⟩, ⟨"show-ends", "E", .nothing⟩, ⟨"show-tabs", "T", .nothing⟩,
    ⟨"show-all", "A", .nothing⟩]
  help := Help.cat

/-- Takes in an option of `cat`. -/
def Dress.take (d : Dress) (key : String) (_ : Text) : Work Dress :=
  return match key with
    | "A" => { d with showsUnseen := true, showsEnds := true, showsTabs := true }
    | "b" => { d with numbersFilled := true }
    | "e" => { d with showsUnseen := true, showsEnds := true }
    | "E" => { d with showsEnds := true }
    | "n" => { d with numbersAll := true }
    | "s" => { d with squeezes := true }
    | "t" => { d with showsUnseen := true, showsTabs := true }
    | "T" => { d with showsTabs := true }
    | "v" => { d with showsUnseen := true }
    | _ => d

/-- The tool `cat`. -/
def cat : Program := fun p => catOptions.apply p {} Dress.take fun d operands => do
  match p.wires.lookup 1 with
  | none => p.die 1 ("standard output: ".toList ++ Fault.reason Job.closed)
  | some _ =>
    let files := inputsOf operands
    let code ← copyFiles p d 0 {} files
    if files.contains ['-'] ∧ (p.wires.lookup 0).isNone then
      p.die 1 ("closing standard input: ".toList ++ Fault.reason Job.closed)
    else return code

end PipeShell.Tool
