import PipeShell.Program.Tool.Help
import PipeShell.Program.Tool.Options

/-!
# Counting lines, words and bytes

The tool `wc`.  A word is a run of bytes without blanks in which something can be seen; the length of a line counts the
columns that it takes up.
-/

namespace PipeShell.Tool

/-- What is counted. -/
structure Counts where
  lines : Nat := 0
  words : Nat := 0
  bytes : Nat := 0
  /-- The length of the longest line. -/
  longest : Nat := 0
  deriving DecidableEq, Inhabited

namespace Counts

/-- Counts of two inputs together. -/
def add (a b : Counts) : Counts where
  lines := a.lines + b.lines
  words := a.words + b.words
  bytes := a.bytes + b.bytes
  longest := max a.longest b.longest

/-- Counts bytes, where a word has begun if `inside`, and the line has `column` columns so far. -/
def count (inside : Bool) (column : Nat) (c : Counts) : Bytes → Counts
  | [] => { c with words := if inside then c.words + 1 else c.words, longest := max c.longest column }
  | b :: rest =>
    let left := { c with words := if inside then c.words + 1 else c.words, bytes := c.bytes + 1 }
    if b = 10 then count false 0 { left with lines := c.lines + 1, longest := max c.longest column } rest
    else if b = 13 ∨ b = 12 then count false 0 { left with longest := max c.longest column } rest
    else if b = 9 then count false (column / 8 * 8 + 8) left rest
    else if b = 32 then count false (column + 1) left rest
    else if b = 11 then count false column left rest
    else if 32 < b ∧ b < 127 then count true (column + 1) { c with bytes := c.bytes + 1 } rest
    else count inside column { c with bytes := c.bytes + 1 } rest

/-- The counts of some bytes. -/
def ofBytes (b : Bytes) : Counts := count false 0 {} b

end Counts

/-- When the sums of all counts are shown. -/
inductive TotalMode
  | auto
  | always
  | only
  | never
  deriving DecidableEq, Inhabited

/-- What `wc` shows. -/
structure CountOptions where
  lines : Bool := false
  words : Bool := false
  characters : Bool := false
  bytes : Bool := false
  longest : Bool := false
  total : TotalMode := .auto
  /-- The file that names the files. -/
  namesFrom : Option Text := none
  deriving DecidableEq, Inhabited

namespace CountOptions

/-- Without any choice, three of the counts are shown. -/
def settled (o : CountOptions) : CountOptions :=
  if o.lines ∨ o.words ∨ o.characters ∨ o.bytes ∨ o.longest then o
  else { o with lines := true, words := true, bytes := true }

/-- The numbers that are shown. -/
def columns (o : CountOptions) (c : Counts) : List Nat :=
  [(o.lines, c.lines), (o.words, c.words), (o.characters, c.bytes), (o.bytes, c.bytes),
    (o.longest, c.longest)].filterMap fun (shown, n) => if shown then some n else none

/-- A text that fills at least `width` columns. -/
def padLeft (width : Nat) (t : Text) : Text := List.replicate (width - t.length) ' ' ++ t

/-- A line of counts. -/
def row (o : CountOptions) (width : Nat) (c : Counts) (name : Option Text) : Bytes :=
  let shownName (n : Text) : Text := ' ' :: (if n.contains '\n' then Quoting.shellQuotedIfNeeded n else n)
  bytesOf (joinWith [' '] ((o.columns c).map fun n => padLeft width (showNat n)) ++ name.elim [] shownName ++ ['\n'])

def options : OptionTable where
  letters := "clLmw"
  names := [⟨"bytes", "c", .nothing⟩, ⟨"chars", "m", .nothing⟩, ⟨"lines", "l", .nothing⟩, ⟨"words", "w", .nothing⟩,
    ⟨"files0-from", "files0-from", .value⟩, ⟨"max-line-length", "L", .nothing⟩, ⟨"total", "total", .value⟩]
  help := Help.wc

/-- Takes an option. -/
def take (p : Process) (o : CountOptions) (key : String) (value : Text) : Work CountOptions := do
  match key with
  | "c" => return { o with bytes := true }
  | "m" => return { o with characters := true }
  | "l" => return { o with lines := true }
  | "w" => return { o with words := true }
  | "L" => return { o with longest := true }
  | "files0-from" => return { o with namesFrom := some value }
  | _ =>
    let total ← options.choose p "--total" value
      [("auto", TotalMode.auto), ("always", .always), ("only", .only), ("never", .never)]
    return { o with total }

end CountOptions

/-- Where a counted file comes from: the input, or a name. -/
abbrev CountSource := Option Text

/-- The size of a regular file, or `none` for another one; an error where there is no file. -/
def sizeOf? (p : Process) (source : CountSource) (h : Host) : Except Unit (Option Nat) :=
  let ofNode (n : Node) : Option Nat := match n with
    | .file number => some (h.files.getD number {}).contents.length
    | _ => none
  match source.filter (· ≠ ['-']) with
  | some name =>
    match h.node? (p.path name) with
    | some n => .ok (ofNode n)
    | none => .error ()
  | none =>
    match p.wires.lookup 0 with
    | none => .error ()
    | some wire =>
      match (p.handleOf? wire).bind (h.handles[·]?) with
      | some ⟨.file number, _, _, _, _⟩ => .ok (ofNode (.file number))
      | _ => .ok none

/-- The width of the columns: that of the sum of the sizes, and at least seven where something is no regular file. -/
def columnWidth (p : Process) (sources : List CountSource) (h : Host) : Nat :=
  let sizes := (sources.map fun s => sizeOf? p s h).filterMap Except.toOption
  let sum := sizes.foldl (fun n s => n + s.getD 0) 0
  max (if sizes.contains none then 7 else 1) (showNat sum).length

/-- What has been counted so far. -/
structure Tally where
  total : Counts := {}
  code : Nat := 0
  /-- What went wrong when a line was written. -/
  fault : Option Fault := none
  deriving Inhabited

/-- Writes a line of counts; a fault is reported when all is done. -/
def Tally.write (t : Tally) (p : Process) (line : Bytes) : Work Tally := do
  match ← (p.put 1 line : Job (Option Fault)) with
  | none => return t
  | some fault => if p.diesOf fault then throw (.killed pipeSignal) else return { t with fault := some fault }

/-- Counts one file. -/
def Tally.count (t : Tally) (p : Process) (o : CountOptions) (width : Nat) (source : CountSource) : Work Tally := do
  let name := source.getD "standard input".toList
  let opened ← (match source.filter (· ≠ ['-']) with
    | some name => p.openForReading name
    | none => return .ok ((p.wires.lookup 0).getD (.source 0)) : Job (Except Fault Wire))
  let report (fault : Fault) : Job Unit := p.complain (Quoting.shellQuotedIfNeeded name ++ ": ".toList ++ fault.reason)
  match opened with
  | .error fault =>
    report fault
    return { t with code := 1 }
  | .ok wire =>
    let read ← (if (source.filter (· ≠ ['-'])).isNone ∧ (p.wires.lookup 0).isNone then return .error Job.closed
      else Process.readAll wire : Job (Except Fault Bytes))
    let (c, code) ← (match read with
      | .ok b => return (Counts.ofBytes b, t.code)
      | .error fault => do
        report fault
        return ({}, 1) : Job (Counts × Nat))
    let t := { t with total := t.total.add c, code }
    if o.total = .only then return t else t.write p (o.row width c source)

/-- The names in a list of files, each of which has a zero at its end. -/
def namesIn (b : Bytes) : List Text :=
  let parts := splitAt (Char.ofNat 0) (charsOf b)
  if parts.getLast? = some [] then parts.dropLast else parts

/-- Counts files one after the other.  Names from a list must not be empty, and the input can not be both the list and
a file. -/
def Tally.countAll (t : Tally) (p : Process) (o : CountOptions) (width number : Nat) :
    List CountSource → Work Tally
  | [] => return t
  | source :: rest => do
    let refuse (message : Text) : Work Tally := do
      p.complain message
      return { t with code := 1 }
    let t ← match o.namesFrom with
      | none =>
        if source = some [] then refuse "invalid zero-length file name".toList else t.count p o width source
      | some list =>
        if list = ['-'] ∧ source = some ['-'] then
          refuse ("when reading file names from stdin, no file name of '-' allowed".toList)
        else if source = some [] then
          refuse (Quoting.shellQuotedIfNeeded list ++ ':' :: showNat number ++
            ": invalid zero-length file name".toList)
        else t.count p o width source
    t.countAll p o width (number + 1) rest

/-- The files that are counted. -/
def countSources (p : Process) (o : CountOptions) (operands : List Text) : Work (List CountSource) := do
  match o.namesFrom, operands with
  | none, [] => return [none]
  | none, _ => return operands.map some
  | some _, w :: _ =>
    p.complain ("extra operand ".toList ++ Quoting.shellQuoted w)
    let _ ← p.put 2 (bytesOf "file operands cannot be combined with --files0-from\n".toList)
    CountOptions.options.pointToHelp p
  | some list, [] =>
    let opened ← (if list = ['-'] then return (p.wires.lookup 0).elim (.error Job.closed) .ok
      else p.openForReading list : Job (Except Fault Wire))
    match opened with
    | .error fault =>
      p.die 1 ("cannot open ".toList ++ Quoting.shellQuoted list ++ " for reading: ".toList ++ fault.reason)
    | .ok wire =>
      match ← (Process.readAll wire : Job (Except Fault Bytes)) with
      | .ok b => return (namesIn b).map some
      | .error fault => p.die 1 (Quoting.shellQuotedIfNeeded list ++ ": read error: ".toList ++ fault.reason)

/-- The tool `wc`. -/
def wc : Program := fun p => CountOptions.options.apply p {} (CountOptions.take p) fun o operands => do
  let o := o.settled
  let sources ← countSources p o operands
  let isSingle := sources.length = 1 ∧ (o.columns {}).length = 1
  let width ← (if o.total = .only ∨ isSingle ∨ sources = [] then return 1
    else Job.ask (columnWidth p sources) : Job Nat)
  let t ← Tally.countAll {} p o width 1 sources
  let showsTotal := o.total ≠ .never ∧ (o.total ≠ .auto ∨ 1 < sources.length)
  let t ← if showsTotal then
      t.write p (o.row width t.total (if o.total = .only then none else some "total".toList))
    else pure t
  if (sources.contains none ∨ sources.contains (some ['-'])) ∧ (p.wires.lookup 0).isNone then
    p.die 1 ("-: ".toList ++ Fault.reason Job.closed)
  else
    match t.fault with
    | none => return t.code
    | some fault => p.die 1 (if fault = Job.closed then Process.writeError fault else "write error".toList)

end PipeShell.Tool
