import PipeShell.Host.Redirection
import PipeShell.Lookup
import PipeShell.Proofs.Host.Gap
import PipeShell.Proofs.Host.Overlook
import PipeShell.Proofs.Run.Scene

/-!
# Hosts that differ by one open target

A target that is opened for writing leaves a footprint on the host: a handle, the contents of a file, and that file
itself if it was not there before.  `Host.AlikeBut` compares the host with one where the output is discarded instead.
There the handle and the file are missing, and the other handles and files have other numbers; where records of the
level debug are printed, there is one more, that of the discarding.  All else is the same.

Hosts that are alike stay so under whatever is written to them (`Host.AlikeBut.write`), and show the same directories
and the same programs.
-/

namespace PipeShell

/-- The file that a description is about. -/
def Backing.number? : Backing → Option Nat
  | .file number | .rest number => some number
  | .device _ | .directory => none

/-- The same backing, with the files numbered otherwise. -/
def Backing.renumber (f : Nat → Nat) : Backing → Backing
  | .file number => .file (f number)
  | .rest number => .rest (f number)
  | b => b

/-- Where the next write begins. -/
def Description.start (d : Description) (old : Bytes) : Nat := if d.append then old.length else d.offset

/-- What is left on a host by opening a target, and by a record of not doing so. -/
structure Footprint where
  /-- The handle of the target. -/
  handle : Nat
  /-- The file that the target is, unless it is a device. -/
  file : Option Nat
  /-- The file has been made on opening. -/
  isNew : Bool
  /-- The file that records are printed to. -/
  logFile : Option Nat
  /-- The stream of the terminal that records are printed to. -/
  logStream : Option StdStream
  /-- The line that is printed of the record. -/
  record : Bytes
  deriving DecidableEq

namespace Footprint

variable (f : Footprint)

/-- The number of the file that is missing where the output is discarded. -/
def gap : Option Nat := if f.isNew then f.file else none

theorem file_of_gap {gap : Nat} (h : f.gap = some gap) : f.file = some gap := by
  unfold Footprint.gap at h
  split at h
  · exact h
  · cases h

/-- The contents of a file are not the same. -/
def Stains (number : Nat) : Prop := f.file = some number ∨ f.logFile = some number

/-- The number that a file has where the output is discarded. -/
def number (i : Nat) : Nat := closeUp f.gap i

/-- Where what goes to `d` goes where the output is discarded. -/
def destination : Destination → Destination
  | .file handle => if handle = f.handle then .nowhere else .file (closeUp (some f.handle) handle)
  | d => d

@[simp] theorem destination_handle : f.destination (.file f.handle) = .nowhere := if_pos rfl

/-- The tree without the file that has been made. -/
def spare (t : Tree) : Tree :=
  match f.gap with
  | some number => t.without number
  | none => t

/-- The path of a file that is to be written has nothing to do with the target. -/
def Overlooked (h : Host) (path : Text) : Prop := ∀ number, f.file = some number → h.Overlooks number path

/-- File `number` where the target is open, and where the output is discarded. -/
structure FileAlike (number : Nat) (file file' : File) : Prop where
  permissions : file'.permissions = file.permissions
  contents : ¬ f.Stains number → file'.contents = file.contents

/-- A description where the target is open, and where the output is discarded. -/
structure DescriptionAlike (d d' : Description) : Prop where
  backing : d'.backing = d.backing.renumber f.number
  present : ∀ number, d.backing.number? = some number → f.gap ≠ some number
  append : d'.append = d.append
  readable : d'.readable = d.readable
  writable : d'.writable = d.writable
  offset : (∀ number, d.backing.number? = some number → ¬ f.Stains number) → d'.offset = d.offset

/-- What a stream of the terminal shows where the target is open, and where the output is discarded.  This is the same,
but that the record may have been put in. -/
def StreamAlike (stream : StdStream) (text text' : Bytes) : Prop :=
  text' = text ∨
    f.logStream = some stream ∧ ∃ before after, text = before ++ after ∧ text' = before ++ f.record ++ after

variable {f}

theorem StreamAlike.append {stream : StdStream} {text text' : Bytes} (alike : f.StreamAlike stream text text')
    (data : Bytes) : f.StreamAlike stream (text ++ data) (text' ++ data) := by
  obtain rfl | ⟨noisy, before, after, rfl, rfl⟩ := alike
  · exact .inl rfl
  · exact .inr ⟨noisy, before, after ++ data, by simp, by simp⟩

end Footprint

namespace Host

/-- The host `g'` is as `g` is, but for the footprint of an open target. -/
structure AlikeBut (f : Footprint) (g g' : Host) : Prop where
  /-- Where the output is discarded the file has not been made. -/
  tree : ∀ l, g'.tree.get l = ((f.spare g.tree).get l).map (Node.renumber f.number)
  files : Lacks f.gap f.FileAlike g.files g'.files
  /-- The file that has been made is not taken for a program. -/
  plain : ∀ number file, f.gap = some number → g.files[number]? = some file → file.permissions &&& 0o111 = 0
  handles : Lacks (some f.handle) (fun _ => f.DescriptionAlike) g.handles g'.handles
  /-- Through its handle only the target is written. -/
  target : ∀ d number, g.handles[f.handle]? = some d → d.backing.number? = some number → f.Stains number
  terminalOut : f.StreamAlike .out g.terminalOut g'.terminalOut
  terminalErr : f.StreamAlike .err g.terminalErr g'.terminalErr
  logger : g'.logger = { g.logger with target := f.destination g.logger.target }
  clock : g'.clock = g.clock
  nextProcess : g'.nextProcess = g.nextProcess
  processes : g'.processes = g.processes
  signals : g'.signals = g.signals
  here : g'.here = g.here
  inherited : g'.inherited = g.inherited

theorem writeHandle_of_file {h : Host} {handle number : Nat} {d : Description} (present : h.handles[handle]? = some d)
    (writable : d.writable = true) (backing : d.backing = .file number) (data : Bytes) :
    h.writeHandle handle data =
      .ok { h.setContents number (splice (h.files.getD number {}).contents (d.start (h.files.getD number {}).contents)
          data) with
        handles := h.handles.set handle
          { d with offset := d.start (h.files.getD number {}).contents + data.length } } := by
  simp [writeHandle, present, writable, backing, Description.start]

/-- Makes ready what has been found, or makes it, and gives what is to be opened. -/
def ready (h : Host) (mode : OpenMode) : Place → Except Fault (Host × Backing)
  | .vacant directory name =>
    .ok ({ (h.addFile {}).1 with tree := h.tree.set (directory ++ [name]) (.file h.files.length) },
      .file h.files.length)
  | .found _ (.file number) => .ok (if mode = .overwrite then h.setContents number [] else h, .file number)
  | .found _ (.device d) => .ok (h, .device d)
  | .found _ .directory => .error (.os .isDirectory)
  | .found _ (.link _) => .error (.os .tooManyLinks)

/-- A target is made ready, and then there is a handle for it. -/
theorem openForWriting_eq (h : Host) (path : Text) (mode : OpenMode) :
    h.openForWriting path mode =
      (h.walk .create path >>= h.ready mode).map fun (h, backing) =>
        h.addHandle { backing, append := mode == .append } := by
  simp only [openForWriting, openAs, if_true]
  rcases h.walk .create path with fault | ⟨l, _ | number | device | target⟩ | ⟨directory, name⟩
  case ok.found.file => cases mode <;> rfl
  all_goals rfl

namespace AlikeBut

variable {f : Footprint} {g g' h h' : Host} {d : Destination} {data : Bytes} {path : Text}

/-! ### Writing -/

theorem getD_contents {number : Nat} (alike : AlikeBut f g g') (present : f.gap ≠ some number)
    (clean : ¬ f.Stains number) :
    (g'.files.getD (f.number number) {}).contents = (g.files.getD number {}).contents := by
  have entry := alike.files.entries number present
  simp only [List.getD_eq_getElem?_getD, Footprint.number]
  generalize g.files[number]? = file at entry ⊢
  generalize g'.files[closeUp f.gap number]? = file' at entry ⊢
  cases entry with
  | none => rfl
  | some same => exact same.contents clean

theorem plain_setContents (alike : AlikeBut f g g') (number : Nat) (contents : Bytes) (gap : Nat) (file : File)
    (hgap : f.gap = some gap) (hfile : (g.setContents number contents).files[gap]? = some file) :
    file.permissions &&& 0o111 = 0 := by
  simp only [Host.setContents, List.getElem?_modify, Option.map_eq_map, Option.map_eq_some_iff] at hfile
  obtain ⟨file', hfile', rfl⟩ := hfile
  have plain := alike.plain gap file' hgap hfile'
  split <;> exact plain

/-- A file has new contents. -/
theorem setContents {number : Nat} {contents contents' : Bytes} (alike : AlikeBut f g g')
    (present : f.gap ≠ some number) (same : ¬ f.Stains number → contents' = contents) :
    AlikeBut f (g.setContents number contents) (g'.setContents (f.number number) contents') :=
  { alike with
    files := alike.files.modify present fun _ _ _ _ file => ⟨file.permissions, same⟩
    plain := alike.plain_setContents _ _ }

/-- A description has moved on. -/
theorem setOffset {handle offset offset' : Nat} {description description' : Description} (alike : AlikeBut f g g')
    (other : handle ≠ f.handle) (present : g.handles[handle]? = some description)
    (present' : g'.handles[closeUp (some f.handle) handle]? = some description')
    (same : (∀ number, description.backing.number? = some number → ¬ f.Stains number) → offset' = offset) :
    AlikeBut f { g with handles := g.handles.set handle { description with offset } }
      { g' with
        handles := g'.handles.set (closeUp (some f.handle) handle) { description' with offset := offset' } } := by
  have moved := set_eq_modify present fun d => { d with offset }
  have moved' := set_eq_modify present' fun d => { d with offset := offset' }
  rw [moved, moved']
  refine { alike with handles := ?_, target := fun d number hd => ?_ }
  · refine alike.handles.modify (by simpa using Ne.symm other) fun d d' hd _ alike => ?_
    rw [present] at hd
    cases hd
    exact ⟨alike.backing, alike.present, alike.append, alike.readable, alike.writable, same⟩
  · simp only [List.getElem?_modify, if_neg other, id_eq, Option.map_eq_map, Option.map_id_fun'] at hd
    exact alike.target d number hd

/-- The target, or the file of the records, has new contents in one of the hosts. -/
theorem stain {number : Nat} (alike : AlikeBut f g g') (stained : f.Stains number) (contents : Bytes) :
    AlikeBut f (g.setContents number contents) g' :=
  { alike with
    files := alike.files.modify_left fun _ _ _ file => ⟨file.permissions, fun clean => absurd stained clean⟩
    plain := alike.plain_setContents _ _ }

/-- The target is written on. -/
theorem setOffset_target {description : Description} (alike : AlikeBut f g g')
    (present : g.handles[f.handle]? = some description) (offset : Nat) :
    AlikeBut f { g with handles := g.handles.set f.handle { description with offset } } g' := by
  have moved := set_eq_modify present fun d => { d with offset }
  rw [moved]
  refine { alike with
    handles := alike.handles.modify_left fun other => absurd rfl other
    target := fun d number hd => ?_ }
  simp only [List.getElem?_modify, if_true, present, Option.map_eq_map, Option.map_some, Option.some.injEq] at hd
  subst hd
  exact alike.target description number present

/-- A handle other than that of the target is there in both hosts, if it is in one. -/
theorem rel_handles {handle : Nat} (alike : AlikeBut f g g') (behind : handle ≠ f.handle) :
    Option.Rel f.DescriptionAlike g.handles[handle]? g'.handles[closeUp (some f.handle) handle]? :=
  alike.handles.entries handle (by simpa using Ne.symm behind)

/-- What is written to another file is written alike. -/
theorem writeHandle_of_file {handle number : Nat} {description description' : Description} (alike : AlikeBut f g g')
    (behind : handle ≠ f.handle) (present : g.handles[handle]? = some description)
    (present' : g'.handles[closeUp (some f.handle) handle]? = some description')
    (same : f.DescriptionAlike description description') (writable : description.writable = true)
    (backing : description.backing = .file number) (data : Bytes) :
    ∃ h h', g.writeHandle handle data = .ok h ∧
      g'.writeHandle (closeUp (some f.handle) handle) data = .ok h' ∧ AlikeBut f h h' := by
  have writable' : description'.writable = true := same.writable.trans writable
  have backing' : description'.backing = .file (f.number number) := by rw [same.backing, backing]; rfl
  have mine : description.backing.number? = some number := by rw [backing]; rfl
  have there := same.present number mine
  have spotless : ¬ f.Stains number → description'.offset = description.offset := fun clean =>
    same.offset fun other hother => by
      rw [mine] at hother
      cases hother
      exact clean
  -- Unless the file is stained, the write begins at the same place in the same contents.
  have contents := fun clean => alike.getD_contents there clean
  have start : ∀ old, ¬ f.Stains number → description'.start old = description.start old := fun old clean => by
    rw [Description.start, Description.start, spotless clean, same.append]
  refine ⟨_, _, Host.writeHandle_of_file present writable backing data,
    Host.writeHandle_of_file present' writable' backing' data, ?_⟩
  refine (alike.setContents there fun clean => ?_).setOffset behind present present' fun clean => ?_
  · rw [contents clean, start _ clean]
  · rw [contents (clean number mine), start _ (clean number mine)]

/-- What is written to a handle other than that of the target is written alike. -/
theorem writeHandle {handle : Nat} (alike : AlikeBut f g g') (behind : handle ≠ f.handle) (data : Bytes) :
    (∃ h h', g.writeHandle handle data = .ok h ∧ g'.writeHandle (closeUp (some f.handle) handle) data = .ok h' ∧
        AlikeBut f h h') ∨
      ∃ fault, g.writeHandle handle data = .error fault ∧
        g'.writeHandle (closeUp (some f.handle) handle) data = .error fault := by
  have entry := alike.rel_handles behind
  cases present : g.handles[handle]? with
  | none =>
    rw [present] at entry
    generalize present' : g'.handles[closeUp (some f.handle) handle]? = there at entry
    cases entry
    exact .inl ⟨g, g', by simp [Host.writeHandle, present], by simp [Host.writeHandle, present'], alike⟩
  | some description =>
    rw [present] at entry
    generalize present' : g'.handles[closeUp (some f.handle) handle]? = there at entry
    cases entry with
    | @some _ description' same =>
      have writable' := same.writable
      have backing' := same.backing
      cases writable : description.writable with
      | false =>
        rw [writable] at writable'
        exact .inr ⟨.os .badDescriptor, by simp [Host.writeHandle, present, writable],
          by simp [Host.writeHandle, present', writable']⟩
      | true =>
        rw [writable] at writable'
        cases backing : description.backing with
        | file number => exact .inl (alike.writeHandle_of_file behind present present' same writable backing data)
        | directory | rest =>
          rw [backing] at backing'
          exact .inr ⟨.os .badDescriptor, by simp [Host.writeHandle, present, writable, backing],
            by simp [Host.writeHandle, present', writable', backing', Backing.renumber]⟩
        | device device =>
          rw [backing] at backing'
          by_cases full : device = .full ∧ data ≠ []
          · obtain ⟨rfl, more⟩ := full
            exact .inr ⟨.os .noSpace, by simp [Host.writeHandle, present, writable, backing, more],
              by simp [Host.writeHandle, present', writable', backing', Backing.renumber, more]⟩
          · refine .inl ⟨g, g', ?_, ?_, alike⟩ <;> cases device <;> simp_all [Host.writeHandle, Backing.renumber]

/-- Whatever is written, but for the target itself, is written alike. -/
theorem write (alike : AlikeBut f g g') (other : d ≠ .file f.handle) (data : Bytes) :
    (∃ h h', g.write d data = .ok h ∧ g'.write (f.destination d) data = .ok h' ∧ AlikeBut f h h') ∨
      ∃ fault, g.write d data = .error fault ∧ g'.write (f.destination d) data = .error fault := by
  cases d with
  | nowhere => exact .inl ⟨g, g', rfl, rfl, alike⟩
  | terminal stream =>
    cases stream with
    | out => exact .inl ⟨_, _, rfl, rfl, { alike with terminalOut := alike.terminalOut.append data }⟩
    | err => exact .inl ⟨_, _, rfl, rfl, { alike with terminalErr := alike.terminalErr.append data }⟩
  | file handle =>
    have behind : handle ≠ f.handle := fun same => other (congrArg Destination.file same)
    have destination : f.destination (.file handle) = .file (closeUp (some f.handle) handle) := if_neg behind
    rw [destination]
    exact alike.writeHandle behind data

/-- What the target takes is nothing to the other host. -/
theorem write_target (alike : AlikeBut f g g') (taken : g.write (.file f.handle) data = .ok h) : AlikeBut f h g' := by
  simp only [Host.write, Host.writeHandle] at taken
  split at taken
  · cases taken
    exact alike
  · rename_i description present
    split at taken
    · cases taken
    · split at taken
      · cases taken
      · cases taken
      · cases taken
        exact alike
      · split at taken <;> cases taken
        exact alike
      · rename_i number backing
        have stained := alike.target description number present (by rw [backing]; rfl)
        cases taken
        exact (alike.stain stained _).setOffset_target present _

/-- What is written if that is possible. -/
theorem tryWrite (alike : AlikeBut f g g') (d : Destination) (data : Bytes) :
    AlikeBut f (g.tryWrite d data) (g'.tryWrite (f.destination d) data) := by
  by_cases target : d = .file f.handle
  · subst target
    rw [f.destination_handle]
    unfold Host.tryWrite
    split
    · rename_i taken
      exact alike.write_target taken
    · exact alike
  · unfold Host.tryWrite
    rcases alike.write target data with ⟨h, h', taken, taken', alike'⟩ | ⟨fault, failed, failed'⟩
    · rw [taken, taken']
      exact alike'
    · rw [failed, failed']
      exact alike

theorem report (alike : AlikeBut f g g') (d : Destination) (message : Text) :
    AlikeBut f (g.report d message) (g'.report (f.destination d) message) := alike.tryWrite d _

theorem note (alike : AlikeBut f g g') (level : Level) (text : Text) :
    AlikeBut f (g.note level text) (g'.note level text) := by
  -- A record is printed alike, if it is printed.
  suffices printed : ∀ h h' : Host, AlikeBut f h h' → ∀ r : Record,
      AlikeBut f
        (if r.level.passes h.logger.limit then h.tryWrite h.logger.target (utf8 (r.line h.clock h.logger.coloured))
          else h)
        (if r.level.passes h'.logger.limit then
            h'.tryWrite h'.logger.target (utf8 (r.line h'.clock h'.logger.coloured))
          else h') from
    printed { g with journal := g.journal ++ [⟨level, text⟩] } { g' with journal := g'.journal ++ [⟨level, text⟩] }
      { alike with } ⟨level, text⟩
  intro h h' alike r
  simp only [alike.logger, alike.clock]
  split
  · exact alike.tryWrite _ _
  · exact alike

/-! ### Looking around -/

theorem walk_eq (alike : AlikeBut f g g') (p : Purpose) (path : Text) :
    g'.walk p path = ((f.spare g.tree).walk p g.here path).map (Place.renumber f.number) := by
  rw [Host.walk, alike.here]
  exact Tree.walk_renumber alike.tree p g.here path

/-- A path leads to the same, unless to the file that has been made. -/
theorem node?_eq (alike : AlikeBut f g g') (path : Text) :
    g'.node? path =
      ((g.node? path).filter fun n => ∀ number ∈ f.gap, n ≠ .file number).map (Node.renumber f.number) := by
  rw [Host.node?_eq, alike.walk_eq, Place.node?_map, Footprint.spare]
  cases f.gap with
  | none =>
    rw [Host.node?_eq, Host.walk]
    cases Place.node? (g.tree.walk .use g.here path) <;> simp [Option.filter]
  | some gap => simp [Host.node?_eq, Host.walk, Tree.node?_walk_without]

theorem isDirectory_eq (alike : AlikeBut f g g') (path : Text) : g'.isDirectory path = g.isDirectory path := by
  unfold isDirectory
  rw [alike.node?_eq]
  rcases g.node? path with _ | _ | number | device | target
  case some.file =>
    by_cases present : ∀ gap ∈ f.gap, Node.file number ≠ .file gap
    · rw [Option.filter_some_pos (by simpa using present)]
      rfl
    · rw [Option.filter_some_neg (by simpa using present)]
      rfl
  all_goals simp [Option.filter, Node.renumber]

theorem isExecutable_eq (alike : AlikeBut f g g') (path : Text) : g'.isExecutable path = g.isExecutable path := by
  unfold isExecutable
  rw [alike.node?_eq]
  rcases g.node? path with _ | _ | number | device | target
  case some.file =>
    by_cases present : ∀ gap ∈ f.gap, Node.file number ≠ .file gap
    · have entry := alike.files.entries number fun gap => present number gap rfl
      rw [Option.filter_some_pos (by simpa using present)]
      simp only [Option.map_some, Node.renumber, List.getD_eq_getElem?_getD, Footprint.number]
      generalize g.files[number]? = file at entry ⊢
      generalize g'.files[closeUp f.gap number]? = file' at entry ⊢
      cases entry with
      | none => rfl
      | some same =>
        simp only [Option.getD_some, same.permissions]
    · rw [Option.filter_some_neg (by simpa using present)]
      obtain ⟨gap, hgap, same⟩ : ∃ gap ∈ f.gap, Node.file number = .file gap := by simpa using present
      cases same
      have inside := alike.files.inside number hgap
      have plain := alike.plain number _ hgap (List.getElem?_eq_getElem inside)
      simp [List.getD_eq_getElem?_getD, List.getElem?_eq_getElem inside, plain]
  all_goals simp [Option.filter, Node.renumber]

theorem program?_eq (alike : AlikeBut f g g') (ctx : Context) (name : Text) :
    g'.program? ctx name = g.program? ctx name := by
  unfold program?
  congr 1
  funext path
  exact alike.isExecutable_eq path

/-- Where no file has been made, paths have the same canonical forms. -/
theorem canonical?_eq (alike : AlikeBut f g g') (before : f.gap = none) (path : Text) :
    g'.canonical? path = g.canonical? path := by
  have same : ∀ l, g'.tree.get l = (g.tree.get l).map (Node.renumber f.number) := by
    simpa only [Footprint.spare, before] using alike.tree
  simp only [canonical?, alike.here, Tree.walkFar_renumber same, Tree.inReach_renumber same]
  rcases g.tree.walkFar .use g.here path with _ | _ | _ <;> rfl

/-! ### Opening other targets -/

theorem addFile (alike : AlikeBut f g g') (file : File) : AlikeBut f (g.addFile file).1 (g'.addFile file).1 :=
  { alike with
    files := alike.files.append ⟨rfl, fun _ => rfl⟩
    plain := fun gap file' hgap hfile => by
      have inside := alike.files.inside gap hgap
      rw [Host.addFile, List.getElem?_append_left inside] at hfile
      exact alike.plain gap file' hgap hfile }

theorem setNode {l : Location} {number : Nat} (alike : AlikeBut f g g') (below : l ≠ [])
    (present : f.gap ≠ some number) :
    AlikeBut f { g with tree := g.tree.set l (.file number) }
      { g' with tree := g'.tree.set l (.file (f.number number)) } := by
  refine { alike with tree := fun l' => ?_ }
  have node := alike.tree l'
  unfold Footprint.spare at node ⊢
  cases hgap : f.gap with
  | none =>
    rw [hgap] at node
    simp only [Tree.get_set _ below, node]
    split <;> rfl
  | some gap =>
    rw [hgap] at node present
    simp only [Tree.get_set _ below, node, Tree.get_without]
    split
    · have other : Node.file number ≠ .file gap := fun same => present (by cases same; rfl)
      simp [Option.filter, other, Node.renumber]
    · rfl

theorem addHandle {d d' : Description} (alike : AlikeBut f g g') (same : f.DescriptionAlike d d') :
    AlikeBut f (g.addHandle d).1 (g'.addHandle d').1 :=
  { alike with
    handles := alike.handles.append same
    target := fun d number hd => by
      have inside := alike.handles.inside f.handle rfl
      rw [Host.addHandle, List.getElem?_append_left inside] at hd
      exact alike.target d number hd }

theorem walk_create (alike : AlikeBut f g g') (overlooked : f.Overlooked g path) :
    g'.walk .create path = (g.walk .create path).map (Place.renumber f.number) := by
  rw [alike.walk_eq]
  unfold Footprint.spare
  cases hgap : f.gap with
  | none => rfl
  | some gap =>
    have same : (g.tree.without gap).walk .create g.here path = g.walk .create path :=
      overlooked gap (f.file_of_gap hgap)
    simp only [same]

/-- What is found or made at another place is made ready alike. -/
theorem ready {place : Place} (alike : AlikeBut f g g') (mode : OpenMode)
    (other : ∀ l number, place = .found l (.file number) → f.gap ≠ some number) :
    (∃ h h' backing, g.ready mode place = .ok (h, backing) ∧
        g'.ready mode (place.renumber f.number) = .ok (h', backing.renumber f.number) ∧ h.handles = g.handles ∧
        (∀ number, backing.number? = some number → f.gap ≠ some number) ∧ AlikeBut f h h') ∨
      ∃ fault, g.ready mode place = .error fault ∧ g'.ready mode (place.renumber f.number) = .error fault := by
  cases place with
  | vacant directory name =>
    have made := (alike.addFile {}).setNode (l := directory ++ [name]) (by simp) alike.files.ne_length
    have number : f.number g.files.length = g'.files.length := alike.files.closeUp_length
    rw [number] at made
    refine .inl ⟨_, _, .file g.files.length, rfl, ?_, rfl, ?_, made⟩
    · rw [Backing.renumber, number]
      rfl
    · rintro _ ⟨⟩
      exact alike.files.ne_length
  | found l n =>
    cases n with
    | directory | link => exact .inr ⟨_, rfl, rfl⟩
    | device device => exact .inl ⟨g, g', .device device, rfl, rfl, rfl, by simp [Backing.number?], alike⟩
    | file number =>
      have present := other l number rfl
      have mine : ∀ i, (Backing.file number).number? = some i → f.gap ≠ some i := by
        rintro _ ⟨⟩
        exact present
      cases mode with
      | overwrite =>
        exact .inl ⟨_, _, _, rfl, rfl, rfl, mine, alike.setContents present fun _ => rfl⟩
      | append => exact .inl ⟨g, g', _, rfl, rfl, rfl, mine, alike⟩

/-- Any other target is opened alike. -/
theorem openForWriting (alike : AlikeBut f g g') (overlooked : f.Overlooked g path) (mode : OpenMode) :
    (∃ h h' handle, g.openForWriting path mode = .ok (h, handle) ∧
        g'.openForWriting path mode = .ok (h', closeUp (some f.handle) handle) ∧ handle ≠ f.handle ∧ AlikeBut f h h') ∨
      ∃ fault, g.openForWriting path mode = .error fault ∧ g'.openForWriting path mode = .error fault := by
  rw [openForWriting_eq, openForWriting_eq, alike.walk_create overlooked]
  cases walked : g.walk .create path with
  | error fault => exact .inr ⟨fault, rfl, rfl⟩
  | ok place =>
    have other : ∀ l number, place = .found l (.file number) → f.gap ≠ some number := by
      rintro l number rfl gap
      exact (overlooked number (f.file_of_gap gap)).ne walked
    simp only [Except.map, bind, Except.bind]
    rcases alike.ready mode other with ⟨h, h', backing, made, made', handles, present, alike'⟩ |
      ⟨fault, failed, failed'⟩
    · rw [made, made']
      have same : f.DescriptionAlike { backing, append := mode == .append }
          { backing := backing.renumber f.number, append := mode == .append } :=
        ⟨rfl, present, rfl, rfl, rfl, fun _ => rfl⟩
      have opened := alike'.addHandle same
      refine .inl ⟨_, _, h.handles.length, rfl, ?_, ?_, opened⟩
      · rw [alike'.handles.closeUp_length]
        rfl
      · intro same
        exact alike'.handles.ne_length (congrArg some same.symm)
    · rw [failed, failed']
      exact .inr ⟨fault, rfl, rfl⟩

theorem openTarget {t : Target} (alike : AlikeBut f g g') (cwd : Text)
    (overlooked : f.Overlooked g (joinPath cwd t.path)) :
    AlikeBut f (g.openTarget cwd t).1 (g'.openTarget cwd t).1 ∧
      (g'.openTarget cwd t).2 = (g.openTarget cwd t).2.map f.destination := by
  unfold Host.openTarget
  simp only [alike.isDirectory_eq]
  split
  · exact ⟨alike.note _ _, rfl⟩
  · rcases alike.openForWriting overlooked t.mode with ⟨h, h', handle, opened, opened', other, alike'⟩ |
      ⟨fault, failed, failed'⟩
    · rw [opened, opened']
      refine ⟨alike', ?_⟩
      simp [Except.map, Footprint.destination, other]
    · rw [failed, failed']
      exact ⟨alike, rfl⟩

end AlikeBut

end Host

end PipeShell
