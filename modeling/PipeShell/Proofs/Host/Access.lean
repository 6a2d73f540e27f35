import PipeShell.Proofs.Host.Opening

/-!
# Access to the files of a host

Those who only open targets and write to them do so access by access (`Host.Accessed`).  A handle stays what it is, and
its file too; only its offset moves, and that by what is written through it (`Host.Accessed.handle_eq`).  What is written
through handles that append follows what was in the file before (`Host.Accessed.contents_eq_of_append`), and so it does
where a handle at the end of a file is the only one in use (`Host.Accessed.contents_eq_of_sole`).  A file that no handle
in use is about stays as it is.
-/

namespace PipeShell

/-- At the end, bytes are added. -/
theorem splice_length (old data : Bytes) : splice old old.length data = old ++ data := by
  by_cases empty : data = []
  · simp [splice, empty]
  · simp [splice, empty, List.drop_eq_nil_of_le (Nat.le_add_right old.length data.length)]

/-- Writing over others makes a file no shorter. -/
theorem length_le_splice (old : Bytes) (offset : Nat) (data : Bytes) : old.length ≤ (splice old offset data).length := by
  unfold splice
  split
  · exact Nat.le_refl _
  · simp only [List.length_append, List.length_take, List.length_replicate, List.length_drop]
    omega

/-- What is done to a host by those who open targets and write to them. -/
inductive Access
  /-- A record is kept that is not printed, or a process is counted. -/
  | aside
  | opened (path : Text) (mode : OpenMode) (handle : Nat)
  | wrote (d : Destination) (data : Bytes)
  deriving DecidableEq

/-- A description as it is when a target has just been opened for writing. -/
structure Description.IsNew (mode : OpenMode) (d : Description) : Prop where
  append : d.append = (mode == .append)
  offset : d.offset = 0
  readable : d.readable = false
  writable : d.writable = true
  backing : ∀ number, d.backing.number? = some number → d.backing = .file number

/-- A new description of a file is this one. -/
theorem Description.IsNew.eq {mode : OpenMode} {d : Description} {number : Nat} (isNew : d.IsNew mode)
    (mine : d.backing.number? = some number) : d = { backing := .file number, append := mode == .append } := by
  have file := isNew.backing number mine
  obtain ⟨backing, offset, append, readable, writable⟩ := d
  obtain ⟨rfl, rfl, rfl, rfl, -⟩ := isNew
  rw [show backing = _ from file]

namespace Access

/-- The handle that is used. -/
def handle? : Access → Option Nat
  | .opened _ _ handle | .wrote (.file handle) _ => some handle
  | _ => none

/-- What is written through a handle. -/
def through (handle : Nat) : Access → Bytes
  | .wrote d data => if d = .file handle then data else []
  | _ => []

/-- Everything but opening a target is output. -/
def IsOutput : Access → Prop
  | .opened _ _ _ => False
  | _ => True

theorem through_of_ne {handle : Nat} {a : Access} (other : a.handle? ≠ some handle) : a.through handle = [] := by
  rcases a with _ | _ | ⟨d, data⟩
  case wrote =>
    refine if_neg ?_
    rintro rfl
    exact other rfl
  all_goals rfl

end Access

namespace Host

variable {g h h' : Host} {a : Access} {log : List Access} {d : Destination} {description : Description} {data : Bytes}
  {handle number : Nat} {path : Text} {mode : OpenMode}

/-- The bytes of a file. -/
def contents (h : Host) (number : Nat) : Bytes := (h.files.getD number {}).contents

/-- The file that a handle is about. -/
def file? (h : Host) (handle : Nat) : Option Nat := h.handles[handle]?.bind (·.backing.number?)

/-- What is written into a file. -/
def into (h : Host) (number : Nat) : Access → Bytes
  | .wrote (.file handle) data => if h.file? handle = some number then data else []
  | _ => []

/-- An access turns a host into another one. -/
inductive Takes (h : Host) : Access → Host → Prop
  | aside (journal : List Record) (nextProcess : Nat) : Takes h .aside { h with journal, nextProcess }
  | opened {path : Text} {mode : OpenMode} {h' : Host} {handle : Nat}
      (opened : h.openForWriting path mode = .ok (h', handle)) : Takes h (.opened path mode handle) h'
  | wrote {d : Destination} {data : Bytes} {h' : Host} (holds : h.Holds d) (taken : h.write d data = .ok h') :
      Takes h (.wrote d data) h'

/-- The host `h` is what `g` has become by these accesses. -/
inductive Accessed (g : Host) : List Access → Host → Prop
  | start : Accessed g [] g
  | step {log : List Access} {a : Access} {h h' : Host} (before : Accessed g log h) (takes : h.Takes a h') :
      Accessed g (log ++ [a]) h'

/-- On a host without anything, nothing is amiss. -/
theorem sound_empty : ({} : Host).Sound := by
  refine ⟨fun l number node => ?_, by simp, trivial⟩
  by_cases root : l = [] <;> simp [Tree.get, root] at node

theorem file?_eq (present : h.handles[handle]? = some description) :
    h.file? handle = description.backing.number? := by
  rw [file?, present, Option.bind_some]

/-- A file that is known has a description that is about it. -/
theorem file?_eq_some_iff :
    h.file? handle = some number ↔
      ∃ description, h.handles[handle]? = some description ∧ description.backing.number? = some number := by
  rw [file?, Option.bind_eq_some_iff]

/-- Files that are not there are empty. -/
theorem contents_of_le (beyond : h.files.length ≤ number) : h.contents number = [] := by
  simp [contents, List.getElem?_eq_none beyond]

theorem contents_setContents (present : number < h.files.length) (bytes : Bytes) (other : Nat) :
    (h.setContents number bytes).contents other = if number = other then bytes else h.contents other := by
  simp only [contents, setContents, List.getD_eq_getElem?_getD, List.getElem?_modify]
  split
  · rename_i same
    subst same
    simp [List.getElem?_eq_getElem present]
  · cases h.files[other]? <;> rfl

theorem exists_file_setContents {file : File} {other : Nat} (present : h.files[number]? = some file)
    (bytes : Bytes) : ∃ contents, (h.setContents other bytes).files[number]? = some { file with contents } := by
  simp only [setContents, List.getElem?_modify, present]
  split
  · exact ⟨bytes, rfl⟩
  · exact ⟨file.contents, rfl⟩

/-! ### Writes -/

/-- What comes of a write that is taken: it goes into a file, or changes neither files nor handles. -/
inductive Wrote (h : Host) (data : Bytes) : Destination → Host → Prop
  | elsewhere {d : Destination} {h' : Host} (files : h'.files = h.files) (handles : h'.handles = h.handles)
      (none : ∀ handle, d = .file handle → h.file? handle = none) : Wrote h data d h'
  | file {handle number : Nat} {description : Description} (present : h.handles[handle]? = some description)
      (backing : description.backing = .file number) :
      Wrote h data (.file handle)
        { h.setContents number (splice (h.contents number) (description.start (h.contents number)) data) with
          handles := h.handles.set handle
            { description with offset := description.start (h.contents number) + data.length } }

theorem wrote_of_write (taken : h.write d data = .ok h') : h.Wrote data d h' := by
  cases d with
  | nowhere =>
    cases taken
    exact .elsewhere rfl rfl nofun
  | terminal stream => cases stream <;> cases taken <;> exact .elsewhere rfl rfl nofun
  | file handle =>
    simp only [write, writeHandle] at taken
    cases present : h.handles[handle]? with
    | none =>
      rw [present] at taken
      cases taken
      refine .elsewhere rfl rfl ?_
      rintro _ ⟨⟩
      simp [file?, present]
    | some description =>
      rw [present] at taken
      -- A device is about no file.
      have device : ∀ device, description.backing = .device device → ∀ other, Destination.file handle = .file other →
          h.file? other = none := by
        rintro device backing _ ⟨⟩
        rw [file?_eq present, backing]
        rfl
      dsimp only at taken
      split at taken
      · cases taken
      · split at taken
        · cases taken
        · cases taken
        · rename_i backing
          cases taken
          exact .elsewhere rfl rfl (device _ backing)
        · rename_i backing
          split at taken <;> cases taken
          exact .elsewhere rfl rfl (device _ backing)
        · rename_i number backing
          cases taken
          exact .file present backing

/-! ### Openings -/

/-- What comes of opening a target for writing.  A file that is missing is made, and one that is there loses its contents
unless it is opened for appending. -/
inductive Opened (h : Host) (path : Text) (mode : OpenMode) : Host → Nat → Prop
  | made {directory : Location} {name : Text} (vacant : h.walk .create path = .ok (.vacant directory name)) :
      Opened h path mode
        { h with
          tree := h.tree.set (directory ++ [name]) (.file h.files.length)
          files := h.files ++ [{}]
          handles := h.handles ++ [{ backing := .file h.files.length, append := mode == .append }] }
        h.handles.length
  | emptied {l : Location} {number : Nat} (there : h.walk .create path = .ok (.found l (.file number)))
      (overwrites : mode = .overwrite) :
      Opened h path mode
        { h.setContents number [] with handles := h.handles ++ [{ backing := .file number }] } h.handles.length
  | kept {l : Location} {number : Nat} (there : h.walk .create path = .ok (.found l (.file number)))
      (appends : mode = .append) :
      Opened h path mode
        { h with handles := h.handles ++ [{ backing := .file number, append := true }] } h.handles.length
  | device {l : Location} {device : Device} (there : h.walk .create path = .ok (.found l (.device device))) :
      Opened h path mode
        { h with handles := h.handles ++ [{ backing := .device device, append := mode == .append }] } h.handles.length

theorem openForWriting_eq_ok_iff : h.openForWriting path mode = .ok (h', handle) ↔ h.Opened path mode h' handle := by
  constructor
  · intro opened
    rw [openForWriting_eq] at opened
    rcases walked : h.walk .create path with fault | ⟨l, _ | number | device | target⟩ | ⟨directory, name⟩ <;>
      rw [walked] at opened
    case ok.vacant =>
      cases opened
      exact .made walked
    case ok.found.file =>
      cases mode <;> cases opened
      · exact .emptied walked rfl
      · exact .kept walked rfl
    case ok.found.device =>
      cases opened
      exact .device walked
    all_goals cases opened
  · intro opened
    rw [openForWriting_eq]
    cases opened with
    | made vacant =>
      rw [vacant]
      rfl
    | emptied there overwrites =>
      subst overwrites
      rw [there]
      rfl
    | kept there appends =>
      subst appends
      rw [there]
      rfl
    | device there =>
      rw [there]
      rfl

namespace Opened

variable (opened : h.Opened path mode h' handle)
include opened

/-- The handle of a target is a new one. -/
theorem handle_eq : handle = h.handles.length := by
  cases opened <;> rfl

/-- The handles that are there stay as they are, and the new one is at the start of its file. -/
theorem handles_eq : ∃ new, h'.handles = h.handles ++ [new] ∧ new.IsNew mode := by
  cases opened with
  | made => exact ⟨_, rfl, rfl, rfl, rfl, rfl, by rintro _ ⟨⟩; rfl⟩
  | emptied _ overwrites =>
    subst overwrites
    exact ⟨_, rfl, rfl, rfl, rfl, rfl, by rintro _ ⟨⟩; rfl⟩
  | kept _ appends =>
    subst appends
    exact ⟨_, rfl, rfl, rfl, rfl, rfl, by rintro _ ⟨⟩; rfl⟩
  | device => exact ⟨_, rfl, rfl, rfl, rfl, rfl, nofun⟩

/-- There is a description for the new handle. -/
theorem exists_new : ∃ new, h'.handles[handle]? = some new ∧ new.IsNew mode := by
  obtain ⟨new, handles, isNew⟩ := opened.handles_eq
  exact ⟨new, by simp [handles, opened.handle_eq], isNew⟩

/-- What was there before does not go to the new handle. -/
theorem ne_of_holds {d : Destination} (holds : h.Holds d) : d ≠ .file handle := by
  rintro rfl
  rw [opened.handle_eq] at holds
  exact Nat.lt_irrefl _ holds

theorem logger_eq : h'.logger = h.logger := by
  cases opened <;> rfl

/-- No records are printed through the new handle. -/
theorem spared (sound : h.Sound) : h'.logger.target ≠ .file handle := by
  rw [opened.logger_eq]
  exact opened.ne_of_holds sound.logger

/-- The files that are there keep their numbers and their permissions. -/
theorem exists_file {file : File} (present : h.files[number]? = some file) :
    ∃ contents, h'.files[number]? = some { file with contents } := by
  cases opened with
  | made => exact ⟨_, (List.getElem?_append_left (List.getElem?_eq_some_iff.1 present).1).trans present⟩
  | emptied => exact exists_file_setContents present _
  | kept | device => exact ⟨_, present⟩

/-- The file of the new handle is empty, or as it was; all other files are as they were. -/
theorem contents_eq (sound : h.Sound) (number : Nat) :
    h'.contents number = if h'.file? handle = some number ∧ mode = .overwrite then [] else h.contents number := by
  cases opened with
  | made vacant =>
    have grown : ((h.files ++ [({} : File)]).getD number {}).contents = h.contents number := by
      simp only [contents, List.getD_eq_getElem?_getD, List.getElem?_append]
      split
      · rfl
      · rename_i beyond
        rw [List.getElem?_eq_none (Nat.le_of_not_lt beyond), List.getElem?_singleton]
        split <;> rfl
    refine grown.trans ?_
    split
    · rename_i mine
      have own : h.files.length = number := by simpa [file?, Backing.number?] using mine.1
      exact contents_of_le (Nat.le_of_eq own)
    · rfl
  | @emptied l own there overwrites =>
    have present : own < h.files.length := sound.tree l own (Tree.shows_of_walk there)
    refine (contents_setContents present [] number).trans ?_
    simp [file?, Backing.number?, overwrites]
  | kept there appends => simp [appends, contents]
  | device there => simp [file?, Backing.number?, contents]

end Opened

namespace Takes

theorem sound (takes : h.Takes a h') (sound : h.Sound) : h'.Sound := by
  cases takes with
  | aside => exact ⟨sound.tree, sound.handles, sound.logger⟩
  | opened opened => exact (sound.openForWriting opened).1
  | wrote holds taken => exact sound.of_scene (scene_of_write taken)

/-- Where records go does not change. -/
theorem logger_eq (takes : h.Takes a h') : h'.logger = h.logger := by
  cases takes with
  | aside => rfl
  | opened opened => exact (openForWriting_eq_ok_iff.1 opened).logger_eq
  | wrote holds taken =>
    have same : h'.scene.logger = h.scene.logger := congrArg _ (scene_of_write taken)
    exact same

/-- A file keeps its number and its permissions. -/
theorem exists_file {file : File} (takes : h.Takes a h') (present : h.files[number]? = some file) :
    ∃ contents, h'.files[number]? = some { file with contents } := by
  cases takes with
  | aside => exact ⟨_, present⟩
  | opened opened => exact (openForWriting_eq_ok_iff.1 opened).exists_file present
  | wrote holds taken =>
    cases wrote_of_write taken with
    | elsewhere files => exact ⟨_, by rw [files, present]⟩
    | file => exact exists_file_setContents present _

/-- What becomes of a description. -/
theorem handle_eq (takes : h.Takes a h') (present : h.handles[handle]? = some description) :
    ∃ offset, h'.handles[handle]? = some { description with offset } ∧
      (description.append = false → description.backing.number? ≠ none →
        offset = description.offset + (a.through handle).length) := by
  cases takes with
  | aside => exact ⟨_, present, fun _ _ => rfl⟩
  | @opened path mode h' new opened =>
    obtain ⟨new, handles, -⟩ := (openForWriting_eq_ok_iff.1 opened).handles_eq
    refine ⟨description.offset, ?_, fun _ _ => rfl⟩
    rw [handles, List.getElem?_append_left (List.getElem?_eq_some_iff.1 present).1, present]
  | @wrote d data h' holds taken =>
    cases wrote_of_write taken with
    | elsewhere files handles none =>
      refine ⟨description.offset, by rw [handles, present], fun _ known => ?_⟩
      have other : d ≠ .file handle := fun own => known (by rw [← file?_eq present, none handle own])
      simp [Access.through, other]
    | @file own number own_description present' backing =>
      by_cases same : own = handle
      · subst same
        rw [present] at present'
        cases present'
        refine ⟨_, List.getElem?_set_self (List.getElem?_eq_some_iff.1 present).1, fun append _ => ?_⟩
        simp [Description.start, append, Access.through]
      · refine ⟨description.offset, by rw [← present]; exact List.getElem?_set_ne same, fun _ _ => ?_⟩
        simp [Access.through, same]

/-- A handle that is there keeps its file. -/
theorem file?_eq (takes : h.Takes a h') (there : handle < h.handles.length) :
    h'.file? handle = h.file? handle := by
  have present := List.getElem?_eq_getElem there
  obtain ⟨offset, present', -⟩ := takes.handle_eq present
  rw [Host.file?_eq present, Host.file?_eq present']

theorem length_handles_le (takes : h.Takes a h') : h.handles.length ≤ h'.handles.length := by
  by_contra fewer
  have lost : h'.handles.length < h.handles.length := Nat.lt_of_not_le fewer
  obtain ⟨offset, present, -⟩ := takes.handle_eq (List.getElem?_eq_getElem lost)
  exact Nat.lt_irrefl _ (List.getElem?_eq_some_iff.1 present).1

/-- The handle in use is there afterwards. -/
theorem handle_lt (takes : h.Takes a h') (uses : a.handle? = some handle) : handle < h'.handles.length := by
  have kept := takes.length_handles_le
  cases takes with
  | aside => cases uses
  | opened opened =>
    cases uses
    have opened := openForWriting_eq_ok_iff.1 opened
    obtain ⟨new, handles, -⟩ := opened.handles_eq
    simp [opened.handle_eq, handles]
  | @wrote d data h' holds taken =>
    cases d with
    | terminal | nowhere => cases uses
    | file handle =>
      cases uses
      exact Nat.lt_of_lt_of_le holds kept

/-- Only opening a target adds a handle. -/
theorem opens_of_lt (takes : h.Takes a h') (there : handle < h'.handles.length) :
    handle < h.handles.length ∨ ∃ path mode, a = .opened path mode handle := by
  cases takes with
  | aside => exact .inl there
  | wrote holds taken => exact .inl (Nat.lt_of_lt_of_eq there (length_handles_of_scene (scene_of_write taken)))
  | @opened path mode h' new opened =>
    have opened := openForWriting_eq_ok_iff.1 opened
    obtain ⟨d, handles, -⟩ := opened.handles_eq
    rw [handles, List.length_append, List.length_singleton] at there
    rcases Nat.lt_succ_iff_lt_or_eq.1 there with before | rfl
    · exact .inl before
    · exact .inr ⟨path, mode, by rw [opened.handle_eq]⟩

/-- What becomes of the contents of a file. -/
theorem contents_eq_of_wrote (takes : h.Takes (.wrote (.file handle) data) h') (sound : h.Sound)
    (present : h.handles[handle]? = some description) (mine : description.backing.number? = some number) :
    h'.contents number = splice (h.contents number) (description.start (h.contents number)) data := by
  obtain ⟨⟩ := takes
  rename_i holds taken
  cases wrote_of_write taken with
  | elsewhere files handles none =>
    have unknown := none handle rfl
    rw [Host.file?_eq present, mine] at unknown
    cases unknown
  | @file _ own description' present' backing =>
    rw [present] at present'
    cases present'
    obtain rfl : own = number := by simpa [backing, Backing.number?] using mine
    have known := sound.handles handle description own present mine
    exact (contents_setContents known _ own).trans (if_pos rfl)

/-- A file is changed through its own handles only. -/
theorem contents_eq_of_ne (takes : h.Takes a h') (sound : h.Sound)
    (others : ∀ handle, a.handle? = some handle → h'.file? handle ≠ some number) :
    h'.contents number = h.contents number := by
  cases takes with
  | aside => rfl
  | opened opened =>
    rw [(openForWriting_eq_ok_iff.1 opened).contents_eq sound, if_neg fun mine => others _ rfl mine.1]
  | @wrote d data h' holds taken =>
    cases wrote_of_write taken with
    | elsewhere files handles none => rw [contents, contents, files]
    | @file handle own description present backing =>
      have known := sound.handles handle description own present (by rw [backing]; rfl)
      have other : own ≠ number := fun same => others handle rfl (by
        have there := (List.getElem?_eq_some_iff.1 present).1
        simp [file?, there, backing, Backing.number?, same])
      exact (contents_setContents known _ number).trans (if_neg other)

/-- What is written at the end of a file goes there. -/
theorem contents_eq_of_atEnd (takes : h.Takes a h') (sound : h.Sound)
    (present : h.handles[handle]? = some description) (mine : description.backing.number? = some number)
    (atEnd : description.start (h.contents number) = (h.contents number).length) (uses : a.handle? = some handle) :
    h'.contents number = h.contents number ++ a.through handle := by
  cases takes with
  | aside => cases uses
  | opened opened =>
    -- An opened handle is a new one.
    cases uses
    have there := (List.getElem?_eq_some_iff.1 present).1
    rw [(openForWriting_eq_ok_iff.1 opened).handle_eq] at there
    exact absurd there (Nat.lt_irrefl _)
  | @wrote d data h' holds taken =>
    cases d with
    | terminal | nowhere => cases uses
    | file own =>
      cases uses
      have takes : h.Takes (.wrote (.file handle) data) h' := .wrote holds taken
      rw [takes.contents_eq_of_wrote sound present mine, atEnd, splice_length]
      simp [Access.through]

/-- What is written through a description that appends is added to its file. -/
theorem contents_eq_of_append (takes : h.Takes a h') (sound : h.Sound)
    (append : ∀ handle description, a.handle? = some handle → h'.handles[handle]? = some description →
      description.backing.number? = some number → description.append = true) :
    h'.contents number = h.contents number ++ h'.into number a := by
  by_cases others : ∀ handle, a.handle? = some handle → h'.file? handle ≠ some number
  · rw [takes.contents_eq_of_ne sound others]
    rcases a with _ | _ | ⟨_ | handle | _, data⟩
    case wrote.file => simp [into, others handle rfl]
    all_goals simp [into]
  · push Not at others
    obtain ⟨handle, uses, mine⟩ := others
    obtain ⟨description', present', mine'⟩ := file?_eq_some_iff.1 mine
    have appends := append handle description' uses present' mine'
    cases takes with
    | aside => cases uses
    | @opened path mode h' handle' opened =>
      cases uses
      have opened := openForWriting_eq_ok_iff.1 opened
      obtain ⟨new, handles, isNew⟩ := opened.handles_eq
      obtain rfl : new = description' := by simpa [handles, opened.handle_eq] using present'
      have other : ¬ (h'.file? handle = some number ∧ mode = .overwrite) := by
        rintro ⟨-, rfl⟩
        rw [isNew.append] at appends
        cases appends
      rw [opened.contents_eq sound, if_neg other]
      simp [into]
    | @wrote d data h' holds taken =>
      have takes : h.Takes (.wrote d data) h' := .wrote holds taken
      cases d with
      | terminal | nowhere => cases uses
      | file own =>
        cases uses
        obtain ⟨offset, present, -⟩ := takes.handle_eq (List.getElem?_eq_getElem holds)
        rw [present] at present'
        cases present'
        rw [takes.contents_eq_of_atEnd sound (List.getElem?_eq_getElem holds) mine' (by simp_all [Description.start]) rfl]
        simp [into, mine, Access.through]

/-- An access makes a file no shorter, unless it is opened for overwriting. -/
theorem length_contents_le (takes : h.Takes a h') (sound : h.Sound)
    (spared : ∀ path handle, a = .opened path .overwrite handle → h'.file? handle ≠ some number) :
    (h.contents number).length ≤ (h'.contents number).length := by
  by_cases others : ∀ handle, a.handle? = some handle → h'.file? handle ≠ some number
  · exact Nat.le_of_eq (congrArg List.length (takes.contents_eq_of_ne sound others)).symm
  · push Not at others
    obtain ⟨handle, uses, mine⟩ := others
    cases takes with
    | aside => cases uses
    | @opened path mode h' handle' opened =>
      have other : ¬ (h'.file? handle' = some number ∧ mode = .overwrite) := by
        rintro ⟨mine, rfl⟩
        exact spared path handle' rfl mine
      exact Nat.le_of_eq (congrArg List.length
        (((openForWriting_eq_ok_iff.1 opened).contents_eq sound number).trans (if_neg other))).symm
    | @wrote d data h' holds taken =>
      have takes : h.Takes (.wrote d data) h' := .wrote holds taken
      cases d with
      | terminal | nowhere => cases uses
      | file own =>
        cases uses
        rw [takes.file?_eq holds] at mine
        obtain ⟨description, present, mine⟩ := file?_eq_some_iff.1 mine
        rw [takes.contents_eq_of_wrote sound present mine]
        exact length_le_splice _ _ _

end Takes

/-! ### Access by access -/

namespace Accessed

theorem sound (accessed : g.Accessed log h) (sound : g.Sound) : h.Sound := by
  induction accessed with
  | start => exact sound
  | step _ takes ih => exact takes.sound ih

theorem trans {later : List Access} (first : g.Accessed log h) (second : h.Accessed later h') :
    g.Accessed (log ++ later) h' := by
  induction second with
  | start => rwa [List.append_nil]
  | step _ takes ih =>
    rw [← List.append_assoc]
    exact .step ih takes

theorem of_takes (takes : h.Takes a h') : h.Accessed [a] h' := .step .start takes

theorem eq_of_nil (accessed : h.Accessed log h') (none : log = []) : h' = h := by
  cases accessed with
  | start => rfl
  | step => simp at none

theorem takes_of_singleton (accessed : h.Accessed log h') (one : log = [a]) : h.Takes a h' := by
  cases accessed with
  | start => cases one
  | step before takes =>
    rcases List.append_eq_singleton_iff.1 one with ⟨none, same⟩ | ⟨-, none⟩
    · cases same
      rwa [before.eq_of_nil none] at takes
    · cases none

theorem logger_eq (accessed : g.Accessed log h) : h.logger = g.logger := by
  induction accessed with
  | start => rfl
  | step _ takes ih => exact takes.logger_eq.trans ih

theorem exists_file {file : File} (accessed : g.Accessed log h) (present : g.files[number]? = some file) :
    ∃ contents, h.files[number]? = some { file with contents } := by
  induction accessed with
  | start => exact ⟨_, present⟩
  | step before takes ih =>
    obtain ⟨contents, there⟩ := ih
    obtain ⟨contents', there'⟩ := takes.exists_file there
    exact ⟨contents', there'⟩

theorem length_handles_le (accessed : g.Accessed log h) : g.handles.length ≤ h.handles.length := by
  induction accessed with
  | start => exact Nat.le_refl _
  | step before takes ih => exact Nat.le_trans ih takes.length_handles_le

/-- A description stays what it is, but for its offset: that is moved by what is written through its handle. -/
theorem handle_eq (accessed : g.Accessed log h) (present : g.handles[handle]? = some description) :
    ∃ offset, h.handles[handle]? = some { description with offset } ∧
      (description.append = false → description.backing.number? ≠ none →
        offset = description.offset + (log.flatMap (Access.through handle)).length) := by
  induction accessed with
  | start => exact ⟨_, present, fun _ _ => rfl⟩
  | step before takes ih =>
    obtain ⟨offset, kept, moved⟩ := ih
    obtain ⟨offset', kept', moved'⟩ := takes.handle_eq kept
    refine ⟨offset', kept', fun overwrites known => ?_⟩
    rw [moved' overwrites known, moved overwrites known, List.flatMap_append, List.length_append, Nat.add_assoc,
      List.flatMap_singleton]

theorem file?_eq (accessed : g.Accessed log h) (there : handle < g.handles.length) :
    h.file? handle = g.file? handle := by
  obtain ⟨offset, present, -⟩ := accessed.handle_eq (List.getElem?_eq_getElem there)
  rw [Host.file?_eq (List.getElem?_eq_getElem there), Host.file?_eq present]

/-- A handle was there before, or it has been opened. -/
theorem opens_of_lt (accessed : g.Accessed log h) (there : handle < h.handles.length) :
    handle < g.handles.length ∨ ∃ path mode, .opened path mode handle ∈ log := by
  induction accessed with
  | start => exact .inl there
  | step before takes ih =>
    rcases takes.opens_of_lt there with there | ⟨path, mode, rfl⟩
    · exact (ih there).imp_right fun ⟨path, mode, mem⟩ => ⟨path, mode, List.mem_append_left _ mem⟩
    · exact .inr ⟨path, mode, by simp⟩

/-- All handles that have been used are there. -/
theorem handle_lt (accessed : g.Accessed log h) (mem : a ∈ log) (uses : a.handle? = some handle) :
    handle < h.handles.length := by
  induction accessed with
  | start => cases mem
  | step before takes ih =>
    rcases List.mem_append.1 mem with earlier | now
    · exact Nat.lt_of_lt_of_le (ih earlier) takes.length_handles_le
    · obtain rfl := List.mem_singleton.1 now
      exact takes.handle_lt uses

/-- A file that no handle in use is about stays as it is. -/
theorem contents_eq_of_ne (accessed : g.Accessed log h) (sound : g.Sound)
    (others : ∀ a ∈ log, ∀ handle, a.handle? = some handle → h.file? handle ≠ some number) :
    h.contents number = g.contents number := by
  induction accessed with
  | start => rfl
  | @step log a h h' before takes ih =>
    have kept := before.sound sound
    rw [takes.contents_eq_of_ne kept fun handle => others a (by simp) handle]
    refine ih fun b mem handle uses mine => ?_
    have there := before.handle_lt mem uses
    exact others b (List.mem_append_left _ mem) handle uses (by rw [takes.file?_eq there, mine])

/-- A file becomes no shorter, unless it is opened for overwriting. -/
theorem length_contents_le (accessed : g.Accessed log h) (sound : g.Sound)
    (spared : ∀ path handle, .opened path .overwrite handle ∈ log → h.file? handle ≠ some number) :
    (g.contents number).length ≤ (h.contents number).length := by
  induction accessed with
  | start => exact Nat.le_refl _
  | @step log a h h' before takes ih =>
    have kept := before.sound sound
    refine Nat.le_trans (ih fun path handle mem mine => ?_) (takes.length_contents_le kept ?_)
    · have there := before.handle_lt mem rfl
      exact spared path handle (List.mem_append_left _ mem) (by rw [takes.file?_eq there, mine])
    · rintro path handle rfl
      exact spared path handle (by simp)

/-- A description that appends is at the end of its file whenever it is used. -/
theorem contents_eq_of_append (accessed : g.Accessed log h) (sound : g.Sound)
    (append : ∀ a ∈ log, ∀ handle description, a.handle? = some handle → h.handles[handle]? = some description →
      description.backing.number? = some number → description.append = true) :
    h.contents number = g.contents number ++ log.flatMap (h.into number) := by
  induction accessed with
  | start => rw [List.flatMap_nil, List.append_nil]
  | @step log a h h' before takes ih =>
    have kept := before.sound sound
    have earlier : h.contents number = g.contents number ++ log.flatMap (h.into number) := by
      refine ih fun b mem handle description uses present mine => ?_
      obtain ⟨offset, present', -⟩ := takes.handle_eq present
      exact append b (List.mem_append_left _ mem) handle { description with offset } uses present' mine
    -- What has been written before is looked up in the same file.
    have same : log.flatMap (h'.into number) = log.flatMap (h.into number) := by
      refine List.flatMap_congr fun b mem => ?_
      rcases b with _ | _ | ⟨_ | handle | _, data⟩
      case wrote.file => simp only [into, takes.file?_eq (before.handle_lt mem rfl)]
      all_goals rfl
    rw [List.flatMap_append, same, List.flatMap_singleton, ← List.append_assoc, ← earlier]
    exact takes.contents_eq_of_append kept fun handle => append a (by simp) handle

/-- **A handle that is at the end of a file and alone in use stays there**: the file goes on with all that is written
through the handle. -/
theorem contents_eq_of_sole (accessed : g.Accessed log h) (sound : g.Sound)
    (present : g.handles[handle]? = some description) (mine : description.backing.number? = some number)
    (overwrites : description.append = false) (atEnd : description.offset = (g.contents number).length)
    (sole : ∀ a ∈ log, ∀ other, a.handle? = some other → h.file? other = some number → other = handle) :
    h.contents number = g.contents number ++ log.flatMap (Access.through handle) := by
  induction accessed with
  | start => rw [List.flatMap_nil, List.append_nil]
  | @step log a h h' before takes ih =>
    have kept := before.sound sound
    have earlier := ih fun b mem other uses own =>
      sole b (List.mem_append_left _ mem) other uses (by rw [takes.file?_eq (before.handle_lt mem uses), own])
    rw [List.flatMap_append, List.flatMap_singleton, ← List.append_assoc, ← earlier]
    obtain ⟨offset, present', moved⟩ := before.handle_eq present
    have offset_eq : offset = (h.contents number).length := by
      rw [moved overwrites (by rw [mine]; nofun), atEnd, earlier, List.length_append]
    have there := (List.getElem?_eq_some_iff.1 present').1
    by_cases uses : a.handle? = some handle
    · exact takes.contents_eq_of_atEnd kept present' mine (by simp [Description.start, offset_eq]) uses
    · rw [takes.contents_eq_of_ne kept fun other uses' own => uses (sole a (by simp) other uses' own ▸ uses'),
        Access.through_of_ne uses, List.append_nil]

end Accessed

/-! ### Writes that may fail -/

/-- The access by a write that may fail. -/
def tried (h : Host) (d : Destination) (data : Bytes) : List Access :=
  match h.fault? d data with
  | none => [.wrote d data]
  | some _ => []

/-- The accesses by which a record is kept, and printed where that is asked for. -/
def noted (h : Host) (level : Level) (text : Text) : List Access :=
  .aside :: if level.passes h.logger.limit then
    h.tried h.logger.target (utf8 (Record.line ⟨level, text⟩ h.clock h.logger.coloured)) else []

theorem accessed_tryWrite (holds : h.Holds d) (data : Bytes) : h.Accessed (h.tried d data) (h.tryWrite d data) := by
  unfold tried fault? tryWrite
  cases taken : h.write d data with
  | ok h' => exact .of_takes (.wrote holds taken)
  | error fault => exact .start

theorem accessed_report (holds : h.Holds d) (message : Text) :
    h.Accessed (h.tried d (utf8 (message ++ ['\n']))) (h.report d message) := accessed_tryWrite holds _

theorem accessed_note (sound : h.Sound) (level : Level) (text : Text) :
    h.Accessed (h.noted level text) (h.note level text) := by
  have kept : h.Takes .aside { h with journal := h.journal ++ [⟨level, text⟩] } := .aside _ h.nextProcess
  unfold note noted
  dsimp only
  split
  · have holds : Holds { h with journal := h.journal ++ [⟨level, text⟩] } h.logger.target := sound.logger
    have same : Host.tried { h with journal := h.journal ++ [⟨level, text⟩] } h.logger.target = h.tried h.logger.target := by
      funext data
      unfold tried
      rw [← fault?_scene, ← fault?_scene h]
      rfl
    rw [← same]
    exact (Accessed.of_takes kept).trans (accessed_tryWrite holds _)
  · exact .of_takes kept

/-- A write somewhere else is not one through the handle. -/
theorem through_tried_of_ne (other : d ≠ .file handle) (data : Bytes) :
    (h.tried d data).flatMap (Access.through handle) = [] := by
  unfold tried
  split
  · simp [Access.through, other]
  · rfl

theorem through_noted_of_ne (other : h.logger.target ≠ .file handle) (level : Level) (text : Text) :
    (h.noted level text).flatMap (Access.through handle) = [] := by
  unfold noted
  split
  · exact through_tried_of_ne other _
  · rfl

/-- Through a description of a file whatever is written is taken. -/
theorem tried_of_file (present : h.handles[handle]? = some description) (writable : description.writable = true)
    (backing : description.backing = .file number) (data : Bytes) :
    h.tried (.file handle) data = [.wrote (.file handle) data] := by
  have taken := writeHandle_of_file present writable backing data
  simp [tried, fault?, write, taken]

/-! ### Output alone -/

/-- The host `h` is what `g` has become by output alone. -/
def Outputs (g h : Host) : Prop := ∃ log, g.Accessed log h ∧ ∀ a ∈ log, a.IsOutput

namespace Outputs

theorem refl (h : Host) : h.Outputs h := ⟨[], .start, by simp⟩

theorem trans (first : g.Outputs h) (second : h.Outputs h') : g.Outputs h' := by
  obtain ⟨log, accessed, quiet⟩ := first
  obtain ⟨log', accessed', quiet'⟩ := second
  refine ⟨log ++ log', accessed.trans accessed', fun a mem => ?_⟩
  exact (List.mem_append.1 mem).elim (quiet a) (quiet' a)

theorem sound (outputs : g.Outputs h) (sound : g.Sound) : h.Sound := by
  obtain ⟨log, accessed, -⟩ := outputs
  exact accessed.sound sound

theorem holds (outputs : g.Outputs h) (holds : g.Holds d) : h.Holds d := by
  obtain ⟨log, accessed, -⟩ := outputs
  exact holds.mono accessed.length_handles_le

theorem report (holds : h.Holds d) (message : Text) : h.Outputs (h.report d message) := by
  refine ⟨_, accessed_report holds message, fun a mem => ?_⟩
  unfold tried at mem
  split at mem <;> simp at mem
  subst mem
  trivial

theorem note (sound : h.Sound) (level : Level) (text : Text) : h.Outputs (h.note level text) := by
  refine ⟨_, accessed_note sound level text, fun a mem => ?_⟩
  unfold noted tried at mem
  rcases List.mem_cons.1 mem with rfl | mem
  · trivial
  · split at mem
    · split at mem <;> simp at mem
      subst mem
      trivial
    · cases mem

/-- A process is counted. -/
theorem setNextProcess (outputs : g.Outputs h) (nextProcess : Nat) : g.Outputs { h with nextProcess } :=
  outputs.trans ⟨[.aside], .of_takes (.aside h.journal nextProcess), by simp [Access.IsOutput]⟩

/-- Output makes no file. -/
theorem tree_eq (outputs : g.Outputs h) : h.tree = g.tree := by
  obtain ⟨log, accessed, quiet⟩ := outputs
  induction accessed with
  | start => rfl
  | step before takes ih =>
    refine Eq.trans ?_ (ih fun a mem => quiet a (List.mem_append_left _ mem))
    have quiet := quiet _ (List.mem_append_right _ List.mem_cons_self)
    cases takes with
    | aside => rfl
    | opened => exact quiet.elim
    | wrote holds taken =>
      have same := congrArg Host.tree (scene_of_write taken)
      exact same

end Outputs

end Host

end PipeShell
