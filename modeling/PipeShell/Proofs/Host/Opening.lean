import PipeShell.Proofs.Host.Footprint

/-!
# The footprint of an opened target

On a host that is sound, all files and handles that somebody knows are there.  There the opening of a target changes
nothing but what `Host.footprint` tells: the host is as it was, but for that (`Host.alikeBut_opened`).
-/

namespace PipeShell

namespace Host

variable {h h' : Host} {f : Footprint} {path missing : Text} {mode : OpenMode} {handle : Nat} {d : Destination}

/-- The host has the handle, if the destination is one. -/
def Holds (h : Host) : Destination → Prop
  | .file handle => handle < h.handles.length
  | _ => True

/-- All files and handles that are known on the host are there. -/
structure Sound (h : Host) : Prop where
  tree : ∀ l number, h.tree.get l = some (.file number) → number < h.files.length
  handles : ∀ (handle : Nat) (d : Description) number, h.handles[handle]? = some d → d.backing.number? = some number →
    number < h.files.length
  logger : h.Holds h.logger.target

theorem Holds.mono (holds : h.Holds d) (more : h.handles.length ≤ h'.handles.length) : h'.Holds d := by
  cases d with
  | terminal | nowhere => trivial
  | file handle => exact Nat.lt_of_lt_of_le holds more

theorem length_handles_of_scene (same : h'.scene = h.scene) : h'.handles.length = h.handles.length := by
  have handles : h'.scene.handles = h.scene.handles := congrArg _ same
  simpa [scene] using congrArg List.length handles

theorem isDirectory_of_scene (same : h'.scene = h.scene) (path : Text) : h'.isDirectory path = h.isDirectory path :=
  show h'.scene.isDirectory path = h.scene.isDirectory path by rw [same]

/-- Output does not change what is known. -/
theorem Sound.of_scene (sound : h.Sound) (same : h'.scene = h.scene) : h'.Sound where
  tree l number node := by
    have tree : h'.scene.tree = h.scene.tree := congrArg _ same
    have files : h'.scene.files = h.scene.files := congrArg _ same
    have length : h'.files.length = h.files.length := by simpa [scene] using congrArg List.length files
    rw [length]
    exact sound.tree l number (tree ▸ node)
  handles handle d number present mine := by
    have files : h'.scene.files = h.scene.files := congrArg _ same
    have length : h'.files.length = h.files.length := by simpa [scene] using congrArg List.length files
    have handles : h'.scene.handles = h.scene.handles := congrArg _ same
    have entry : h.handles[handle]?.map (fun d : Description => { d with offset := 0 }) =
        some { d with offset := 0 } := by
      have entry := congrArg (·[handle]?) handles
      simpa [scene, present] using entry.symm
    obtain ⟨d', present', same'⟩ := Option.map_eq_some_iff.1 entry
    have backing : d'.backing = d.backing := (Description.mk.inj same').1
    rw [length]
    exact sound.handles handle d' number present' (backing ▸ mine)
  logger := by
    have logger : h'.scene.logger = h.scene.logger := congrArg _ same
    change h'.logger = h.logger at logger
    rw [logger]
    exact sound.logger.mono (Nat.le_of_eq (length_handles_of_scene same).symm)

/-- What has been made ready and what is opened then is known, and is there. -/
theorem Sound.addHandle {backing : Backing} (sound : h.Sound)
    (known : ∀ number, backing.number? = some number → number < h.files.length) (append : Bool) :
    (h.addHandle { backing, append }).1.Sound where
  tree := sound.tree
  handles handle d number present mine := by
    simp only [Host.addHandle, List.getElem?_append, List.getElem?_singleton] at present
    split at present
    · exact sound.handles handle d number present mine
    · split at present
      · cases present
        exact known number mine
      · cases present
  logger := sound.logger.mono (by simp [Host.addHandle])

theorem Sound.ready {place : Place} {backing : Backing} (sound : h.Sound) (shows : h.tree.Shows place)
    (made : h.ready mode place = .ok (h', backing)) :
    h'.Sound ∧ h'.handles = h.handles ∧ ∀ number, backing.number? = some number → number < h'.files.length := by
  rcases place with ⟨l, _ | number | device | target⟩ | ⟨directory, name⟩
  case found.directory => cases made
  case found.link => cases made
  case found.device =>
    cases made
    exact ⟨sound, rfl, nofun⟩
  case found.file =>
    have known : number < h.files.length := sound.tree l number shows
    cases mode with
    | append =>
      cases made
      exact ⟨sound, rfl, by rintro _ ⟨⟩; exact known⟩
    | overwrite =>
      cases made
      refine ⟨sound.of_scene (scene_setContents _ _ _), rfl, ?_⟩
      rintro _ ⟨⟩
      simpa [setContents] using known
  case vacant =>
    cases made
    refine ⟨⟨fun l number node => ?_, fun handle d number present mine => ?_, sound.logger⟩, rfl, ?_⟩
    · rw [Tree.get_set _ (by simp)] at node
      rw [addFile, List.length_append, List.length_singleton]
      split at node
      · cases node
        omega
      · exact Nat.lt_succ_of_lt (sound.tree l number node)
    · rw [addFile, List.length_append, List.length_singleton]
      exact Nat.lt_succ_of_lt (sound.handles handle d number present mine)
    · rintro _ ⟨⟩
      simp [addFile]

/-- A target that is opened has the next handle. -/
theorem Sound.openForWriting (sound : h.Sound) (opened : h.openForWriting path mode = .ok (h', handle)) :
    h'.Sound ∧ handle = h.handles.length ∧ h'.handles.length = h.handles.length + 1 := by
  rw [openForWriting_eq] at opened
  cases walked : h.walk .create path with
  | error fault => rw [walked] at opened; cases opened
  | ok place =>
    cases made : h.ready mode place with
    | error fault => simp [walked, made, bind, Except.bind, Except.map] at opened
    | ok ready =>
      obtain ⟨h₁, backing⟩ := ready
      obtain ⟨sound₁, handles, known⟩ := sound.ready (Tree.shows_of_walk walked) made
      simp only [walked, made, bind, Except.bind, Except.map, Except.ok.injEq] at opened
      have length : h₁.handles.length = h.handles.length := congrArg List.length handles
      cases opened
      exact ⟨sound₁.addHandle known _, length, by simp [length]⟩

/-! ### The footprint -/

/-- Where a record of the level debug is printed. -/
def printed (h : Host) : Destination := if Level.debug.passes h.logger.limit then h.logger.target else .nowhere

/-- What is put on record when output is discarded, since there is no directory for its path. -/
def discardNotice (path : Text) : Text :=
  "discarding output for ".toList ++ path ++ ": ".toList ++ (parentPath path).getD [] ++ " is not a directory".toList

/-- What is left on the host when the target `path` is opened, and when output for the path `missing` is discarded. -/
def footprint (h : Host) (path missing : Text) : Footprint where
  handle := h.handles.length
  file :=
    match h.walk .create path with
    | .ok (.vacant _ _) => some h.files.length
    | .ok (.found _ (.file number)) => some number
    | _ => none
  isNew :=
    match h.walk .create path with
    | .ok (.vacant _ _) => true
    | _ => false
  logFile :=
    match h.printed with
    | .file handle => h.handles[handle]?.bind (·.backing.number?)
    | _ => none
  logStream :=
    match h.printed with
    | .terminal stream => some stream
    | _ => none
  record := utf8 (Record.line ⟨.debug, discardNotice missing⟩ h.clock h.logger.coloured)

/-- No number has been changed by a gap at the end. -/
theorem number_of_lt {number : Nat} (gap : f.gap = none ∨ f.gap = some h.files.length)
    (known : number < h.files.length) : f.number number = number ∧ f.gap ≠ some number := by
  unfold Footprint.number
  rcases gap with gap | gap <;> rw [gap]
  · exact ⟨rfl, nofun⟩
  · exact ⟨closeUp_of_le (by omega), by simp; omega⟩

theorem destination_of_holds (handle : f.handle = h.handles.length) (holds : h.Holds d) : f.destination d = d := by
  cases d with
  | terminal | nowhere => rfl
  | file k =>
    have other : k ≠ f.handle := by
      rw [handle]
      exact Nat.ne_of_lt holds
    have before : k ≤ f.handle := by
      rw [handle]
      exact Nat.le_of_lt holds
    rw [Footprint.destination, if_neg other, closeUp_of_le before]

/-- A handle that is added to a host is all that is new, but for the file that it is for. -/
theorem alikeBut_addHandle {t : Tree} {files : List File} {description : Description} (sound : h.Sound)
    (handle : f.handle = h.handles.length) (gap : f.gap = none ∨ f.gap = some h.files.length)
    (tree : ∀ l, h.tree.get l = ((f.spare t).get l).map (Node.renumber f.number))
    (alike : Lacks f.gap f.FileAlike files h.files)
    (plain : ∀ (number : Nat) (file : File), f.gap = some number → files[number]? = some file →
      file.permissions &&& 0o111 = 0)
    (stained : ∀ number, description.backing.number? = some number → f.Stains number) :
    AlikeBut f ({ h with tree := t, files }.addHandle description).1 h where
  tree := tree
  files := alike
  plain := plain
  handles := by
    rw [handle]
    refine Lacks.concat (fun i d present => ?_) description
    have known := fun number => sound.handles i d number present
    refine ⟨?_, fun number mine => (number_of_lt gap (known number mine)).2, rfl, rfl, rfl, fun _ => rfl⟩
    cases backing : d.backing with
    | device | directory => rfl
    | file number | rest number =>
      rw [Backing.renumber, (number_of_lt gap (known number (by rw [backing]; rfl))).1]
  target d number present mine := by
    simp only [Host.addHandle, handle, List.getElem?_concat_length, Option.some.injEq] at present
    subst present
    exact stained number mine
  terminalOut := .inl rfl
  terminalErr := .inl rfl
  logger := by
    show h.logger = { h.logger with target := f.destination h.logger.target }
    rw [destination_of_holds handle sound.logger]
  clock := rfl
  nextProcess := rfl
  processes := rfl
  signals := rfl
  here := rfl
  inherited := rfl

/-- Nodes that are known have the same number behind a gap at the end. -/
theorem renumber_of_sound (sound : h.Sound) (gap : f.gap = none ∨ f.gap = some h.files.length) (l : Location) :
    (h.tree.get l).map (Node.renumber f.number) = h.tree.get l := by
  cases node : h.tree.get l with
  | none => rfl
  | some n =>
    cases n with
    | directory | device | link => rfl
    | file number =>
      rw [Option.map_some, Node.renumber, (number_of_lt gap (sound.tree l number node)).1]

/-- A file that is made in a vacant place is missing where it is not. -/
theorem get_without_set {t : Tree} {l : Location} {number : Nat} (below : l ≠ []) (free : t.get l = none)
    (isNew : ∀ l', t.get l' ≠ some (.file number)) (l' : Location) :
    ((t.set l (.file number)).without number).get l' = t.get l' := by
  rw [Tree.get_without, Tree.get_set _ below]
  split
  · rename_i own
    rw [own, free]
    simp [Option.filter]
  · cases node : t.get l' with
    | none => rfl
    | some n =>
      have other : n ≠ .file number := fun same => isNew l' (same ▸ node)
      exact Option.filter_some_pos (by simpa using other)

/-- **The opening of a target leaves its footprint**, and nothing else. -/
theorem alikeBut_opened (sound : h.Sound) (opened : h.openForWriting path mode = .ok (h', handle)) (missing : Text) :
    handle = (h.footprint path missing).handle ∧ AlikeBut (h.footprint path missing) h' h := by
  refine ⟨(sound.openForWriting opened).2.1, ?_⟩
  rw [openForWriting_eq] at opened
  rcases walked : h.walk .create path with fault | place
  · rw [walked] at opened
    cases opened
  have shows := Tree.shows_of_walk walked
  simp only [walked, bind, Except.bind] at opened
  have unmoved := fun gap l => (renumber_of_sound (f := h.footprint path missing) sound (.inl gap) l).symm
  rcases place with ⟨l, _ | number | device | target⟩ | ⟨directory, name⟩
  case found.directory => cases opened
  case found.link => cases opened
  case found.device =>
    cases opened
    have gap : (h.footprint path missing).gap = none := by simp [Footprint.gap, footprint, walked]
    refine alikeBut_addHandle sound rfl (.inl gap) ?_ ?_ ?_ nofun
    · simpa only [Footprint.spare, gap] using unmoved gap
    · rw [gap]
      exact .refl fun _ _ _ => ⟨rfl, fun _ => rfl⟩
    · simp [gap]
  case found.file =>
    have gap : (h.footprint path missing).gap = none := by simp [Footprint.gap, footprint, walked]
    have stained : (h.footprint path missing).Stains number := .inl (by simp [footprint, walked])
    have kept : Lacks (h.footprint path missing).gap (h.footprint path missing).FileAlike h.files h.files := by
      rw [gap]
      exact .refl fun _ _ _ => ⟨rfl, fun _ => rfl⟩
    have opens : ∀ (files : List File) (append : Bool),
        Lacks (h.footprint path missing).gap (h.footprint path missing).FileAlike files h.files →
          AlikeBut (h.footprint path missing) ({ h with files }.addHandle { backing := .file number, append }).1 h := by
      intro files append kept
      refine alikeBut_addHandle sound rfl (.inl gap) ?_ kept (by simp [gap]) ?_
      · simpa only [Footprint.spare, gap] using unmoved gap
      · rintro _ ⟨⟩
        exact stained
    cases mode with
    | append =>
      cases opened
      exact opens _ _ kept
    | overwrite =>
      cases opened
      exact opens _ _ (kept.modify_left fun _ _ _ same => ⟨same.permissions, fun clean => absurd stained clean⟩)
  case vacant =>
    cases opened
    have gap : (h.footprint path missing).gap = some h.files.length := by simp [Footprint.gap, footprint, walked]
    refine alikeBut_addHandle sound rfl (.inr gap) (fun l => ?_) ?_ ?_ ?_
    · have made := get_without_set (l := directory ++ [name]) (by simp) shows
        (fun l node => Nat.lt_irrefl _ (sound.tree l _ node)) l
      simp only [Footprint.spare, gap]
      rw [made, renumber_of_sound sound (.inr gap)]
    · rw [gap]
      exact Lacks.concat (fun _ _ _ => ⟨rfl, fun _ => rfl⟩) _
    · intro number file own present
      obtain rfl : h.files.length = number := by simpa [gap] using own
      obtain rfl : _ = file := by simpa [addFile] using present
      rfl
    · rintro _ ⟨⟩
      exact .inl (by simp [footprint, walked])

/-- Opening a target shows nothing on the terminal. -/
theorem terminal_of_openForWriting (opened : h.openForWriting path mode = .ok (h', handle)) :
    h'.terminalOut = h.terminalOut ∧ h'.terminalErr = h.terminalErr := by
  rw [openForWriting_eq] at opened
  rcases walked : h.walk .create path with fault | ⟨l, _ | number | device | target⟩ | ⟨directory, name⟩ <;>
    rw [walked] at opened
  case ok.found.file => cases mode <;> cases opened <;> exact ⟨rfl, rfl⟩
  all_goals cases opened
  all_goals exact ⟨rfl, rfl⟩

/-! ### Hosts that grow -/

/-- The host `h'` is one that `h` has become by output and by opening targets: it is sound, the handles of `h` are still
there, and the directories are the same. -/
structure Grows (h h' : Host) : Prop where
  sound : h'.Sound
  handles : h.handles.length ≤ h'.handles.length
  directories : ∀ path, h'.isDirectory path = h.isDirectory path

namespace Grows

variable {g : Host}

theorem refl (sound : h.Sound) : Grows h h := ⟨sound, Nat.le_refl _, fun _ => rfl⟩

theorem trans (first : Grows g h) (second : Grows h h') : Grows g h' :=
  ⟨second.sound, Nat.le_trans first.handles second.handles, fun path =>
    (second.directories path).trans (first.directories path)⟩

theorem holds (grows : Grows h h') (holds : h.Holds d) : h'.Holds d := holds.mono grows.handles

theorem of_scene (sound : h.Sound) (same : h'.scene = h.scene) : Grows h h' :=
  ⟨sound.of_scene same, Nat.le_of_eq (length_handles_of_scene same).symm, isDirectory_of_scene same⟩

theorem note (sound : h.Sound) (level : Level) (text : Text) : Grows h (h.note level text) :=
  .of_scene sound (scene_note _ _ _)

theorem report (sound : h.Sound) (d : Destination) (message : Text) : Grows h (h.report d message) :=
  .of_scene sound (scene_tryWrite _ _ _)

theorem setNextProcess (grows : Grows h h') (next : Nat) : Grows h { h' with nextProcess := next } :=
  ⟨⟨grows.sound.tree, grows.sound.handles, grows.sound.logger⟩, grows.handles, grows.directories⟩

/-- A target that is opened is a new handle, and no directory. -/
theorem openForWriting (sound : h.Sound) (opened : h.openForWriting path mode = .ok (h', handle)) :
    Grows h h' ∧ h'.Holds (.file handle) := by
  obtain ⟨sound', rfl, length⟩ := sound.openForWriting opened
  have alike := (alikeBut_opened sound opened []).2
  refine ⟨⟨sound', Nat.le_trans (Nat.le_succ _) (Nat.le_of_eq length.symm), fun path => ?_⟩, ?_⟩
  · exact (alike.isDirectory_eq path).symm
  · exact Nat.lt_of_lt_of_eq (Nat.lt_succ_self _) length.symm

theorem openTarget (sound : h.Sound) (cwd : Text) (t : Target) :
    Grows h (h.openTarget cwd t).1 ∧ ∀ d, (h.openTarget cwd t).2 = .ok d → (h.openTarget cwd t).1.Holds d := by
  unfold Host.openTarget
  dsimp only
  split
  · refine ⟨.note sound _ _, ?_⟩
    rintro d ⟨⟩
    trivial
  · split
    · rename_i h' handle opened
      obtain ⟨grows, holds⟩ := openForWriting sound opened
      refine ⟨grows, ?_⟩
      rintro d ⟨⟩
      exact holds
    · exact ⟨.refl sound, nofun⟩

end Grows

/-- The directory that would hold the file of a path is missing. -/
def MissesParent (h : Host) (path : Text) : Prop :=
  ∃ parent, parentPath path = some parent ∧ h.isDirectory parent = false

theorem Grows.missesParent (grows : Grows h h') (misses : h.MissesParent path) : h'.MissesParent path := by
  obtain ⟨parent, parent_eq, missing⟩ := misses
  exact ⟨parent, parent_eq, (grows.directories parent).trans missing⟩

/-- Output for such a path is discarded, which is put on record. -/
theorem openTarget_of_missesParent {cwd : Text} (misses : h.MissesParent (joinPath cwd path)) (mode : OpenMode) :
    h.openTarget cwd ⟨path, mode⟩ = (h.note .debug (discardNotice (joinPath cwd path)), .ok .nowhere) := by
  obtain ⟨parent, parent_eq, missing⟩ := misses
  have found : (parentPath (joinPath cwd path)).filter (¬ h.isDirectory ·) = some parent := by
    rw [parent_eq]
    exact Option.filter_some_pos (by simp [missing])
  have notice : discardNotice (joinPath cwd path) =
      "discarding output for ".toList ++ joinPath cwd path ++ ": ".toList ++ parent ++
        " is not a directory".toList := by
    unfold discardNotice
    rw [parent_eq, Option.getD_some]
  simp only [Host.openTarget, found, notice]

/-! ### The record of discarding -/

theorem AlikeBut.stain_right {g : Host} {number : Nat} (alike : AlikeBut f g h) (present : f.gap ≠ some number)
    (stained : f.Stains number) (contents : Bytes) : AlikeBut f g (h.setContents (f.number number) contents) :=
  { alike with
    files := alike.files.modify_right present fun _ _ _ file => ⟨file.permissions, fun clean => absurd stained clean⟩ }

theorem AlikeBut.setOffset_right {g : Host} {k number : Nat} {description : Description} (alike : AlikeBut f g h)
    (other : k ≠ f.handle) (present : h.handles[closeUp (some f.handle) k]? = some description)
    (backing : description.backing = .file (f.number number)) (known : f.gap ≠ some number)
    (stained : f.Stains number) (offset : Nat) :
    AlikeBut f g { h with handles := h.handles.set (closeUp (some f.handle) k) { description with offset } } := by
  have moved := set_eq_modify present fun d => { d with offset }
  rw [moved]
  refine { alike with handles := alike.handles.modify_right (by simpa using Ne.symm other) fun d d' hd same => ?_ }
  rw [present] at hd
  cases hd
  refine ⟨same.backing, same.present, same.append, same.readable, same.writable, fun clean => ?_⟩
  -- The other description is of the same file.
  have file : d.backing = .file number := by
    have renumbered := same.backing.symm.trans backing
    cases mine : d.backing with
    | file i =>
      rw [mine] at renumbered
      have numbers : f.number i = f.number number := by simpa [Backing.renumber] using renumbered
      rw [(closeUp_inj (same.present i (by rw [mine]; rfl)) known).1 numbers]
    | rest | device | directory => simp [mine, Backing.renumber] at renumbered
  exact absurd stained (clean number (by rw [file]; rfl))

/-- What is written to a stained file on one of the hosts does not count. -/
theorem AlikeBut.writeHandle_right {g : Host} {k : Nat} {data : Bytes} (alike : AlikeBut f g h) (other : k ≠ f.handle)
    (same : closeUp (some f.handle) k = k)
    (known : ∀ (description : Description) number, h.handles[k]? = some description →
      description.backing.number? = some number →
        f.number number = number ∧ f.gap ≠ some number ∧ f.Stains number)
    (written : h.writeHandle k data = .ok h') : AlikeBut f g h' := by
  unfold Host.writeHandle at written
  split at written
  · cases written
    exact alike
  · rename_i description present
    split at written
    · cases written
    · split at written
      · cases written
      · cases written
      · cases written
        exact alike
      · split at written <;> cases written
        exact alike
      · rename_i number backing
        obtain ⟨unmoved, there, stained⟩ := known description number present (by rw [backing]; rfl)
        have contents := alike.stain_right there stained
          (splice (h.files.getD number {}).contents (description.start (h.files.getD number {}).contents) data)
        rw [unmoved] at contents
        have offset := contents.setOffset_right (k := k) other (by rw [same]; exact present)
          (by rw [unmoved, backing]) there stained
          (description.start (h.files.getD number {}).contents + data.length)
        rw [same] at offset
        cases written
        exact offset

/-- Where records of the level debug are printed, there is one more. -/
theorem AlikeBut.note_right {g : Host} (sound : h.Sound) (alike : AlikeBut (h.footprint path missing) g h)
    (out : g.terminalOut = h.terminalOut) (err : g.terminalErr = h.terminalErr) :
    AlikeBut (h.footprint path missing) g (h.note .debug (discardNotice missing)) := by
  have gap : (h.footprint path missing).gap = none ∨ (h.footprint path missing).gap = some h.files.length := by
    unfold Footprint.gap footprint
    rcases h.walk .create path with fault | ⟨l, _ | number | device | target⟩ | ⟨directory, name⟩ <;> simp
  have noted : AlikeBut (h.footprint path missing) g
      { h with journal := h.journal ++ [⟨.debug, discardNotice missing⟩] } := { alike with }
  unfold Host.note
  dsimp only
  split
  · rename_i passes
    have printed : h.printed = h.logger.target := if_pos passes
    have held := sound.logger
    unfold Host.tryWrite
    split
    · rename_i h' written
      rcases target : h.logger.target with stream | k | _ <;> rw [target] at held written
      · have noisy : (h.footprint path missing).logStream = some stream := by simp [footprint, printed, target]
        cases stream with
        | out =>
          cases written
          exact { noted with terminalOut := .inr ⟨noisy, _, [], by simpa using out, by simp [footprint]⟩ }
        | err =>
          cases written
          exact { noted with terminalErr := .inr ⟨noisy, _, [], by simpa using err, by simp [footprint]⟩ }
      · have before : k < (h.footprint path missing).handle := held
        refine noted.writeHandle_right (Nat.ne_of_lt before) (closeUp_of_le (Nat.le_of_lt before)) ?_ written
        intro description number present mine
        have known := number_of_lt gap (sound.handles k description number present mine)
        have present : h.handles[k]? = some description := present
        exact ⟨known.1, known.2, .inr (by simp [footprint, printed, target, present, mine])⟩
      · cases written
        exact noted
    · exact noted
  · exact noted

end Host

end PipeShell
