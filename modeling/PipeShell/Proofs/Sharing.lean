import PipeShell.Proofs.Host.Attempt
import PipeShell.Proofs.Run.Transparency

/-!
# Sinks that are shared

A sink is opened once and then handed round: to a clone of it, to the writers of builtins, to the children that get it
as a stream.  All of them go to one description, and each of them can write and be closed at any time.  `SinkTable` keeps
the sinks in the hands of all these, and `SinkTable.performAll` takes steps of any kind in any order.

The main statement is `SinkTable.shared_of_sound`.  Sinks that come from one opening go to one description, and those
of different openings never do.  So all writes to a file that is opened once follow each other, writes through sinks
that append go to the end whoever makes them, and other sinks write where they have left off themselves.
-/

namespace PipeShell

/-- A sink in somebody's hands. -/
structure Sink where
  /-- The number of the sink that has been opened, of which this is a duplicate. -/
  source : Nat
  goes : Destination
  deriving DecidableEq

/-- The sinks that have been handed out so far, by number; those that are closed are none. -/
structure SinkTable where
  host : Host
  sinks : List (Option Sink) := []

/-- What somebody does with the sinks. -/
inductive SinkStep
  /-- Takes a sink for a stream of the terminal. -/
  | attach (stream : StdStream)
  /-- Opens the target of a redirection. -/
  | opens (cwd : Text) (target : Target)
  /-- Duplicates a sink, for a clone, for a builtin that writes, or for a child process. -/
  | shares (sink : Nat)
  /-- Writes to a sink, from inside the shell or from a child process. -/
  | writes (sink : Nat) (data : Bytes)
  /-- Writes a diagnostic line. -/
  | reports (sink : Nat) (message : Text)
  | closes (sink : Nat)
  deriving DecidableEq

namespace SinkTable

/-- The sink of a number, unless it is closed. -/
def sink? (t : SinkTable) (i : Nat) : Option Sink := t.sinks[i]?.join

/-- Hands out one more sink, if there is one. -/
def add (t : SinkTable) (host : Host) (sink : Option Sink) : SinkTable := ⟨host, t.sinks ++ [sink]⟩

/-- What comes of a step.  A sink that cannot be opened is as good as closed, and nothing is written to a closed one. -/
def perform (t : SinkTable) : SinkStep → SinkTable
  | .attach stream => t.add t.host (some ⟨t.sinks.length, .terminal stream⟩)
  | .opens cwd target =>
    let (host, opened) := t.host.openTarget cwd target
    t.add host (opened.toOption.map fun d => ⟨t.sinks.length, d⟩)
  | .shares i => t.add t.host (t.sink? i)
  | .writes i data =>
    match t.sink? i with
    | some s => { t with host := t.host.tryWrite s.goes data }
    | none => t
  | .reports i message =>
    match t.sink? i with
    | some s => { t with host := t.host.report s.goes message }
    | none => t
  | .closes i => { t with sinks := t.sinks.set i none }

/-- The accesses of a step to the host. -/
def accesses (t : SinkTable) : SinkStep → List Access
  | .opens cwd target => t.host.attempts cwd target
  | .writes i data =>
    match t.sink? i with
    | some s => t.host.tried s.goes data
    | none => []
  | .reports i message =>
    match t.sink? i with
    | some s => t.host.tried s.goes (utf8 (message ++ ['\n']))
    | none => []
  | .attach _ | .shares _ | .closes _ => []

/-- What comes of many steps. -/
def performAll (t : SinkTable) (steps : List SinkStep) : SinkTable := steps.foldl perform t

/-- The accesses of many steps, in their order. -/
def story (t : SinkTable) : List SinkStep → List Access
  | [] => []
  | step :: steps => t.accesses step ++ (t.perform step).story steps

/-- What a step gives to sinks that go to a handle. -/
def bytes (t : SinkTable) (handle : Nat) : SinkStep → Bytes
  | .writes i data => if (t.sink? i).map (·.goes) = some (.file handle) then data else []
  | .reports i message => if (t.sink? i).map (·.goes) = some (.file handle) then utf8 (message ++ ['\n']) else []
  | .attach _ | .opens _ _ | .shares _ | .closes _ => []

/-- What many steps give to sinks that go to a handle, in their order. -/
def bytesAll (t : SinkTable) (handle : Nat) : List SinkStep → Bytes
  | [] => []
  | step :: steps => t.bytes handle step ++ (t.perform step).bytesAll handle steps

/-- Somebody has this sink in hands. -/
def Has (t : SinkTable) (s : Sink) : Prop := ∃ i, t.sink? i = some s

end SinkTable

/-- What has been opened can be written to, be it a file or not. -/
def Host.Writable (h : Host) (handle : Nat) : Prop :=
  ∃ d, h.handles[handle]? = some d ∧ d.writable = true ∧
    ∀ number, d.backing.number? = some number → d.backing = .file number

namespace SinkTable

/-- What is true of the sinks at any time. -/
structure Orderly (t : SinkTable) : Prop where
  sound : t.host.Sound
  sources : ∀ s, t.Has s → s.source < t.sinks.length
  /-- Sinks that come from one opening go to the same place. -/
  same : ∀ s s', t.Has s → t.Has s' → s.source = s'.source → s.goes = s'.goes
  /-- No two openings share a description. -/
  own : ∀ s s' handle, t.Has s → t.Has s' → s.goes = .file handle → s'.goes = .file handle → s.source = s'.source
  writable : ∀ s handle, t.Has s → s.goes = .file handle → t.host.Writable handle
  /-- No records are printed through a description that belongs to sinks. -/
  spared : ∀ s handle, t.Has s → s.goes = .file handle → t.host.logger.target ≠ .file handle

variable {t : SinkTable} {s : Sink} {i handle number : Nat} {host : Host} {log : List Access} {cwd : Text}
  {target : Target} {steps before after : List SinkStep}

theorem sink?_add (t : SinkTable) (host : Host) (sink : Option Sink) (i : Nat) :
    (t.add host sink).sink? i = if i = t.sinks.length then sink else t.sink? i := by
  simp only [sink?, add, List.getElem?_append, List.getElem?_singleton]
  split
  · rw [if_neg (by omega)]
  · split
    · rw [if_pos (by omega)]
      rfl
    · rw [if_neg (by omega), List.getElem?_eq_none (by omega)]

theorem has_of_add {sink : Option Sink} (has : (t.add host sink).Has s) : t.Has s ∨ sink = some s := by
  obtain ⟨i, present⟩ := has
  rw [sink?_add] at present
  split at present
  · exact .inr present
  · exact .inl ⟨i, present⟩

theorem has_of_closes (has : (t.perform (.closes i)).Has s) : t.Has s := by
  obtain ⟨j, present⟩ := has
  refine ⟨j, ?_⟩
  simp only [sink?, perform, List.getElem?_set] at present
  split at present
  · split at present <;> cases present
  · exact present

/-! ### A diagnostic line is written as any other bytes are -/

theorem perform_reports (t : SinkTable) (i : Nat) (message : Text) :
    t.perform (.reports i message) = t.perform (.writes i (utf8 (message ++ ['\n']))) := rfl

theorem accesses_reports (t : SinkTable) (i : Nat) (message : Text) :
    t.accesses (.reports i message) = t.accesses (.writes i (utf8 (message ++ ['\n']))) := rfl

theorem bytes_reports (t : SinkTable) (handle i : Nat) (message : Text) :
    t.bytes handle (.reports i message) = t.bytes handle (.writes i (utf8 (message ++ ['\n']))) := rfl

/-! ### What is kept -/

namespace Orderly

variable (orderly : t.Orderly)
include orderly

/-- A sink that is in somebody's hands has its handle on the host. -/
theorem holds (has : t.Has s) : t.host.Holds s.goes := by
  cases goes : s.goes with
  | terminal | nowhere => trivial
  | file handle =>
    obtain ⟨d, present, -⟩ := orderly.writable s handle has goes
    exact (List.getElem?_eq_some_iff.1 present).1

/-- The host may go on, access by access. -/
theorem of_accessed (accessed : t.host.Accessed log host) : Orderly { t with host } :=
  { orderly with
    sound := accessed.sound orderly.sound
    writable := fun s handle has goes => by
      obtain ⟨d, present, writable, backing⟩ := orderly.writable s handle has goes
      obtain ⟨offset, present', -⟩ := accessed.handle_eq present
      exact ⟨{ d with offset }, present', writable, backing⟩
    spared := fun s handle has goes => by
      show host.logger.target ≠ _
      rw [accessed.logger_eq]
      exact orderly.spared s handle has goes }

/-- A sink that is handed out is a duplicate, or it has an opening and a place of its own. -/
theorem add {sink : Option Sink}
    (known : ∀ s, sink = some s → t.Has s ∨ s.source = t.sinks.length ∧ ∀ handle, s.goes = .file handle →
      t.host.Writable handle ∧ t.host.logger.target ≠ .file handle ∧ ∀ s', t.Has s' → s'.goes ≠ .file handle) :
    (t.add t.host sink).Orderly := by
  have fewer : ∀ s, t.Has s → s.source ≠ t.sinks.length := fun s has => Nat.ne_of_lt (orderly.sources s has)
  have cases_ : ∀ s, (t.add t.host sink).Has s → t.Has s ∨ sink = some s ∧ s.source = t.sinks.length ∧
      ∀ handle, s.goes = .file handle →
        t.host.Writable handle ∧ t.host.logger.target ≠ .file handle ∧ ∀ s', t.Has s' → s'.goes ≠ .file handle := by
    intro s has
    rcases has_of_add has with has | new
    · exact .inl has
    · exact (known s new).imp_right fun fresh => ⟨new, fresh⟩
  refine ⟨orderly.sound, fun s has => ?_, fun s s' has has' source => ?_, fun s s' handle has has' goes goes' => ?_,
    fun s handle has goes => ?_, fun s handle has goes => ?_⟩
  · have longer : (t.add t.host sink).sinks.length = t.sinks.length + 1 := by simp [SinkTable.add]
    rcases cases_ s has with has | ⟨-, fresh, -⟩
    · exact Nat.lt_of_lt_of_eq (Nat.lt_succ_of_lt (orderly.sources s has)) longer.symm
    · omega
  · rcases cases_ s has with has | ⟨new, fresh, -⟩ <;> rcases cases_ s' has' with has' | ⟨new', fresh', -⟩
    · exact orderly.same s s' has has' source
    · exact absurd (source.trans fresh') (fewer s has)
    · exact absurd (source.symm.trans fresh) (fewer s' has')
    · rw [new] at new'
      cases new'
      rfl
  · rcases cases_ s has with has | ⟨new, fresh, apart⟩ <;> rcases cases_ s' has' with has' | ⟨new', fresh', apart'⟩
    · exact orderly.own s s' handle has has' goes goes'
    · exact absurd goes ((apart' handle goes').2.2 s has)
    · exact absurd goes' ((apart handle goes).2.2 s' has')
    · exact fresh.trans fresh'.symm
  · rcases cases_ s has with has | ⟨-, -, apart⟩
    · exact orderly.writable s handle has goes
    · exact (apart handle goes).1
  · rcases cases_ s has with has | ⟨-, -, apart⟩
    · exact orderly.spared s handle has goes
    · exact (apart handle goes).2.1

theorem accessed_writes (i : Nat) (data : Bytes) :
    t.host.Accessed (t.accesses (.writes i data)) (t.perform (.writes i data)).host := by
  simp only [accesses, perform]
  cases present : t.sink? i with
  | none => exact .start
  | some s => exact Host.accessed_tryWrite (orderly.holds ⟨i, present⟩) data

theorem accessed_perform (step : SinkStep) : t.host.Accessed (t.accesses step) (t.perform step).host := by
  cases step with
  | attach | shares | closes => exact .start
  | opens cwd target => exact Host.accessed_openTarget orderly.sound cwd target
  | writes i data => exact orderly.accessed_writes i data
  | reports i message =>
    rw [accesses_reports, perform_reports]
    exact orderly.accessed_writes i _

/-- A target that is opened has a description of its own. -/
theorem opens (cwd : Text) (target : Target) : (t.perform (.opens cwd target)).Orderly := by
  have orderly' : Orderly { t with host := (t.host.openTarget cwd target).1 } :=
    orderly.of_accessed (orderly.accessed_perform (.opens cwd target))
  have attempted := t.host.attempted_openTarget cwd target
  show (SinkTable.add { t with host := (t.host.openTarget cwd target).1 } (t.host.openTarget cwd target).1
    ((t.host.openTarget cwd target).2.toOption.map fun d => ⟨t.sinks.length, d⟩)).Orderly
  generalize (t.host.openTarget cwd target).1 = host at attempted orderly' ⊢
  generalize (t.host.openTarget cwd target).2 = result at attempted ⊢
  refine orderly'.add ?_
  cases attempted with
  | discarded =>
    rintro _ ⟨⟩
    exact .inr ⟨rfl, nofun⟩
  | refused => nofun
  | opened _ _ opened =>
    rintro _ ⟨⟩
    refine .inr ⟨rfl, ?_⟩
    rintro _ ⟨⟩
    obtain ⟨new, present, isNew⟩ := opened.exists_new
    exact ⟨⟨new, present, isNew.writable, isNew.backing⟩, opened.spared orderly.sound,
      fun s has => opened.ne_of_holds (orderly.holds has)⟩

theorem writes (i : Nat) (data : Bytes) : (t.perform (.writes i data)).Orderly := by
  have accessed := orderly.accessed_writes i data
  simp only [SinkTable.perform] at accessed ⊢
  cases present : t.sink? i with
  | none => exact orderly
  | some s =>
    rw [present] at accessed
    exact orderly.of_accessed accessed

theorem closes (i : Nat) : (t.perform (.closes i)).Orderly :=
  { sound := orderly.sound
    sources := fun s has => Nat.lt_of_lt_of_eq (orderly.sources s (has_of_closes has)) (List.length_set ..).symm
    same := fun s s' has has' => orderly.same s s' (has_of_closes has) (has_of_closes has')
    own := fun s s' handle has has' => orderly.own s s' handle (has_of_closes has) (has_of_closes has')
    writable := fun s handle has => orderly.writable s handle (has_of_closes has)
    spared := fun s handle has => orderly.spared s handle (has_of_closes has) }

theorem perform (step : SinkStep) : (t.perform step).Orderly := by
  cases step with
  | attach stream =>
    refine orderly.add ?_
    rintro _ ⟨⟩
    exact .inr ⟨rfl, nofun⟩
  | opens cwd target => exact orderly.opens cwd target
  | shares i => exact orderly.add fun s duplicate => .inl ⟨i, duplicate⟩
  | writes i data => exact orderly.writes i data
  | reports i message =>
    rw [perform_reports]
    exact orderly.writes i _
  | closes i => exact orderly.closes i

theorem performAll (steps : List SinkStep) : (t.performAll steps).Orderly := by
  induction steps generalizing t with
  | nil => exact orderly
  | cons step steps ih => exact ih (orderly.perform step)

/-- All that happens to the host are the accesses of the steps. -/
theorem accessed_performAll (steps : List SinkStep) :
    t.host.Accessed (t.story steps) (t.performAll steps).host := by
  induction steps generalizing t with
  | nil => exact .start
  | cons step steps ih => exact (orderly.accessed_perform step).trans (ih (orderly.perform step))

/-- A write to a sink that goes to no device is taken. -/
theorem tried_eq (has : t.Has s) (plain : ∀ handle, s.goes = .file handle → t.host.file? handle ≠ none)
    (data : Bytes) : t.host.tried s.goes data = [.wrote s.goes data] := by
  cases goes : s.goes with
  | terminal stream => cases stream <;> rfl
  | nowhere => rfl
  | file handle =>
    obtain ⟨d, present, writable, backing⟩ := orderly.writable s handle has goes
    obtain ⟨number, known⟩ := Option.ne_none_iff_exists'.1 (plain handle goes)
    rw [Host.file?_eq present] at known
    exact Host.tried_of_file present writable (backing number known) data

theorem through_writes (known : t.host.file? handle ≠ none) (i : Nat) (data : Bytes) :
    (t.accesses (.writes i data)).flatMap (Access.through handle) = t.bytes handle (.writes i data) := by
  simp only [accesses, bytes]
  cases present : t.sink? i with
  | none => rfl
  | some s =>
    by_cases goes : s.goes = .file handle
    · -- All sinks that go there can be written to.
      have tried : t.host.tried (.file handle) data = [.wrote (.file handle) data] := by
        rw [← goes]
        exact orderly.tried_eq ⟨i, present⟩ (by rw [goes]; rintro _ ⟨⟩; exact known) data
      simp [goes, tried, Access.through]
    · simpa [goes] using Host.through_tried_of_ne goes data

/-- What is written through a description of a file is what the steps give to its sinks. -/
theorem through_accesses (known : t.host.file? handle ≠ none) (spared : t.host.logger.target ≠ .file handle)
    (step : SinkStep) : (t.accesses step).flatMap (Access.through handle) = t.bytes handle step := by
  cases step with
  | attach | shares | closes => rfl
  | opens cwd target => exact Host.through_attempts spared cwd target
  | writes i data => exact orderly.through_writes known i data
  | reports i message =>
    rw [accesses_reports, bytes_reports]
    exact orderly.through_writes known i _

theorem through_story (known : t.host.file? handle ≠ none) (spared : t.host.logger.target ≠ .file handle)
    (steps : List SinkStep) : (t.story steps).flatMap (Access.through handle) = t.bytesAll handle steps := by
  induction steps generalizing t with
  | nil => rfl
  | cons step steps ih =>
    have accessed := orderly.accessed_perform step
    have there : handle < t.host.handles.length := by
      by_contra beyond
      exact known (by simp [Host.file?, List.getElem?_eq_none (Nat.le_of_not_lt beyond)])
    have later := ih (orderly.perform step) (by rwa [accessed.file?_eq there]) (by rwa [accessed.logger_eq])
    rw [story, List.flatMap_append, orderly.through_accesses known spared, later, bytesAll]

/-- What is known of a target that has just been opened. -/
theorem exists_new (opened : (t.host.openTarget cwd target).2 = .ok (.file handle)) :
    ∃ new, (t.perform (.opens cwd target)).host.handles[handle]? = some new ∧ new.IsNew target.mode ∧
      (target.mode = .overwrite → ∀ number, new.backing.number? = some number →
        (t.perform (.opens cwd target)).host.contents number = []) ∧
      (t.perform (.opens cwd target)).host.logger.target ≠ .file handle := by
  have attempted := t.host.attempted_openTarget cwd target
  rw [opened] at attempted
  show ∃ new, (t.host.openTarget cwd target).1.handles[handle]? = some new ∧ new.IsNew target.mode ∧
    (target.mode = .overwrite → ∀ number, new.backing.number? = some number →
      (t.host.openTarget cwd target).1.contents number = []) ∧
    (t.host.openTarget cwd target).1.logger.target ≠ .file handle
  generalize (t.host.openTarget cwd target).1 = host at attempted ⊢
  obtain ⟨⟩ := attempted
  rename_i parent parent_eq present opened
  obtain ⟨new, there, isNew⟩ := opened.exists_new
  refine ⟨new, there, isNew, fun overwrites number mine => ?_, opened.spared orderly.sound⟩
  have mine' : host.file? handle = some number := by rw [Host.file?_eq there, mine]
  rw [opened.contents_eq orderly.sound, if_pos ⟨mine', overwrites⟩]

end Orderly

theorem performAll_append (t : SinkTable) (before after : List SinkStep) :
    t.performAll (before ++ after) = (t.performAll before).performAll after := List.foldl_append ..

/-- A sink stays what it is until it is closed. -/
theorem sink?_performAll (present : t.sink? i = some s) (kept : .closes i ∉ steps) :
    (t.performAll steps).sink? i = some s := by
  induction steps generalizing t with
  | nil => exact present
  | cons step steps ih =>
    refine ih ?_ fun mem => kept (List.mem_cons_of_mem _ mem)
    have there : i ≠ t.sinks.length := by
      rintro rfl
      simp [sink?] at present
    have other : step ≠ .closes i := fun same => kept (same ▸ List.mem_cons_self)
    cases step with
    | attach | shares | opens => exact (sink?_add ..).trans ((if_neg there).trans present)
    | writes j data =>
      simp only [perform]
      cases t.sink? j <;> exact present
    | reports j message =>
      simp only [perform]
      cases t.sink? j <;> exact present
    | closes j =>
      have different : j ≠ i := fun same => other (by rw [same])
      simpa only [sink?, perform, List.getElem?_set_ne different] using present

/-- A target that was opened after the steps `before` is the handle `handle`, and it is about the file `number`. -/
structure OpenedAfter (h : Host) (before : List SinkStep) (cwd : Text) (target : Target) (handle number : Nat) : Prop where
  opened : ((performAll ⟨h, []⟩ before).host.openTarget cwd target).2 = .ok (.file handle)
  file : (performAll ⟨h, []⟩ (before ++ [.opens cwd target])).host.file? handle = some number

/-- What is true of sinks after some steps that begin on the host `h`, where the sinks have become `t`, and `log` are
the accesses to the host. -/
structure Shared (h : Host) (steps : List SinkStep) (t : SinkTable) (log : List Access) : Prop where
  /-- Nothing else happens to the host. -/
  accessed : h.Accessed log t.host
  /-- Sinks that come from one opening go to one description, and it belongs to them alone. -/
  shared : ∀ s s', t.Has s → t.Has s' → (s.source = s'.source → s.goes = s'.goes) ∧
    ∀ handle, s.goes = .file handle → s'.goes = .file handle → s.source = s'.source
  /-- A sink stays what it is until it is closed itself, whatever else is closed. -/
  stays : ∀ before after i s, steps = before ++ after → (performAll ⟨h, []⟩ before).sink? i = some s →
    .closes i ∉ after → t.sink? i = some s
  /-- Whatever is written to a sink that goes to no device is taken, and in full. -/
  taken : ∀ i s, t.sink? i = some s → (∀ handle, s.goes = .file handle → t.host.file? handle ≠ none) →
    (∀ data, t.accesses (.writes i data) = [.wrote s.goes data]) ∧
      ∀ message, t.accesses (.reports i message) = [.wrote s.goes (utf8 (message ++ ['\n']))]
  /-- The description of a sink is what it was opened as, and it is about the same file, to the end. -/
  described : ∀ before cwd target after handle number, steps = before ++ .opens cwd target :: after →
    OpenedAfter h before cwd target handle number →
      ∃ offset, t.host.handles[handle]? =
        some { backing := .file number, offset, append := target.mode == .append }
  /-- A file that is opened for overwriting and used by nobody else has all that is written to it, in order. -/
  once : ∀ before cwd target after handle number, steps = before ++ .opens cwd target :: after →
    target.mode = .overwrite → OpenedAfter h before cwd target handle number →
      (∀ a ∈ story (performAll ⟨h, []⟩ (before ++ [.opens cwd target])) after, ∀ other,
        a.handle? = some other → t.host.file? other = some number → other = handle) →
      t.host.contents number = bytesAll (performAll ⟨h, []⟩ (before ++ [.opens cwd target])) handle after
  /-- What was in a file is followed by all that is written to it, in order, if all who use it append. -/
  appended : ∀ number, (∀ a ∈ log, ∀ handle d, a.handle? = some handle → t.host.handles[handle]? = some d →
      d.backing.number? = some number → d.append = true) →
    t.host.contents number = h.contents number ++ log.flatMap (t.host.into number)
  /-- A sink that overwrites goes on where it has left off itself, whatever others write, and changes its own file
  only. -/
  apart : ∀ before cwd target after handle number, steps = before ++ .opens cwd target :: after →
    target.mode = .overwrite → OpenedAfter h before cwd target handle number →
      ∀ i s data, t.sink? i = some s → s.goes = .file handle →
        (t.perform (.writes i data)).host.contents number =
            splice (t.host.contents number)
              (bytesAll (performAll ⟨h, []⟩ (before ++ [.opens cwd target])) handle after).length data ∧
          ∀ other, other ≠ number → (t.perform (.writes i data)).host.contents other = t.host.contents other
  /-- What is written to a sink that discards is taken, and changes nothing. -/
  discarded : ∀ i s, t.sink? i = some s → s.goes = .nowhere →
    (∀ data, t.host.write s.goes data = .ok t.host ∧ t.perform (.writes i data) = t) ∧
      ∀ message, t.perform (.reports i message) = t
  /-- A file that nobody uses stays as it is. -/
  unused : ∀ number, (∀ a ∈ log, ∀ handle, a.handle? = some handle → t.host.file? handle ≠ some number) →
    t.host.contents number = h.contents number

/-- Nobody has a sink at first. -/
theorem orderly_start {h : Host} (sound : h.Sound) : Orderly ⟨h, []⟩ := by
  have nobody : ∀ s, ¬ Has ⟨h, []⟩ s := fun s ⟨i, present⟩ => by simp [sink?] at present
  exact ⟨sound, fun s has => absurd has (nobody s), fun s _ has => absurd has (nobody s),
    fun s _ _ has => absurd has (nobody s), fun s _ has => absurd has (nobody s), fun s _ has => absurd has (nobody s)⟩

/-- What happens after a target has been opened. -/
structure After (b t : SinkTable) (after : List SinkStep) (log : List Access) (target : Target) (handle number : Nat) :
    Prop where
  orderly : b.Orderly
  accessed : b.host.Accessed log t.host
  described : b.host.handles[handle]? = some { backing := .file number, append := target.mode == .append }
  empty : target.mode = .overwrite → b.host.contents number = []
  through : log.flatMap (Access.through handle) = b.bytesAll handle after

theorem after_of_openedAfter {h : Host} (sound : h.Sound) (split : steps = before ++ .opens cwd target :: after)
    (opened : OpenedAfter h before cwd target handle number) :
    After (performAll ⟨h, []⟩ (before ++ [.opens cwd target])) (performAll ⟨h, []⟩ steps) after
      (story (performAll ⟨h, []⟩ (before ++ [.opens cwd target])) after) target handle number := by
  have one_more : performAll ⟨h, []⟩ (before ++ [.opens cwd target]) =
      (performAll ⟨h, []⟩ before).perform (.opens cwd target) := performAll_append ..
  have all : performAll ⟨h, []⟩ steps = (performAll ⟨h, []⟩ (before ++ [.opens cwd target])).performAll after := by
    rw [split, List.append_cons, performAll_append]
  have file := opened.file
  have orderly := (orderly_start sound).performAll before
  obtain ⟨new, present, isNew, emptied, spared⟩ := orderly.exists_new opened.opened
  rw [← one_more] at present emptied spared
  have mine : new.backing.number? = some number := by rw [← Host.file?_eq present, file]
  have orderly' := (orderly_start sound).performAll (before ++ [.opens cwd target])
  refine ⟨orderly', ?_, ?_, fun overwrites => emptied overwrites number mine, ?_⟩
  · rw [all]
    exact orderly'.accessed_performAll after
  · rw [present, isNew.eq mine]
  · exact orderly'.through_story (by rw [file]; nofun) spared after

namespace After

variable {b : SinkTable} (afterwards : After b t after log target handle number)
include afterwards

/-- The description is about the same file to the end, and is where what has been written through it ends. -/
theorem exists_offset (overwrites : target.mode = .overwrite) : ∃ offset,
    t.host.handles[handle]? = some { backing := .file number, offset, append := target.mode == .append } ∧
      offset = (b.bytesAll handle after).length := by
  obtain ⟨offset, present, moved⟩ := afterwards.accessed.handle_eq afterwards.described
  have moved := moved (by rw [overwrites]; rfl) nofun
  rw [afterwards.through] at moved
  exact ⟨offset, present, by simpa using moved⟩

theorem contents_eq_of_sole (overwrites : target.mode = .overwrite)
    (sole : ∀ a ∈ log, ∀ other, a.handle? = some other → t.host.file? other = some number → other = handle) :
    t.host.contents number = b.bytesAll handle after := by
  have empty := afterwards.empty overwrites
  rw [afterwards.accessed.contents_eq_of_sole afterwards.orderly.sound afterwards.described rfl
    (by rw [overwrites]; rfl) (by rw [empty]; rfl) sole, empty, List.nil_append, afterwards.through]

/-- One more write goes to the place where the writes before have ended. -/
theorem contents_writes (overwrites : target.mode = .overwrite) (orderly : t.Orderly) (present : t.sink? i = some s)
    (goes : s.goes = .file handle) (data : Bytes) :
    (t.perform (.writes i data)).host.contents number =
        splice (t.host.contents number) (b.bytesAll handle after).length data ∧
      ∀ other, other ≠ number → (t.perform (.writes i data)).host.contents other = t.host.contents other := by
  obtain ⟨offset, there, rfl⟩ := afterwards.exists_offset overwrites
  have file : t.host.file? handle = some number := Host.file?_eq there
  have taken : t.host.Takes (.wrote (.file handle) data) (t.perform (.writes i data)).host := by
    have tried := orderly.tried_eq (s := s) ⟨i, present⟩ (by rw [goes]; rintro _ ⟨⟩; rw [file]; nofun) data
    have step := orderly.accessed_perform (.writes i data)
    simp only [accesses, present] at step
    rw [tried, goes] at step
    exact step.takes_of_singleton rfl
  constructor
  · rw [taken.contents_eq_of_wrote orderly.sound there rfl]
    simp [Description.start, overwrites]
  · intro other different
    refine taken.contents_eq_of_ne orderly.sound ?_
    rintro _ ⟨⟩ mine
    rw [taken.file?_eq (List.getElem?_eq_some_iff.1 there).1, file] at mine
    exact different (Option.some.inj mine).symm

end After

/-- **All writes through one opened sink go through one description.**  They follow each other in a file that nobody
else uses; writes through sinks that append are never lost or written over; other sinks keep to their own places. -/
theorem shared_of_sound {h : Host} (sound : h.Sound) (steps : List SinkStep) :
    Shared h steps (performAll ⟨h, []⟩ steps) (story ⟨h, []⟩ steps) := by
  have orderly := (orderly_start sound).performAll steps
  have accessed : h.Accessed _ _ := (orderly_start sound).accessed_performAll steps
  constructor
  case accessed => exact accessed
  case shared =>
    exact fun s s' has has' => ⟨orderly.same s s' has has', fun handle => orderly.own s s' handle has has'⟩
  case stays =>
    rintro before after i s rfl present kept
    rw [performAll_append]
    exact sink?_performAll present kept
  case taken =>
    intro i s present plain
    have tried := orderly.tried_eq ⟨i, present⟩ plain
    simp only [accesses, present]
    exact ⟨tried, fun message => tried _⟩
  case described =>
    intro before cwd target after handle number split opened
    obtain ⟨-, later, described, -, -⟩ := after_of_openedAfter sound split opened
    obtain ⟨offset, present, -⟩ := later.handle_eq described
    exact ⟨offset, present⟩
  case once =>
    intro before cwd target after handle number split overwrites opened sole
    exact (after_of_openedAfter sound split opened).contents_eq_of_sole overwrites sole
  case appended => exact fun number append => accessed.contents_eq_of_append sound append
  case apart =>
    intro before cwd target after handle number split overwrites opened i s data present goes
    exact (after_of_openedAfter sound split opened).contents_writes overwrites orderly present goes data
  case discarded =>
    intro i s present goes
    simp [perform, present, goes, Host.write, Host.tryWrite, Host.report]
  case unused => exact fun number others => accessed.contents_eq_of_ne sound others

/-- A sink is opened, duplicated and closed, while it and its duplicate are written to. -/
def handedRound : List SinkStep :=
  [.opens ['/'] ⟨['f'], .overwrite⟩, .shares 0, .writes 0 [97], .closes 0, .reports 1 ['b']]

theorem shared_of_sound_handedRound :
    ({} : Host).Sound ∧ ∃ t log, Shared {} handedRound t log ∧ t.sinks = [none, some ⟨0, .file 0⟩] ∧
      log = [.opened ['/', 'f'] .overwrite 0, .wrote (.file 0) [97], .wrote (.file 0) [98, 10]] ∧
      t.host.contents 0 = [97, 98, 10] := by
  have first : perform ⟨{}, []⟩ (.opens ['/'] ⟨['f'], .overwrite⟩) = ⟨Runner.openedHost, [some ⟨0, .file 0⟩]⟩ := by
    rw [perform, Runner.openTarget_blank]
    rfl
  have opened : Host.attempts {} ['/'] ⟨['f'], .overwrite⟩ = [.opened ['/', 'f'] .overwrite 0] := by
    rw [Host.attempts, Runner.openTarget_blank]
    rfl
  have final : performAll ⟨{}, []⟩ handedRound = performAll ⟨Runner.openedHost, [some ⟨0, .file 0⟩]⟩ handedRound.tail := by
    rw [← first]
    rfl
  have log : story ⟨{}, []⟩ handedRound = .opened ['/', 'f'] .overwrite 0 ::
      story ⟨Runner.openedHost, [some ⟨0, .file 0⟩]⟩ handedRound.tail := by
    rw [handedRound, story, first, accesses, opened]
    rfl
  refine ⟨Host.sound_empty, _, _, shared_of_sound Host.sound_empty handedRound, ?_, ?_, ?_⟩
  · rw [final]
    rfl
  · rw [log]
    rfl
  · rw [final]
    rfl

end SinkTable

end PipeShell
