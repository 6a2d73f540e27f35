import PipeShell.Proofs.Run.Alike
import PipeShell.Proofs.Run.Growth
import PipeShell.Proofs.Run.Scene
import PipeShell.Session

/-!
# The journal is for nobody inside

Records are added to the journal of the host and never read again.  So a host on which more has been noted before does
the same as one on which less has been noted: `Host.after` puts earlier records in front of the journal, and it commutes
with writing, noting and opening, with the start of a pipeline (`Runner.start_after`), with each step of it
(`World.step?_after`), with whole runs, and with the execution of a line (`Session.execute_after`).  Of the builtins and
the programs it takes that they are unaware of the journal; the standard builtins are
(`Registry.standard_unaware`).

Where records are printed, and what new processes inherit, is set up before the first line and stays so
(`Host.setup`).  So the records that are not printed then are all that hosts differ in on which the same has been done
(`Host.EqButJournal`).
-/

namespace PipeShell

namespace Host

variable {h h' : Host}

/-- The host after earlier records. -/
def after (h : Host) (earlier : List Record) : Host := { h with journal := earlier ++ h.journal }

variable (earlier : List Record)

theorem write_after (h : Host) (d : Destination) (data : Bytes) :
    (h.after earlier).write d data = (h.write d data).map (·.after earlier) := by
  cases d with
  | nowhere => rfl
  | terminal stream => cases stream <;> rfl
  | file handle =>
    have handles : (h.after earlier).handles = h.handles := rfl
    simp only [write, writeHandle, handles]
    cases h.handles[handle]? with
    | none => rfl
    | some description =>
      obtain ⟨backing, offset, append, readable, writable⟩ := description
      cases writable with
      | false => rfl
      | true =>
        cases backing with
        | directory | rest | file => rfl
        | device d =>
          cases d with
          | null => rfl
          | full => by_cases empty : data = [] <;> simp [empty, Except.map]

theorem tryWrite_after (h : Host) (d : Destination) (data : Bytes) :
    (h.after earlier).tryWrite d data = (h.tryWrite d data).after earlier := by
  simp only [tryWrite, write_after]
  cases h.write d data <;> rfl

theorem report_after (h : Host) (d : Destination) (message : Text) :
    (h.after earlier).report d message = (h.report d message).after earlier := tryWrite_after earlier h d _

theorem note_after (h : Host) (level : Level) (text : Text) :
    (h.after earlier).note level text = (h.note level text).after earlier := by
  have journal : (h.after earlier).journal ++ [(⟨level, text⟩ : Record)] = earlier ++ (h.journal ++ [⟨level, text⟩]) :=
    List.append_assoc _ _ _
  have logger : (h.after earlier).logger = h.logger := rfl
  have clock : (h.after earlier).clock = h.clock := rfl
  simp only [note, journal, logger, clock]
  split
  · exact tryWrite_after earlier { h with journal := h.journal ++ [⟨level, text⟩] } _ _
  · rfl

theorem openForWriting_after (h : Host) (path : Text) (mode : OpenMode) :
    (h.after earlier).openForWriting path mode =
      (h.openForWriting path mode).map fun (h, handle) => (h.after earlier, handle) := by
  have walk : (h.after earlier).walk = h.walk := rfl
  simp only [openForWriting, openAs, walk, if_true]
  rcases h.walk .create path with fault | ⟨l, _ | number | d | target⟩ | ⟨directory, name⟩
  · rfl
  · rfl
  · cases mode <;> rfl
  · rfl
  · rfl
  · rfl

theorem openTarget_after (h : Host) (cwd : Text) (t : Target) :
    (h.after earlier).openTarget cwd t = ((h.openTarget cwd t).1.after earlier, (h.openTarget cwd t).2) := by
  have directories : (h.after earlier).isDirectory = h.isDirectory := rfl
  simp only [openTarget, directories, note_after, openForWriting_after]
  split
  · rfl
  · cases h.openForWriting (joinPath cwd t.path) t.mode <;> rfl

/-! ### What is set up once -/

/-- Where records are printed, and the variables that new processes inherit. -/
def setup (h : Host) : Logger × Variables := (h.logger, h.inherited)

theorem setup_of_scene (same : h.scene = h'.scene) : h.setup = h'.setup :=
  show h.scene.setup = h'.scene.setup by rw [same]

theorem setup_report (h : Host) (d : Destination) (message : Text) : (h.report d message).setup = h.setup :=
  setup_of_scene (scene_tryWrite _ _ _)

theorem setup_note (h : Host) (level : Level) (text : Text) : (h.note level text).setup = h.setup :=
  setup_of_scene (scene_note _ _ _)

theorem setup_openForWriting {path : Text} {mode : OpenMode} {handle : Nat}
    (opened : h.openForWriting path mode = .ok (h', handle)) : h'.setup = h.setup := by
  simp only [openForWriting, openAs] at opened
  split at opened
  · cases opened
  · cases opened
    rfl
  · cases opened
    split <;> rfl
  · cases opened
    rfl
  · cases opened
  · cases opened

theorem setup_openTarget (h : Host) (cwd : Text) (t : Target) : (h.openTarget cwd t).1.setup = h.setup := by
  simp only [openTarget]
  split
  · exact setup_note _ _ _
  · split
    · rename_i opened
      exact setup_openForWriting opened
    · rfl

theorem setup_noteAny (h : Host) (text : Option Text) : (h.noteAny text).setup = h.setup := by
  cases text with
  | none => rfl
  | some text => exact setup_note _ _ _

/-! ### Hosts that differ in the journal -/

/-- The other host is the same, but for what has been noted on it. -/
def EqButJournal (h h' : Host) : Prop := ∃ journal, h' = { h with journal }

namespace EqButJournal

variable {k : Host}

theorem refl (h : Host) : h.EqButJournal h := ⟨h.journal, rfl⟩

theorem symm (same : h.EqButJournal h') : h'.EqButJournal h := by
  obtain ⟨journal, rfl⟩ := same
  exact ⟨h.journal, rfl⟩

theorem trans (first : h.EqButJournal h') (second : h'.EqButJournal k) : h.EqButJournal k := by
  obtain ⟨journal, rfl⟩ := first
  obtain ⟨journal', rfl⟩ := second
  exact ⟨journal', rfl⟩

theorem setup_eq (same : h.EqButJournal h') : h'.setup = h.setup := by
  obtain ⟨journal, rfl⟩ := same
  rfl

theorem of_after (h : Host) (first second : List Record) : (h.after first).EqButJournal (h.after second) :=
  ⟨second ++ h.journal, rfl⟩

/-- Both are what one host is after some records. -/
theorem exists_after (same : h.EqButJournal h') :
    ∃ (g : Host) (first second : List Record), h = g.after first ∧ h' = g.after second := by
  obtain ⟨journal, rfl⟩ := same
  exact ⟨{ h with journal := [] }, h.journal, journal, by simp [after], by simp [after]⟩

/-- A record that is not printed is in the journal, and that is all. -/
theorem note (same : h.EqButJournal h') {level : Level} (silent : level.passes h'.logger.limit = false) (text : Text) :
    h.EqButJournal (h'.note level text) := by
  refine same.trans ⟨h'.journal ++ [⟨level, text⟩], ?_⟩
  simp only [Host.note, silent]
  rfl

end EqButJournal

end Host

/-! ### Who is unaware of the journal -/

/-- What is asked of the host, if anything, has nothing to do with the journal, and it leaves alone what is set up. -/
def Request.IsUnaware {ρ τ : Type} : Request ρ τ → Prop
  | .call change next => ∀ h : Host, (change h).setup = h.setup ∧
      ∀ earlier, change (h.after earlier) = (change h).after earlier ∧ next (h.after earlier) = next h
  | _ => True

/-- The programs do not see the journal, and leave alone what is set up. -/
structure Programs.Unaware {σ : Type} (programs : Programs σ) : Prop where
  start : ∀ l h earlier, programs.start l (h.after earlier) = programs.start l h
  next : ∀ state, (programs.next state).IsUnaware

/-- A builtin that changes nothing on the host and does not see the journal. -/
def Act.Unaware {ρ : Type} (act : Act ρ) : Prop := act.Looks fun h h' => ∃ earlier, h' = h.after earlier

/-- A builtin that is unaware of the journal, or anything else. -/
def Actor.Unaware {σ : Type} : Actor σ → Prop
  | .builtin act => act.Unaware
  | _ => True

/-- All builtins are unaware of the journal. -/
def Registry.Unaware (r : Registry) : Prop := ∀ b ∈ r.builtins, ∀ call, (b.run call).Unaware

theorem Registry.standard_unaware : Registry.standard.Unaware := by
  intro b mem call
  rcases mem_standard mem with rfl | rfl | rfl | rfl | rfl
  · refine Builtin.cd_looks (fun h h' path same => ?_) fun h h' path same => ?_ <;> obtain ⟨earlier, rfl⟩ := same <;> rfl
  · exact Builtin.echo_looks call
  · exact Builtin.exit_looks call
  · exact Builtin.pwd_looks call
  · refine Builtin.type_looks fun h h' name same => ?_
    obtain ⟨earlier, rfl⟩ := same
    rfl

theorem Request.IsUnaware.map {ρ ρ' τ τ' : Type} {request : Request ρ τ} (unaware : request.IsUnaware) (f : ρ → ρ')
    (g : τ → τ') : (request.map f g).IsUnaware := by
  cases request with
  | done | read | write => trivial
  | call change next =>
    exact fun h => ⟨(unaware h).1, fun earlier => ((unaware h).2 earlier).imp_right (congrArg g)⟩

theorem Act.Unaware.request {ρ : Type} {act : Act ρ} (unaware : act.Unaware) :
    act.request.IsUnaware ∧ act.request.Leads Act.Unaware := by
  cases unaware with
  | done => exact ⟨trivial, trivial⟩
  | read later | write later => exact ⟨trivial, later⟩
  | ask sees later => exact ⟨fun h => ⟨rfl, fun earlier => ⟨rfl, (sees h _ ⟨earlier, rfl⟩).symm⟩⟩, later⟩

/-! ### Steps -/

namespace World

variable {σ : Type} {programs : Programs σ} {w w' : World σ} {party : Party} {k : Nat} {s : Seat σ}
  {request : Request Finish (Actor σ)}

/-- The pipeline on a host after earlier records. -/
def after (w : World σ) (earlier : List Record) : World σ := { w with host := w.host.after earlier }

/-- Unaware programs go on so. -/
theorem Acts.unaware (acts : Acts programs w party k s request) (unaware : programs.Unaware)
    (all : w.All Actor.Unaware) : request.IsUnaware ∧ request.Leads Actor.Unaware := by
  cases acts with
  | @builtin k s act running next =>
    obtain ⟨seat, actor, -⟩ := nextBuiltin?_eq_some next
    have mine : s.actor.Unaware := all k s.actor (by simp [actor?, seat])
    rw [actor] at mine
    obtain ⟨sees, leads⟩ := Act.Unaware.request mine
    refine ⟨sees.map _ _, ?_⟩
    cases act with
    | done => trivial
    | read | write | call => exact leads
  | @process k s state seat actor =>
    refine ⟨(unaware.next state).map _ _, ?_⟩
    cases programs.next state with
    | done => trivial
    | read | write | call => exact fun _ => trivial

theorem Step.unaware (step : Step programs w party w') (unaware : programs.Unaware) (all : w.All Actor.Unaware) :
    w'.All Actor.Unaware := by
  refine step.all all (fun acts _ => (acts.unaware unaware all).2) fun a idle => ?_
  cases a with
  | builtin => cases idle
  | process | gone | ended => trivial

/-- No step changes what is set up. -/
theorem Step.setup_eq (step : Step programs w party w') (unaware : programs.Unaware) (all : w.All Actor.Unaware) :
    w'.host.setup = w.host.setup :=
  step.seen_eq Host.setup (fun _ _ => Host.setup_of_scene) fun acts => ((acts.unaware unaware all).1 _).1

/-- Neither does a run. -/
theorem Reaches.setup_eq (reached : Reaches programs w w') (unaware : programs.Unaware) (all : w.All Actor.Unaware) :
    w'.host.setup = w.host.setup := by
  refine (reached.invariant (I := fun v => v.All Actor.Unaware ∧ v.host.setup = w.host.setup) ⟨all, rfl⟩ ?_).2
  rintro v v' party ⟨all, same⟩ step
  exact ⟨step.unaware unaware all, (step.setup_eq unaware all).trans same⟩

variable (earlier : List Record)

theorem note_after (w : World σ) (level : Level) (text : Text) :
    (w.after earlier).note level text = (w.note level text).after earlier := by
  show { w with host := (w.host.after earlier).note level text } = _
  rw [Host.note_after]
  rfl

theorem finish_after (w : World σ) (k : Nat) (name : Text) (result : Finish) :
    (w.after earlier).finish k name result = (w.finish k name result).after earlier := by
  cases result with
  | ending e => rfl
  | reply reply =>
    have setActor : ∀ a, (w.after earlier).setActor k a = (w.setActor k a).after earlier := fun _ => rfl
    have seats : ∀ v : World σ, (v.after earlier).seats = v.seats := fun _ => rfl
    simp only [finish, finishBuiltin, setActor, note_after, seats]
    split
    · rfl
    · split <;> rfl

theorem serveWrite_after (w : World σ) (k : Nat) (target : Output) (data : Bytes) :
    (w.after earlier).serveWrite k target data =
      (w.serveWrite k target data).map fun (w, outcome) => (w.after earlier, outcome) := by
  cases target with
  | «to» d =>
    have host : (w.after earlier).host = w.host.after earlier := rfl
    simp only [serveWrite, host, Host.write_after]
    cases w.host.write d data <;> rfl
  | nextStage =>
    have input : (w.after earlier).input (k + 1) = w.input (k + 1) := rfl
    simp only [serveWrite, input]
    rcases (w.input (k + 1)).write? data with - | fault | ⟨rest, j⟩ <;> rfl

/-- A stage does the same. -/
theorem stepStage?_after (w : World σ) (k : Nat) (s : Seat σ) (unaware : request.IsUnaware) :
    (w.after earlier).stepStage? k s request = (w.stepStage? k s request).map (·.after earlier) := by
  cases request with
  | done result =>
    have closed : (w.after earlier).closeEnds k = (w.closeEnds k).after earlier := rfl
    simp only [stepStage?, serve, closed, Option.map_some, finish_after]
  | read limit next =>
    simp only [stepStage?, serve]
    rcases s.input.read? limit with - | ⟨data, j⟩ <;> rfl
  | write stream data next =>
    simp only [stepStage?, serve, serveWrite_after]
    rcases w.serveWrite k (s.output stream) (s.unsent.getD data) with - | ⟨v, fault | rest⟩
    · rfl
    · rfl
    · by_cases all : rest = []
      · simp only [Option.map_some, all, if_true]
        rfl
      · simp only [Option.map_some, all, if_false]
        rfl
  | call change next =>
    obtain ⟨changed, seen⟩ := (unaware w.host).2 earlier
    have host : (w.after earlier).host = w.host.after earlier := rfl
    simp only [stepStage?, serve, host, changed, seen]
    rfl

theorem acting?_after (w : World σ) (party : Party) : (w.after earlier).acting? programs party = w.acting? programs party := by
  cases party <;> rfl

theorem awaitStage?_after (w : World σ) (k : Nat) :
    (w.after earlier).awaitStage? k = (w.awaitStage? k).map (·.after earlier) := by
  have seats : (w.after earlier).seats = w.seats := rfl
  simp only [awaitStage?, seats]
  cases w.seats[k]? with
  | none => rfl
  | some s =>
    dsimp only
    cases s.actor with
    | process | ended => rfl
    | gone | builtin =>
      exact congrArg some (note_after earlier (World.setActor { w with progress := .waiting (k + 1) } k _) _ _)

theorem awaitRelay?_after (w : World σ) (k : Nat) :
    (w.after earlier).awaitRelay? k = (w.awaitRelay? k).map (·.after earlier) := by
  have seats : (w.after earlier).seats = w.seats := rfl
  simp only [awaitRelay?, seats]
  cases w.seats[k]? with
  | none => rfl
  | some s =>
    dsimp only
    cases s.input.relay? with
    | none => rfl
    | some r =>
      dsimp only
      cases r.state with
      | copying => rfl
      | finished | stopped => exact congrArg some (note_after earlier { w with progress := .joining (k + 1) } _ _)

/-- **Whoever takes a step takes it after earlier records, too**, and does the same in it. -/
theorem step?_after (unaware : programs.Unaware) (all : w.All Actor.Unaware) (party : Party) :
    (w.after earlier).step? programs party = (w.step? programs party).map (·.after earlier) := by
  cases acting : w.acting? programs party with
  | some next =>
    obtain ⟨k, s, request⟩ := next
    have acts := acting?_eq_some_iff.1 acting
    have acts' := acting?_eq_some_iff.1 ((acting?_after earlier w party).trans acting)
    rw [acts.step?_eq, acts'.step?_eq, stepStage?_after earlier w k s (acts.unaware unaware all).1]
  | none =>
    cases party with
    | relay k =>
      have seats : (w.after earlier).seats = w.seats := rfl
      simp only [step?, stepRelay?, seats]
      cases w.seats[k]? with
      | none => rfl
      | some s =>
        dsimp only
        cases s.input.stepRelay? <;> rfl
    | process k =>
      rw [step?_process_of_acting? acting, step?_process_of_acting? ((acting?_after earlier w _).trans acting)]
      rfl
    | shell =>
      have progress : (w.after earlier).progress = w.progress := rfl
      have builtins : (w.after earlier).nextBuiltin? = w.nextBuiltin? := rfl
      simp only [step?, stepShell?, progress, builtins]
      cases running : w.progress with
      | running =>
        have last : w.nextBuiltin? = none := by simpa [acting?, running] using acting
        rw [last]
        rfl
      | waiting k => exact awaitStage?_after earlier w k
      | joining k => exact awaitRelay?_after earlier w k
      | returned => rfl

/-- The same is to be seen of a stage. -/
theorem event?_after (w : World σ) (party : Party) : (w.after earlier).event? programs party = w.event? programs party := by
  simp only [event?, acting?_after]
  cases w.acting? programs party with
  | none => rfl
  | some next =>
    obtain ⟨k, s, request⟩ := next
    cases request with
    | done | read | call => rfl
    | write stream data goOn =>
      simp only [Option.bind_some, served?, serveWrite_after]
      rcases w.serveWrite k (s.output stream) (s.unsent.getD data) with - | ⟨v, fault | rest⟩ <;> rfl

/-! ### Runs -/

/-- **Under the same schedule** the same happens. -/
theorem replay_after (unaware : programs.Unaware) (all : w.All Actor.Unaware) (schedule : List Party) :
    (w.after earlier).replay programs schedule =
      (w.replay programs schedule).map fun (trace, w) => (trace, w.after earlier) := by
  induction schedule generalizing w with
  | nil => rfl
  | cons party rest ih =>
    simp only [replay, step?_after earlier unaware all, event?_after]
    cases stepped : w.step? programs party with
    | none => rfl
    | some v =>
      simp only [Option.map_some, Option.bind_some, ih ((step?_iff.1 stepped).unaware unaware all)]
      cases v.replay programs rest <;> rfl

theorem advance?_after (unaware : programs.Unaware) (all : w.All Actor.Unaware) :
    (w.after earlier).advance? programs = (w.advance? programs).map (·.after earlier) := by
  have parties : (w.after earlier).parties = w.parties := rfl
  simp only [advance?, parties]
  induction w.parties with
  | nil => rfl
  | cons party rest ih =>
    simp only [List.findSome?_cons, step?_after earlier unaware all]
    cases w.step? programs party with
    | none => exact ih
    | some v => rfl

/-- The run in which everyone takes a step in turn comes out the same, too. -/
theorem run_after (unaware : programs.Unaware) (all : w.All Actor.Unaware) (steps : Nat) :
    World.run programs steps (w.after earlier) = (World.run programs steps w).map (·.after earlier) := by
  have progress : (w.after earlier).progress = w.progress := rfl
  induction steps generalizing w with
  | zero =>
    simp only [run, progress]
    split <;> rfl
  | succ steps ih =>
    simp only [run, progress, advance?_after earlier unaware all]
    split
    · rfl
    · cases advanced : w.advance? programs with
      | none => rfl
      | some v =>
        obtain ⟨party, -, stepped⟩ := List.exists_of_findSome?_eq_some advanced
        exact ih ((step?_iff.1 stepped).unaware unaware all) rfl

end World

/-! ### The start of a pipeline -/

namespace Join

variable (earlier : List Record) (h : Host) (name : Text) (j : Join)

theorem intoBuiltin_after :
    j.intoBuiltin (h.after earlier) name = ((j.intoBuiltin h name).1.after earlier, (j.intoBuiltin h name).2) := by
  cases j with
  | pipe p => exact Prod.ext (Host.note_after earlier h _ _) rfl
  | absent | channel | feeding | collecting | draining => rfl

theorem intoProgram_after :
    j.intoProgram (h.after earlier) name = ((j.intoProgram h name).1.after earlier, (j.intoProgram h name).2) := by
  cases j with
  | channel c => exact Prod.ext (Host.note_after earlier h _ _) rfl
  | absent | pipe | feeding | collecting | draining => rfl

theorem intoNothing_after :
    j.intoNothing (h.after earlier) name = ((j.intoNothing h name).1.after earlier, (j.intoNothing h name).2) := by
  cases j with
  | channel c => exact Prod.ext (Host.note_after earlier h _ _) rfl
  | absent | pipe | feeding | collecting | draining => rfl

end Join

/-- The stage on a host after earlier records. -/
def Started.after {σ : Type} (t : Started σ) (earlier : List Record) : Started σ :=
  { t with host := t.host.after earlier }

namespace Runner

variable {σ : Type} {r : Runner σ} (earlier : List Record)

theorem giveUp_after (h : Host) (name : Text) (fate : Fate) (input : Join) :
    giveUp (σ := σ) (h.after earlier) name fate input = (giveUp h name fate input).after earlier := by
  simp only [giveUp, Join.intoNothing_after]
  rfl

theorem seatBuiltin_after (r : Runner σ) (h : Host) (ctx : Context) (s : Stage) (b : Builtin) (out : Output)
    (err : Destination) (input : Join) :
    r.seatBuiltin (h.after earlier) ctx s b out err input =
      (r.seatBuiltin h ctx s b out err input).after earlier := by
  simp only [seatBuiltin, Host.note_after, Join.intoBuiltin_after]
  rfl

theorem seatProgram_after (unaware : r.programs.Unaware) (h : Host) (ctx : Context) (s : Stage) (path : Text)
    (out : Output) (err : Destination) (input : Join) :
    r.seatProgram (h.after earlier) ctx s path out err input =
      (r.seatProgram h ctx s path out err input).after earlier := by
  have inherited : (h.after earlier).inherited = h.inherited := rfl
  simp only [seatProgram, inherited, unaware.start]
  split
  · simp only [Host.note_after, Host.report_after, giveUp_after]
  · have numbered : ∀ g : Host, { g.after earlier with nextProcess := (g.after earlier).nextProcess + 1 } =
        { g with nextProcess := g.nextProcess + 1 }.after earlier := fun _ => rfl
    simp only [Host.note_after, numbered, Join.intoProgram_after]
    rfl

theorem seatStage_after (unaware : r.programs.Unaware) (h : Host) (ctx : Context) (s : Stage) (out : Output)
    (err : Destination) (input : Join) :
    r.seatStage (h.after earlier) ctx s out err input = (r.seatStage h ctx s out err input).after earlier := by
  have program? : (h.after earlier).program? ctx s.name = h.program? ctx s.name := rfl
  simp only [seatStage, program?]
  split
  · exact seatBuiltin_after earlier r h ctx s _ out err input
  · split
    · exact seatProgram_after earlier unaware h ctx s _ out err input
    · simp only [Host.note_after, Host.report_after, giveUp_after]

theorem openAny_after (h : Host) (cwd : Text) (t : Option Target) :
    openAny (h.after earlier) cwd t = ((openAny h cwd t).1.after earlier, (openAny h cwd t).2) := by
  cases t with
  | none => rfl
  | some t => simp only [openAny, Host.openTarget_after]

theorem startStage_after (unaware : r.programs.Unaware) (h : Host) (ctx : Context) (s : Stage) (input : Join)
    (isLast : Bool) :
    r.startStage (h.after earlier) ctx s input isLast = (r.startStage h ctx s input isLast).after earlier := by
  simp only [startStage, openAny_after]
  rcases openAny h ctx.cwd s.redirections.err with ⟨g, failure | err⟩
  · simp only [Host.report_after, giveUp_after]
  · simp only [openAny_after]
    rcases openAny g ctx.cwd s.redirections.out with ⟨g, failure | out⟩
    · simp only [Host.report_after, giveUp_after]
    · exact seatStage_after earlier unaware g ctx s _ _ input

theorem startStages_after (unaware : r.programs.Unaware) (ctx : Context) (h : Host) (input : Join)
    (stages : List Stage) :
    r.startStages ctx (h.after earlier) input stages =
      ((r.startStages ctx h input stages).1.after earlier, (r.startStages ctx h input stages).2) := by
  induction stages generalizing h input with
  | nil => rfl
  | cons s rest ih =>
    have host : ∀ t : Started σ, (t.after earlier).host = t.host.after earlier := fun _ => rfl
    simp only [startStages, startStage_after earlier unaware, host, ih]
    rfl

/-- **A pipeline starts the same way** after earlier records. -/
theorem start_after (unaware : r.programs.Unaware) (p : Pipeline) (ctx : Context) (h : Host) :
    r.start p ctx (h.after earlier) = (r.start p ctx h).after earlier := by
  simp only [start, startStages_after earlier unaware]
  rfl

/-- All builtins of a pipeline are unaware of the journal if all in the registry are. -/
theorem unaware_start (unaware : r.registry.Unaware) (p : Pipeline) (ctx : Context) (h : Host) :
    (r.start p ctx h).All Actor.Unaware := by
  refine all_start (P := Actor.Unaware) unaware (fun a other => ?_) p ctx h
  cases a with
  | builtin => exact absurd rfl other
  | process | gone | ended => trivial

/-! The start changes nothing that is set up. -/

theorem setup_giveUp (h : Host) (name : Text) (fate : Fate) (input : Join) :
    (giveUp (σ := σ) h name fate input).host.setup = h.setup := by
  obtain ⟨text, handed⟩ := Join.exists_intoNothing name input
  simp only [giveUp, handed, Host.setup_noteAny]

theorem setup_seatStage (r : Runner σ) (h : Host) (ctx : Context) (s : Stage) (out : Output) (err : Destination)
    (input : Join) : (r.seatStage h ctx s out err input).host.setup = h.setup := by
  simp only [seatStage]
  split
  · obtain ⟨text, handed⟩ := Join.exists_intoBuiltin s.name input
    simp only [seatBuiltin, handed, Host.setup_noteAny, Host.setup_note]
  · split
    · simp only [seatProgram]
      split
      · simp only [setup_giveUp, Host.setup_report, Host.setup_note]
      · obtain ⟨text, handed⟩ := Join.exists_intoProgram s.name input
        simp only [handed, Host.setup_noteAny]
        exact Host.setup_note _ _ _
    · simp only [setup_giveUp, Host.setup_report, Host.setup_note]

theorem setup_openAny (h : Host) (cwd : Text) (t : Option Target) : (openAny h cwd t).1.setup = h.setup := by
  cases t with
  | none => rfl
  | some t => exact Host.setup_openTarget h cwd t

theorem setup_startStage (r : Runner σ) (h : Host) (ctx : Context) (s : Stage) (input : Join) (isLast : Bool) :
    (r.startStage h ctx s input isLast).host.setup = h.setup := by
  simp only [startStage]
  split
  · rename_i g failure first
    rw [setup_giveUp, Host.setup_report, ← setup_openAny h ctx.cwd s.redirections.err, first]
  · rename_i g err first
    have one : g.setup = h.setup := by rw [← setup_openAny h ctx.cwd s.redirections.err, first]
    split
    · rename_i g' failure second
      rw [setup_giveUp, Host.setup_report, ← one, ← setup_openAny g ctx.cwd s.redirections.out, second]
    · rename_i g' out second
      rw [setup_seatStage, ← one, ← setup_openAny g ctx.cwd s.redirections.out, second]

theorem setup_startStages (r : Runner σ) (ctx : Context) (h : Host) (input : Join) (stages : List Stage) :
    (r.startStages ctx h input stages).1.setup = h.setup := by
  induction stages generalizing h input with
  | nil => rfl
  | cons s rest ih => exact (ih _ _).trans (setup_startStage r h ctx s input rest.isEmpty)

/-- Whoever runs a pipeline to its end finds what is set up as it was. -/
theorem setup_of_reaches {p : Pipeline} {ctx : Context} {h : Host} {w : World σ} (unaware : r.programs.Unaware)
    (builtins : r.registry.Unaware) (reached : World.Reaches r.programs (r.start p ctx h) w) :
    w.host.setup = h.setup :=
  (reached.setup_eq unaware (unaware_start builtins p ctx h)).trans (setup_startStages r ctx h .absent p.stages)

/-- A pipeline comes to the same end. -/
theorem run_after (unaware : r.programs.Unaware) (builtins : r.registry.Unaware) (p : Pipeline) (ctx : Context)
    (h : Host) : r.run p ctx (h.after earlier) = (r.run p ctx h).map fun (summary, h) => (summary, h.after earlier) := by
  simp only [run, start_after earlier unaware, World.run_after earlier unaware (unaware_start builtins p ctx h)]
  cases World.run r.programs r.patience (r.start p ctx h) <;> rfl

end Runner

/-! ### Lines -/

namespace Session

variable {σ : Type} {r : Runner σ} (earlier : List Record)

theorem settle_after (s : Session) (h : Host) (summary : Summary) :
    s.settle (h.after earlier) summary = ((s.settle h summary).1, (s.settle h summary).2.after earlier) := by
  simp only [settle, Host.note_after]
  split <;> rfl

/-- **A line does the same** after earlier records. -/
theorem execute_after (unaware : r.programs.Unaware) (builtins : r.registry.Unaware) (s : Session) (line : Text)
    (h : Host) :
    s.execute r line (h.after earlier) = (s.execute r line h).map fun (s, h) => (s, h.after earlier) := by
  simp only [execute, Host.report_after, Runner.run_after earlier unaware builtins]
  split
  · rfl
  · rfl
  · rename_i p parsed
    cases r.run p s.environment.context h with
    | none => rfl
    | some result => exact congrArg some (settle_after earlier s result.2 result.1)

end Session

end PipeShell
