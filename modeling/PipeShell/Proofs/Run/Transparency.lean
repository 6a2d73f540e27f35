import PipeShell.Proofs.Run.Discard
import PipeShell.Proofs.Run.Wiring

/-!
# Discarding is transparent

A stage whose target has no directory runs all the same, and its output goes nowhere.  `Runner.discards_of_missing`
says that this makes no difference to anything else: with such a target in place of one that is opened, the pipeline
does the same under every schedule.  All stages end alike, they read the same, and all files and the terminal are the
same but for the target itself (`Runner.Discards`).  Where records of the level debug are printed, there is one more,
which says what has been discarded.

This is so as long as nothing else in the pipeline has to do with the target (`Runner.Spares`).  A pipeline is of that
kind if its programs are functions of what they are started with and of what they read, its builtins overlook the
target, and the targets that are opened later are other files (`Runner.Spares.of_functional`).
-/

namespace PipeShell

namespace Host

variable {f : Footprint} {g g' : Host}

/-- What is to be seen on the host `g'` is what is to be seen on `g`, but for the target of the footprint, and for the
record of the discarding where records of the level debug are printed. -/
structure SameBut (f : Footprint) (g g' : Host) : Prop where
  terminalOut : f.StreamAlike .out g.terminalOut g'.terminalOut
  terminalErr : f.StreamAlike .err g.terminalErr g'.terminalErr
  /-- All other files have the same contents. -/
  files : ∀ number, ¬ f.Stains number →
    (g'.files.getD (f.number number) {}).contents = (g.files.getD number {}).contents
  /-- The same is to be found in them under all their names. -/
  contents : ∀ path, (∀ number, f.Stains number → g.node? path ≠ some (.file number)) →
    (g'.contentsAt path).toOption = (g.contentsAt path).toOption
  /-- There is nothing else. -/
  nodes : ∀ path, g'.node? path ≠ none → g.node? path ≠ none
  directories : ∀ path, g'.isDirectory path = g.isDirectory path

/-- The contents of what a path leads to. -/
theorem toOption_contentsAt (h : Host) (path : Text) :
    (h.contentsAt path).toOption = (h.node? path).bind fun
      | .file number => some (h.files.getD number {}).contents
      | .device _ => some []
      | .directory | .link _ => none := by
  unfold contentsAt node?
  rcases h.walk .use path with fault | ⟨l, _ | number | device | target⟩ | ⟨directory, name⟩
  case ok.found.device => cases device <;> rfl
  all_goals rfl

theorem AlikeBut.sameBut (alike : AlikeBut f g g') : SameBut f g g' where
  terminalOut := alike.terminalOut
  terminalErr := alike.terminalErr
  files number clean := alike.getD_contents (fun gap => clean (.inl (f.file_of_gap gap))) clean
  contents path other := by
    rw [toOption_contentsAt, toOption_contentsAt, alike.node?_eq]
    rcases node : g.node? path with _ | _ | number | device | target
    case some.file =>
      have clean : ¬ f.Stains number := fun stained => other number stained node
      have present : f.gap ≠ some number := fun gap => clean (.inl (f.file_of_gap gap))
      have kept : ∀ gap ∈ f.gap, Node.file number ≠ .file gap := by
        rintro gap own ⟨⟩
        exact present own
      rw [Option.filter_some_pos (by simpa using kept)]
      exact congrArg some (alike.getD_contents present clean)
    all_goals simp [Option.filter, Node.renumber]
  nodes path there missing := by
    rw [alike.node?_eq, missing] at there
    exact there rfl
  directories := alike.isDirectory_eq

end Host

/-- The programs are functions of their path, their words, their variables, the directory that they run in and what they
read.  Neither the system nor a program looks at the host, or at where the output goes, and no program changes the
host. -/
structure Programs.Functional {σ : Type} (programs : Programs σ) : Prop where
  start : ∀ (l : Launch) (out err : Destination) (h h' : Host),
    programs.start { l with out, err } h' = programs.start l h
  next : ∀ state change goOn, programs.next state ≠ .call change goOn

/-- What a stage is doing, if it is a builtin, does not depend on whether the target is there. -/
def Actor.Overlooks {σ : Type} (f : Footprint) : Actor σ → Prop
  | .builtin act => act.Looks (Host.AlikeBut f)
  | _ => True

/-- The standard builtins overlook any target, but `cd` one that was there before only. -/
theorem Registry.standard_overlooks {f : Footprint} {b : Builtin} (mem : b ∈ Registry.standard.builtins)
    (before : b = .cd → f.gap = none) (call : Call) : (b.run call).Looks (Host.AlikeBut f) := by
  rcases mem_standard mem with rfl | rfl | rfl | rfl | rfl
  · refine Builtin.cd_looks (fun g g' path alike => ?_) fun g g' path alike => ?_
    · exact (alike.canonical?_eq (before rfl) path).symm
    · exact (alike.isDirectory_eq path).symm
  · exact Builtin.echo_looks call
  · exact Builtin.exit_looks call
  · exact Builtin.pwd_looks call
  · exact Builtin.type_looks fun g g' name alike => (alike.program?_eq call.context name).symm

namespace World

variable {σ : Type} {programs : Programs σ} {f : Footprint} {w v : World σ} {party : Party} {k : Nat} {s : Seat σ}
  {request : Request Finish (Actor σ)}

/-- What is to be seen of the pipeline `v` is what is to be seen of `w`, but for the target of the footprint. -/
structure SameBut (f : Footprint) (w v : World σ) : Prop where
  /-- All stages have ended alike. -/
  fates : v.fates = w.fates
  /-- The shell is asked for the same. -/
  request : v.request = w.request
  /-- The one has returned if the other has. -/
  progress : v.progress = w.progress
  host : Host.SameBut f w.host v.host

theorem AlikeBut.sameBut (alike : AlikeBut f w v) : SameBut f w v :=
  ⟨alike.fates_eq, alike.request, alike.progress, alike.host.sameBut⟩

/-! ### Stages that overlook the target -/

theorem Acts.overlooks (acts : Acts programs w party k s request) (functional : programs.Functional)
    (overlooks : s.actor.Overlooks f) :
    request.Leads (Actor.Overlooks f) ∧ ∀ change next, request = .call change next →
      change = id ∧ ∀ g g', Host.AlikeBut f g g' → next g = next g' := by
  have asks := acts.request?_eq
  cases actor : s.actor with
  | gone | ended =>
    rw [actor] at asks
    cases asks
  | builtin act =>
    rw [actor] at asks overlooks
    cases asks
    have looks : act.Looks (Host.AlikeBut f) := overlooks
    cases looks with
    | done result => exact ⟨trivial, nofun⟩
    | read later | write later => exact ⟨later, nofun⟩
    | ask sees later =>
      refine ⟨later, ?_⟩
      rintro _ _ ⟨⟩
      exact ⟨rfl, fun g g' alike => congrArg Actor.builtin (sees g g' alike)⟩
  | process state =>
    rw [actor] at asks
    cases asks
    cases next : programs.next state with
    | done result => exact ⟨trivial, nofun⟩
    | read | write => exact ⟨fun _ => trivial, nofun⟩
    | call change goOn => exact absurd next (functional.next state change goOn)

/-- As long as the target takes what is written, such stages spare it. -/
theorem Spares.of_overlooks (functional : programs.Functional) (all : w.All (Actor.Overlooks f))
    (takes : ∀ data, w.host.fault? (.file f.handle) data = none) : w.Spares programs f where
  calls acts g alike := by
    obtain ⟨rfl, sees⟩ := (acts.overlooks functional (all.of_acts acts)).2 _ _ rfl
    exact ⟨(sees _ _ alike).symm, alike⟩
  writes {_} {_} {s} {_} {data} {_} acts target := by
    have taken := takes (s.unsent.getD data)
    unfold Host.fault? at taken
    split at taken
    · rename_i host written
      exact ⟨host, written⟩
    · cases taken

/-- They go on so. -/
theorem Step.overlooks (step : Step programs w party v) (functional : programs.Functional)
    (all : w.All (Actor.Overlooks f)) : v.All (Actor.Overlooks f) := by
  refine step.all all (fun acts overlooks => (acts.overlooks functional overlooks).1) fun a idle => ?_
  cases a with
  | builtin => cases idle
  | process | gone | ended => trivial

/-- What the host takes, it goes on to take. -/
theorem Step.fault?_eq (step : Step programs w party v) (functional : programs.Functional)
    (all : w.All (Actor.Overlooks f)) (d : Destination) (data : Bytes) :
    v.host.fault? d data = w.host.fault? d data := by
  refine step.seen_eq (·.fault? d data) (fun h h' same => ?_) fun acts => ?_
  · rw [← Host.fault?_scene h, same, Host.fault?_scene]
  · obtain ⟨rfl, -⟩ := (acts.overlooks functional (all.of_acts acts)).2 _ _ rfl
    rfl

end World

namespace Runner

variable {σ : Type} {r : Runner σ} {p : Pipeline} {ctx : Context} {f : Footprint} {g g₁ h host : Host} {s : Stage}
  {seat : Seat σ} {i : Nat} {op : Operator} {path : Text} {t : Target}

/-- Nothing in the pipeline has to do with the target of stage `i`, but that this stage writes to it. -/
structure Spares (r : Runner σ) (p : Pipeline) (ctx : Context) (h : Host) (i : Nat) (stream : StdStream)
    (f : Footprint) : Prop where
  /-- The stage itself: its standard output is opened after its standard error. -/
  own : ∀ {s : Stage} {host : Host} {seat : Seat σ}, r.At p ctx h i s host seat →
    r.TurnSpares ctx f host s (decide (i + 1 = p.stages.length)) fun other => stream = .err ∧ other = .out
  /-- The stages that are started after it. -/
  later : ∀ {j : Nat} {s : Stage} {host : Host} {seat : Seat σ}, i < j → r.At p ctx h j s host seat →
    r.TurnSpares ctx f host s (decide (j + 1 = p.stages.length)) fun _ => True
  /-- All stages, when they run. -/
  run : ∀ {w : World σ}, World.Reaches r.programs (r.start p ctx h) w → w.Spares r.programs f

/-- What comes of discarding the output of a stage to a stream, for which there is a target in `p`. -/
structure Discards (r : Runner σ) (p : Pipeline) (ctx : Context) (h : Host) (i : Nat) (op : Operator) (path : Text)
    (f : Footprint) : Prop where
  /-- Under any schedule both pipelines come equally far, all stages read and pass on the same, and the same is to be
  seen in the end. -/
  replay : ∀ schedule : List Party, Option.Rel
    (fun a b => World.SameBut f a.2 b.2 ∧ b.1 = a.1.map f.event ∧
      ∀ k, bytesRead k b.1 = bytesRead k a.1 ∧ bytesPassed k b.1 = bytesPassed k a.1)
    ((r.start p ctx h).replay r.programs schedule)
    ((r.start (p.redirect i op path) ctx h).replay r.programs schedule)
  /-- Run to their end they give the same summary. -/
  run : Option.Rel (fun a b => b.1 = a.1 ∧ Host.SameBut f a.2 b.2) (r.run p ctx h) (r.run (p.redirect i op path) ctx h)
  /-- Nothing is opened or made, and all that is left is a record. -/
  opening : ∀ {s : Stage} {host g : Host} {seat : Seat σ}, r.At (p.redirect i op path) ctx h i s host seat →
    onOpening ctx host s op.stream = some g →
      g.openTarget ctx.cwd ⟨path, op.mode⟩ =
        (g.note .debug (Host.discardNotice (joinPath ctx.cwd path)), .ok .nowhere)
  /-- The directory is still missing, unless some program makes it. -/
  missing : (∀ {v : World σ} {party : Party} {k : Nat} {s : Seat σ} {change : Host → Host} {next : Host → Actor σ},
      World.Reaches r.programs (r.start (p.redirect i op path) ctx h) v →
        World.Acts r.programs v party k s (.call change next) →
          ∀ directory, (change v.host).isDirectory directory = v.host.isDirectory directory) →
    ∀ {v : World σ}, World.Reaches r.programs (r.start (p.redirect i op path) ctx h) v →
      v.host.MissesParent (joinPath ctx.cwd path)
  /-- The stream goes nowhere, to the end. -/
  nowhere : ∀ {v : World σ}, World.Reaches r.programs (r.start (p.redirect i op path) ctx h) v →
    ∀ {s : Seat σ}, v.seats[i]? = some s → s.output op.stream = .to .nowhere
  /-- What the stage writes to it changes nothing but the stage itself. -/
  dropped : ∀ {v : World σ}, World.Reaches r.programs (r.start (p.redirect i op path) ctx h) v →
    ∀ {party : Party} {s : Seat σ} {data : Bytes} {next : Option Fault → Actor σ},
      World.Acts r.programs v party i s (.write op.stream data next) →
        v.step? r.programs party = some (v.setActor i (next none))
  /-- The next stage does not read from one whose standard output is discarded. -/
  closed : op.stream = .out → ∀ {v : World σ}, World.Reaches r.programs (r.start (p.redirect i op path) ctx h) v →
    ∀ limit, (v.input (i + 1)).read? limit = some ([], v.input (i + 1))

theorem overlooks_start
    (builtins : ∀ s ∈ p.stages, ∀ b, r.registry.find? s.name = some b →
      (b.run ⟨s.argv, ctx, r.registry.names⟩).Looks (Host.AlikeBut f)) :
    (r.start p ctx h).All (Actor.Overlooks f) := by
  intro k a actor
  have hk : k < p.stages.length := by
    rw [← (wired r p ctx h).seats.1]
    exact World.lt_of_actor? actor
  obtain ⟨host, seat, at_k, hseat⟩ := exists_at r ctx h (List.getElem?_eq_getElem hk)
  have turn := at_k.turn_eq.2
  simp only [World.actor?, hseat, Option.map_some, Option.some.injEq] at actor
  rw [actor] at turn
  generalize seat.out = out at turn
  generalize seat.err = err at turn
  cases turn with
  | builtin opens found => exact builtins _ (List.getElem_mem hk) _ found
  | errRefused | outRefused | program | notStarted | notFound => trivial

/-- **A pipeline spares a target** if its programs are functions, its builtins overlook the target, no target that is
opened later is the same file or behind it, and every write to the target succeeds. -/
theorem Spares.of_functional {stream : StdStream} (functional : r.programs.Functional)
    (builtins : ∀ s ∈ p.stages, ∀ b, r.registry.find? s.name = some b →
      (b.run ⟨s.argv, ctx, r.registry.names⟩).Looks (Host.AlikeBut f))
    (others : ∀ {j : Nat} {s : Stage} {host g : Host} {seat : Seat σ} {other : StdStream} {t : Target},
      i < j ∨ i = j ∧ stream = .err ∧ other = .out → r.At p ctx h j s host seat →
        onOpening ctx host s other = some g → s.redirections.get other = some t →
          f.Overlooked g (joinPath ctx.cwd t.path))
    (takes : ∀ data, (r.start p ctx h).host.fault? (.file f.handle) data = none) : r.Spares p ctx h i stream f where
  own at_i :=
    { targets := fun behind onto target => others (.inr ⟨rfl, behind⟩) at_i onto target
      starts := fun _ _ _ g' out' err' _ => functional.start _ out' err' _ g' }
  later after at_j :=
    { targets := fun _ onto target => others (.inl after) at_j onto target
      starts := fun _ _ _ g' out' err' _ => functional.start _ out' err' _ g' }
  run reached := by
    have kept := reached.invariant
      (I := fun w => w.All (Actor.Overlooks f) ∧ ∀ data, w.host.fault? (.file f.handle) data = none)
      ⟨overlooks_start builtins, takes⟩ fun kept step =>
        ⟨step.overlooks functional kept.1, fun data => (step.fault?_eq functional kept.1 _ _).trans (kept.2 data)⟩
    exact .of_overlooks functional kept.1 kept.2

/-- The pipelines are alike when all stages have been started. -/
theorem alikeBut_start (sound : h.Sound) (attached : r.Attached h) (at_i : r.At p ctx h i s g seat)
    (opens : TargetOpens ctx g s op.stream t g₁) (misses : h.MissesParent (joinPath ctx.cwd path))
    (spares : r.Spares p ctx h i op.stream (ctx.footprint g₁ t path)) :
    World.AlikeBut (ctx.footprint g₁ t path) (r.start p ctx h)
      (r.start (p.redirect i op path) ctx h) := by
  obtain ⟨stage, started, turn, rfl⟩ := at_i
  obtain ⟨host, seats⟩ := startStages_redirect sound attached stage turn opens misses
    (spares.own ⟨stage, started, turn, rfl⟩) fun later stage turn => spares.later later ⟨stage, _, turn, rfl⟩
  exact ⟨host, seats, rfl, rfl⟩

/-- What a stage finds in its turn has grown from what the pipeline began with. -/
theorem At.grows (at_i : r.At p ctx h i s host seat) (sound : h.Sound) (attached : r.Attached h) : h.Grows host := by
  obtain ⟨-, t, turn, -⟩ := at_i
  exact grows_turns sound attached turn

/-- The redirected stage. -/
theorem At.target_of_redirect (at_i : r.At (p.redirect i op path) ctx h i s host seat) :
    s.redirections.get op.stream = some ⟨path, op.mode⟩ := by
  have stage := at_i.stage
  simp only [Pipeline.redirect, List.getElem?_modify, if_true, Option.map_eq_map, Option.map_eq_some_iff] at stage
  obtain ⟨s₀, -, rfl⟩ := stage
  rw [Stage.redirect, Redirections.get_set, if_pos rfl]

/-- The output of the stage goes nowhere. -/
theorem At.output_of_redirect (at_i : r.At (p.redirect i op path) ctx h i s host seat) (sound : h.Sound)
    (attached : r.Attached h) (misses : h.MissesParent (joinPath ctx.cwd path)) :
    seat.output op.stream = .to .nowhere := by
  have wired := wired r (p.redirect i op path) ctx h
  have target := at_i.target_of_redirect
  by_cases idle : seat.actor.role = .idle
  · obtain ⟨out, err⟩ := wired.idle at_i idle
    cases op.stream with
    | out => exact out
    | err => exact congrArg Output.to err
  · have grows := at_i.grows sound attached
    -- A target for which there is no directory is not opened.
    have nowhere : ∀ {g : Host} {d : Destination}, h.Grows g → Target.Opened ⟨path, op.mode⟩ ctx.cwd g d →
        d = .nowhere := by
      intro g d grows opened
      cases opened with
      | nowhere => rfl
      | file present _ =>
        obtain ⟨parent, parent_eq, missing⟩ := grows.missesParent misses
        rw [present parent parent_eq] at missing
        cases missing
    cases stream : op.stream with
    | out =>
      rw [stream] at target
      have goes := wired.out at_i idle
      have target : s.redirections.out = _ := target
      rw [target] at goes
      obtain ⟨d, opened, out⟩ := goes
      rw [nowhere (grows.trans (openAny_grows grows.sound _ _).1) opened] at out
      exact out
    | err =>
      rw [stream] at target
      have goes := wired.err at_i idle
      have target : s.redirections.err = _ := target
      rw [target] at goes
      exact congrArg Output.to (nowhere grows goes)

theorem getElem?_redirect (stage : p.stages[i]? = some s) (op : Operator) (path : Text) :
    (p.redirect i op path).stages[i]? = some (s.redirect op path) := by
  simp [Pipeline.redirect, stage]

/-- It goes nowhere to the end. -/
theorem output_of_reaches {v : World σ} (stage : p.stages[i]? = some s) (sound : h.Sound) (attached : r.Attached h)
    (misses : h.MissesParent (joinPath ctx.cwd path))
    (reached : World.Reaches r.programs (r.start (p.redirect i op path) ctx h) v)
    (there : v.seats[i]? = some seat) : seat.output op.stream = .to .nowhere := by
  obtain ⟨host', seat₀, at_i, first⟩ := exists_at r ctx h (getElem?_redirect stage op path)
  have discarded := at_i.output_of_redirect sound attached misses
  have wiring := congrArg (·[i]?) (wiring_of_reaches reached)
  simp only [World.wiring_getElem?, there, first, Option.map_some, Option.some.injEq, Prod.mk.injEq] at wiring
  obtain ⟨-, out, err, -⟩ := wiring
  cases stream : op.stream with
  | out =>
    rw [stream] at discarded
    exact out.trans discarded
  | err =>
    rw [stream] at discarded
    exact (congrArg Output.to err).trans discarded

/-- The next stage is not connected to one whose standard output is discarded. -/
theorem input_of_redirect {v : World σ} (stage : p.stages[i]? = some s) (stream : op.stream = .out)
    (reached : World.Reaches r.programs (r.start (p.redirect i op path) ctx h) v) : v.input (i + 1) = .absent := by
  obtain ⟨host, seat, at_i, -⟩ := exists_at r ctx h (getElem?_redirect stage op path)
  have target := at_i.target_of_redirect
  rw [stream] at target
  have unfed : ¬ r.Fed (p.redirect i op path) ctx h (i + 1) := by
    rw [fed_succ_iff at_i]
    rintro ⟨-, out⟩
    cases (show some _ = none from target.symm.trans out)
  exact World.input_eq_absent (wiring_of_reaches reached) (start_input_of_not_fed unfed)

/-- A directory that is missing goes on to be, unless a program makes it. -/
theorem missesParent_of_reaches {v : World σ} (sound : h.Sound) (attached : r.Attached h) (misses : h.MissesParent path)
    (calls : ∀ {v : World σ} {party : Party} {k : Nat} {s : Seat σ} {change : Host → Host} {next : Host → Actor σ},
      World.Reaches r.programs (r.start p ctx h) v → World.Acts r.programs v party k s (.call change next) →
        ∀ directory, (change v.host).isDirectory directory = v.host.isDirectory directory)
    (reached : World.Reaches r.programs (r.start p ctx h) v) : v.host.MissesParent path := by
  induction reached with
  | refl => exact (grows_startStages sound attached ctx _ _).missesParent misses
  | tail reached step ih =>
    obtain ⟨party, step⟩ := step
    obtain ⟨parent, parent_eq, missing⟩ := ih
    have same := (World.step?_iff.1 step).seen_eq (·.isDirectory parent)
      (fun _ _ same => Host.isDirectory_of_scene same parent) fun acts => calls reached acts parent
    exact ⟨parent, parent_eq, same.trans missing⟩

/-- **Discarding is transparent**: whether the output of a stage goes to its target or is discarded, the pipeline does
the same under every schedule. -/
theorem discards_of_missing (sound : h.Sound) (attached : r.Attached h) (at_i : r.At p ctx h i s g seat)
    (opens : TargetOpens ctx g s op.stream t g₁) (misses : h.MissesParent (joinPath ctx.cwd path))
    (spares : r.Spares p ctx h i op.stream (ctx.footprint g₁ t path)) :
    r.Discards p ctx h i op path (ctx.footprint g₁ t path) := by
  have alike := alikeBut_start sound attached at_i opens misses spares
  constructor
  case replay =>
    intro schedule
    have lockstep := alike.replay spares.run schedule
    generalize (r.start p ctx h).replay r.programs schedule = there at lockstep ⊢
    generalize (r.start (p.redirect i op path) ctx h).replay r.programs schedule = here at lockstep ⊢
    cases lockstep with
    | none => exact .none
    | some both =>
      refine .some ⟨both.2.sameBut, both.1, fun k => ?_⟩
      rw [both.1]
      exact ⟨Footprint.bytesRead_map _ k _, Footprint.bytesPassed_map _ k _⟩
  case run =>
    have lockstep := alike.run spares.run r.patience
    unfold Runner.run
    generalize World.run r.programs r.patience (r.start p ctx h) = there at lockstep ⊢
    generalize World.run r.programs r.patience (r.start (p.redirect i op path) ctx h) = here at lockstep ⊢
    cases lockstep with
    | none => exact .none
    | some alike => exact .some ⟨by simp only [alike.fates_eq, alike.request], alike.host.sameBut⟩
  case opening =>
    intro s host g seat at_i' onto
    have before := at_i'.grows sound attached
    exact Host.openTarget_of_missesParent
      ((before.trans (grows_onOpening before.sound onto)).missesParent misses) op.mode
  case missing =>
    intro calls v reached
    exact missesParent_of_reaches sound attached misses calls reached
  case nowhere =>
    intro v reached s' there
    exact output_of_reaches at_i.stage sound attached misses reached there
  case dropped =>
    intro v reached party s' data next acts
    have discarded := output_of_reaches at_i.stage sound attached misses reached acts.seat
    simp [acts.step?_eq, World.stepStage?, World.serve, World.serveWrite, discarded, Host.write]
  case closed =>
    intro stream v reached limit
    rw [input_of_redirect at_i.stage stream reached]
    rfl

end Runner

/-! ### A pipeline whose output is kept -/

/-- A single letter is looked up in the root. -/
theorem Host.walk_letter {h : Host} (p : Purpose) {c : Char} (letter : c = 'f' ∨ c = 'n')
    (free : h.tree.get [[c]] = none) : h.walk p ['/', c] = .ok (.vacant [] [c]) := by
  have root : h.tree.isDirectoryAt [] = true := rfl
  have short : ¬ nameLimit < (utf8 [c]).length := by rcases letter with rfl | rfl <;> decide
  have followed : h.tree.follow p linkLimit [] [[c]] = .ok (.vacant [] [c]) := by
    rw [Tree.follow_name root (by rcases letter with rfl | rfl <;> decide)
      (by rcases letter with rfl | rfl <;> decide) (by simp) short, List.nil_append, free]
    rfl
  have within : ¬ (pathLimit ≤ (utf8 ['/', c]).length ∧ ¬ ['/', c].contains (Char.ofNat 0) = true) := by
    rcases letter with rfl | rfl <;> decide
  have noNull : ¬ ['/', c].contains (Char.ofNat 0) = true := by rcases letter with rfl | rfl <;> decide
  have names : components ['/', c] = [[c]] := by rcases letter with rfl | rfl <;> decide
  have absolute : isAbsolute ['/', c] = true := rfl
  unfold Host.walk Tree.walk Tree.walkFar
  rw [if_neg within, if_neg noNull, if_neg (by simp), names, if_pos absolute, followed]

theorem Host.isDirectory_root (h : Host) : h.isDirectory ['/'] = true := by
  have within : ¬ (pathLimit ≤ (utf8 ['/']).length ∧ ¬ ['/'].contains (Char.ofNat 0) = true) := by decide
  have names : components ['/'] = [[]] := by decide
  have absolute : isAbsolute ['/'] = true := rfl
  have followed : h.tree.follow .use linkLimit [] [[]] = .ok (.found [] .directory) := by
    have idle : isIdle [] = true := rfl
    simp [Tree.follow, Tree.get, Tree.isDirectoryAt, idle]
  have walked : h.walk .use ['/'] = .ok (.found [] .directory) := by
    unfold Host.walk Tree.walk Tree.walkFar
    rw [if_neg within, if_neg (by decide), if_neg (by simp), names, if_pos absolute, followed]
  simp [isDirectory, node?, walked]

namespace Runner

/-- A host with one file, which is empty and open. -/
def openedHost : Host := { tree := ⟨[([['f']], .file 0)]⟩, files := [{}], handles := [{ backing := .file 0 }] }

theorem openTarget_blank : ({} : Host).openTarget ['/'] ⟨['f'], .overwrite⟩ = (openedHost, .ok (.file 0)) := by
  have path : joinPath ['/'] ['f'] = ['/', 'f'] := by decide
  have parent : parentPath ['/', 'f'] = some ['/'] := by decide
  have opened : ({} : Host).openForWriting ['/', 'f'] .overwrite = .ok (openedHost, 0) := by
    rw [Host.openForWriting_eq, Host.walk_letter .create (.inl rfl) rfl]
    rfl
  simp [Host.openTarget, path, parent, Host.isDirectory_root, Option.filter, opened]

/-- Two builtins that write a letter; that of the first one is kept in a file. -/
def letterKept : Pipeline := ⟨[⟨[['a']], { out := some ⟨['f'], .overwrite⟩ }⟩, ⟨[['a']], {}⟩]⟩

theorem scene_letterKept : (lettered.start letterKept { cwd := ['/'] } {}).host.scene = openedHost.scene := by
  have found : lettered.registry.find? ['a'] = some ⟨['a'], fun _ => .write .out [65] fun _ => .done {}⟩ := by rfl
  simp [Runner.start, startStages, startStage, letterKept, openAny, openTarget_blank, Except.map, seatStage,
    Stage.name, found, seatBuiltin, Join.intoBuiltin]

/-- The letter is written to the file, or discarded. -/
theorem discards_of_missing_letterKept :
    ∃ s g seat,
      ({} : Host).Sound ∧ lettered.Attached {} ∧ lettered.At letterKept { cwd := ['/'] } {} 0 s g seat ∧
        TargetOpens { cwd := ['/'] } g s .out ⟨['f'], .overwrite⟩ {} ∧
        ({} : Host).MissesParent (joinPath ['/'] ['n', '/', 'f']) ∧
        lettered.Spares letterKept { cwd := ['/'] } {} 0 .out
          (Context.footprint { cwd := ['/'] } {} ⟨['f'], .overwrite⟩ ['n', '/', 'f']) ∧
        lettered.Discards letterKept { cwd := ['/'] } {} 0 ⟨.out, .overwrite⟩ ['n', '/', 'f']
          (Context.footprint { cwd := ['/'] } {} ⟨['f'], .overwrite⟩ ['n', '/', 'f']) := by
  have sound : ({} : Host).Sound := by
    refine ⟨fun l number node => ?_, by simp, trivial⟩
    by_cases root : l = [] <;> simp [Tree.get, root] at node
  have attached : lettered.Attached {} := ⟨trivial, trivial⟩
  have at_0 : lettered.At letterKept { cwd := ['/'] } {} 0 _ {} _ := ⟨rfl, _, rfl, rfl⟩
  have opens : TargetOpens { cwd := ['/'] } {} ⟨[['a']], { out := some ⟨['f'], .overwrite⟩ }⟩
      (Operator.mk .out .overwrite).stream ⟨['f'], .overwrite⟩ {} := ⟨rfl, rfl, 0, by rw [openTarget_blank]⟩
  have misses : ({} : Host).MissesParent (joinPath ['/'] ['n', '/', 'f']) := by
    have nothing : ({} : Host).walk .use ['/', 'n'] = .ok (.vacant [] ['n']) := Host.walk_letter .use (.inr rfl) rfl
    exact ⟨['/', 'n'], by decide, by simp [Host.isDirectory, Host.node?, nothing]⟩
  have spares : lettered.Spares letterKept { cwd := ['/'] } {} 0 .out
      (Context.footprint { cwd := ['/'] } {} ⟨['f'], .overwrite⟩ ['n', '/', 'f']) := by
    have functional : lettered.programs.Functional :=
      { start := fun _ _ _ _ _ => rfl
        next := fun state change goOn same => by cases same }
    refine .of_functional functional (fun s _ b found => ?_) ?_ fun data => ?_
    · obtain rfl : b = _ := List.mem_singleton.1 (List.mem_of_find?_eq_some found)
      exact .write fun _ => .done _
    · rintro j s host g seat other t (after | ⟨-, other, -⟩) at_j - target
      · -- The last stage has no targets.
        have stage := at_j.stage
        obtain _ | _ | j := j
        · exact absurd after (Nat.lt_irrefl 0)
        · cases stage
          cases other <;> cases target
        · cases stage
      · cases other
    · rw [← Host.fault?_scene, scene_letterKept, Host.fault?_scene]
      rfl
  exact ⟨_, _, _, sound, attached, at_0, opens, misses, spares,
    discards_of_missing sound attached at_0 opens misses spares⟩

end Runner

end PipeShell
