import PipeShell.Proofs.Run.Alike
import PipeShell.Proofs.Run.Growth

/-!
# Starting a pipeline with a target that is discarded

Two pipelines are compared that differ by the target of one stream: in the one it is opened, in the other there is no
directory for it.  The stages before start the same.  The stage itself opens its streams alike but for the footprint
of the target (`Runner.TargetOpens.openBoth_alike`), and from there on all stages start alike
(`Runner.startStages_alike`), provided that none of them looks at the target (`Runner.TurnSpares`).  So all seats are
the same but for where that stream goes (`Runner.startStages_redirect`).
-/

namespace PipeShell

/-- The stage with a stream redirected to another path. -/
def Stage.redirect (s : Stage) (op : Operator) (path : Text) : Stage :=
  { s with redirections := s.redirections.set op path }

/-- The pipeline with a stream of stage `i` redirected to another path. -/
def Pipeline.redirect (p : Pipeline) (i : Nat) (op : Operator) (path : Text) : Pipeline :=
  ⟨p.stages.modify i fun s => s.redirect op path⟩

/-- What is left on the host when a target is opened, and when output for `path` is discarded instead. -/
def Context.footprint (ctx : Context) (h : Host) (t : Target) (path : Text) : Footprint :=
  h.footprint (joinPath ctx.cwd t.path) (joinPath ctx.cwd path)

namespace Runner

variable {σ : Type} {r : Runner σ} {p : Pipeline} {ctx : Context} {f : Footprint} {g g' h h' : Host} {s : Stage}
  {isLast : Bool} {input : Join} {out : Output} {err : Destination} {stream : StdStream}

/-- In the turn of a stage on the host `h` nothing has to do with the target of the footprint: neither do the targets of
these streams, nor does the start of a program. -/
structure TurnSpares (r : Runner σ) (ctx : Context) (f : Footprint) (h : Host) (s : Stage) (isLast : Bool)
    (streams : StdStream → Prop) : Prop where
  /-- Other targets are opened on paths that do not lead to the file, and not through it. -/
  targets : ∀ {stream : StdStream} {g : Host} {t : Target}, streams stream → onOpening ctx h s stream = some g →
    s.redirections.get stream = some t → f.Overlooked g (joinPath ctx.cwd t.path)
  /-- It does not matter to the system whether the target is there, and neither where the streams go. -/
  starts : ∀ {g : Host} {out : Output} {err : Destination} {path : Text}, Opens r ctx h s isLast g out err →
    r.registry.find? s.name = none → g.program? ctx s.name = some path →
      ∀ (g' : Host) (out' err' : Destination), Host.AlikeBut f g g' →
        r.programs.start { launch g ctx s path out err with out := out', err := err' } g' =
          r.programs.start (launch g ctx s path out err) g

theorem TurnSpares.overlooks_err {streams : StdStream → Prop} (spares : r.TurnSpares ctx f h s isLast streams)
    (behind : streams .err) (t : Target) (target : s.redirections.err = some t) :
    f.Overlooked h (joinPath ctx.cwd t.path) := spares.targets behind rfl target

theorem TurnSpares.overlooks_out {streams : StdStream → Prop} {d : Option Destination}
    (spares : r.TurnSpares ctx f h s isLast streams) (behind : streams .out)
    (first : openAny h ctx.cwd s.redirections.err = (g, .ok d)) (t : Target) (target : s.redirections.out = some t) :
    f.Overlooked g (joinPath ctx.cwd t.path) :=
  spares.targets behind (show onOpening ctx h s .out = some g by simp [onOpening, first]) target

end Runner

namespace Started

variable {σ : Type} {f : Footprint} {t t' : Started σ}

/-- What comes of a turn where a target is open, and where its output is discarded. -/
structure AlikeBut (f : Footprint) (t t' : Started σ) : Prop where
  host : Host.AlikeBut f t.host t'.host
  seat : t'.seat = f.seat t.seat
  offer : t'.offer = t.offer

end Started

namespace Host.AlikeBut

variable {σ : Type} {r : Runner σ} {ctx : Context} {f : Footprint} {g g' : Host} {s : Stage} {isLast : Bool}
  {input : Join} {out : Output} {err : Destination} {name : Text}

/-! ### Turns -/

/-- A record is kept alike, if there is one. -/
theorem noteAny (alike : AlikeBut f g g') (text : Option Text) : AlikeBut f (g.noteAny text) (g'.noteAny text) := by
  cases text with
  | none => exact alike
  | some text => exact alike.note _ _

theorem giveUp (alike : AlikeBut f g g') (name : Text) (fate : Fate) (input : Join) :
    (Runner.giveUp (σ := σ) g name fate input).AlikeBut f (Runner.giveUp g' name fate input) where
  host := by
    obtain ⟨text, noted⟩ := input.exists_intoNothing name
    simp only [Runner.giveUp, noted]
    exact alike.noteAny text
  seat := by
    simp only [Runner.giveUp, Join.intoNothing_snd]
    rfl
  offer := rfl

theorem seatBuiltin (alike : AlikeBut f g g') (b : Builtin) :
    (r.seatBuiltin g ctx s b out err input).AlikeBut f
      (r.seatBuiltin g' ctx s b (f.output out) (f.destination err) input) where
  host := by
    obtain ⟨text, noted⟩ := input.exists_intoBuiltin s.name
    simp only [Runner.seatBuiltin, noted]
    exact (alike.note _ _).noteAny text
  seat := by
    simp only [Runner.seatBuiltin, Join.intoBuiltin_snd]
    rfl
  offer := by cases out <;> rfl

theorem seatProgram {path : Text} (alike : AlikeBut f g g')
    (starts : ∀ out' err' : Destination,
      r.programs.start { Runner.launch g ctx s path out err with out := out', err := err' } g' =
        r.programs.start (Runner.launch g ctx s path out err) g) :
    (r.seatProgram g ctx s path out err input).AlikeBut f
      (r.seatProgram g' ctx s path (f.output out) (f.destination err) input) := by
  have same : r.programs.start (Runner.launch g' ctx s path (f.output out) (f.destination err)) g' =
      r.programs.start (Runner.launch g ctx s path out err) g := by
    rw [← starts (f.output out).destination (f.destination err)]
    simp only [Runner.launch, alike.inherited]
  unfold Runner.launch at same
  unfold Runner.seatProgram
  rw [same]
  split
  · exact ((alike.note _ _).report _ _).giveUp _ _ _
  · rename_i state _
    have noted := alike.note .debug ("stage ".toList ++ s.name ++ ": spawned ".toList ++ path ++ " as pid ".toList ++
      showNat g.nextProcess)
    have counted : AlikeBut f { g.note .debug _ with nextProcess := _ + 1 }
        { g'.note .debug _ with nextProcess := _ + 1 } :=
      { noted with nextProcess := congrArg (· + 1) noted.nextProcess }
    obtain ⟨text, kept⟩ := input.exists_intoProgram s.name
    simp only [alike.nextProcess, kept]
    exact
      { host := counted.noteAny text
        seat := by
          simp only [Join.intoProgram_snd]
          rfl
        offer := by cases out <;> rfl }

theorem seatStage (alike : AlikeBut f g g')
    (starts : ∀ path, r.registry.find? s.name = none → g.program? ctx s.name = some path →
      ∀ out' err' : Destination,
        r.programs.start { Runner.launch g ctx s path out err with out := out', err := err' } g' =
          r.programs.start (Runner.launch g ctx s path out err) g) :
    (r.seatStage g ctx s out err input).AlikeBut f (r.seatStage g' ctx s (f.output out) (f.destination err) input) := by
  unfold Runner.seatStage
  cases found : r.registry.find? s.name with
  | some b => exact alike.seatBuiltin b
  | none =>
    simp only [alike.program?_eq]
    cases found' : g.program? ctx s.name with
    | some path => exact alike.seatProgram (starts path found found')
    | none => exact ((alike.note _ _).report _ _).giveUp _ _ _

theorem openAny {t : Option Target} (alike : AlikeBut f g g') (cwd : Text)
    (overlooked : ∀ target, t = some target → f.Overlooked g (joinPath cwd target.path)) :
    AlikeBut f (Runner.openAny g cwd t).1 (Runner.openAny g' cwd t).1 ∧
      (Runner.openAny g' cwd t).2 = (Runner.openAny g cwd t).2.map (Option.map f.destination) := by
  cases t with
  | none => exact ⟨alike, rfl⟩
  | some target =>
    obtain ⟨alike', same⟩ := alike.openTarget cwd (overlooked target rfl)
    refine ⟨alike', ?_⟩
    simp only [Runner.openAny, same]
    cases (g.openTarget cwd target).2 <;> rfl

end Host.AlikeBut

namespace Footprint

variable (f : Footprint)

/-- The streams of a stage, or what has gone wrong, where the output is discarded. -/
def opened : Except (Destination × StartFailure) (Output × Destination) →
    Except (Destination × StartFailure) (Output × Destination)
  | .error (err, failure) => .error (f.destination err, failure)
  | .ok (out, err) => .ok (f.output out, f.destination err)

end Footprint

namespace Runner

variable {σ : Type} {r : Runner σ} {p : Pipeline} {ctx : Context} {f : Footprint} {g g' h h' : Host} {s : Stage}
  {isLast : Bool} {input : Join} {out : Output} {err : Destination} {stages : List Stage}

/-- The terminal streams of the runner are where they were. -/
structure Keeps (r : Runner σ) (f : Footprint) : Prop where
  out : f.destination r.out = r.out
  err : f.destination r.err = r.err

theorem Attached.keeps (attached : r.Attached h) (handle : f.handle = h.handles.length) : r.Keeps f :=
  ⟨Host.destination_of_holds handle attached.out, Host.destination_of_holds handle attached.err⟩

/-- The target of the standard output is opened alike, and so are both streams. -/
theorem openBoth_of_err {s' : Stage} {g₁ g₁' : Host} {d : Option Destination} (keeps : r.Keeps f)
    (first : openAny g ctx.cwd s.redirections.err = (g₁, .ok d))
    (first' : openAny g' ctx.cwd s'.redirections.err = (g₁', .ok (d.map f.destination)))
    (same : s'.redirections.out = s.redirections.out) (alike : Host.AlikeBut f g₁ g₁')
    (overlooked : ∀ t, s.redirections.out = some t → f.Overlooked g₁ (joinPath ctx.cwd t.path)) :
    Host.AlikeBut f (r.openBoth ctx g s isLast).1 (r.openBoth ctx g' s' isLast).1 ∧
      (r.openBoth ctx g' s' isLast).2 = f.opened (r.openBoth ctx g s isLast).2 := by
  have err : (d.map f.destination).getD r.err = f.destination (d.getD r.err) := by
    cases d with
    | none => exact keeps.err.symm
    | some d => rfl
  obtain ⟨alike', outcome⟩ := alike.openAny ctx.cwd overlooked
  unfold openBoth
  rw [first, first', same]
  dsimp only
  generalize openAny g₁ ctx.cwd s.redirections.out = second at alike' outcome ⊢
  generalize openAny g₁' ctx.cwd s.redirections.out = second' at alike' outcome ⊢
  obtain ⟨g₂, _ | d'⟩ := second
  · obtain ⟨g₂', _⟩ := second'
    cases outcome
    exact ⟨alike', by simp only [Footprint.opened, err]⟩
  · obtain ⟨g₂', _⟩ := second'
    cases outcome
    refine ⟨alike', ?_⟩
    simp only [Footprint.opened, err]
    cases d' with
    | some d' => rfl
    | none =>
      cases isLast with
      | true => simp [Footprint.output, keeps.out]
      | false => rfl

/-- A stage opens its streams alike. -/
theorem openBoth_alike (keeps : r.Keeps f) (alike : Host.AlikeBut f g g')
    (spares : r.TurnSpares ctx f g s isLast fun _ => True) :
    Host.AlikeBut f (r.openBoth ctx g s isLast).1 (r.openBoth ctx g' s isLast).1 ∧
      (r.openBoth ctx g' s isLast).2 = f.opened (r.openBoth ctx g s isLast).2 := by
  obtain ⟨alike', outcome⟩ := alike.openAny ctx.cwd (spares.overlooks_err trivial)
  rcases first : openAny g ctx.cwd s.redirections.err with ⟨g₁, failure | d⟩
  · rw [first] at alike' outcome
    have first' : openAny g' ctx.cwd s.redirections.err = (_, .error failure) := Prod.ext rfl outcome
    unfold openBoth
    rw [first, first']
    rw [first'] at alike'
    exact ⟨alike', by simp only [Footprint.opened, keeps.err]⟩
  · rw [first] at alike' outcome
    have first' : openAny g' ctx.cwd s.redirections.err = (_, .ok (d.map f.destination)) := Prod.ext rfl outcome
    exact openBoth_of_err keeps first first' rfl alike' (spares.overlooks_out trivial first)

/-- A stage takes its seat alike if it has opened its streams alike. -/
theorem startStage_alike {s' : Stage} (words : s'.argv = s.argv)
    (alike : Host.AlikeBut f (r.openBoth ctx g s isLast).1 (r.openBoth ctx g' s' isLast).1)
    (outcome : (r.openBoth ctx g' s' isLast).2 = f.opened (r.openBoth ctx g s isLast).2)
    (starts : ∀ {g₂ : Host} {out : Output} {err : Destination} {path : Text}, Opens r ctx g s isLast g₂ out err →
      r.registry.find? s.name = none → g₂.program? ctx s.name = some path →
        ∀ (g' : Host) (out' err' : Destination), Host.AlikeBut f g₂ g' →
          r.programs.start { launch g₂ ctx s path out err with out := out', err := err' } g' =
            r.programs.start (launch g₂ ctx s path out err) g₂)
    (input : Join) :
    (r.startStage g ctx s input isLast).AlikeBut f (r.startStage g' ctx s' input isLast) := by
  have name : s'.name = s.name := congrArg (List.headD · []) words
  have seat : ∀ (h : Host) (out : Output) (err : Destination),
      r.seatStage h ctx s' out err input = r.seatStage h ctx s out err input := fun h out err => by
    simp only [seatStage, seatBuiltin, seatProgram, name, words]
  rw [startStage_of_openBoth, startStage_of_openBoth, name]
  simp only [seat]
  rcases opened : r.openBoth ctx g s isLast with ⟨g₂, ⟨err, failure⟩ | ⟨out, err⟩⟩
  · rw [opened] at alike outcome
    generalize r.openBoth ctx g' s' isLast = opened' at alike outcome ⊢
    obtain ⟨g₂', _⟩ := opened'
    cases outcome
    exact (alike.report err failure.message).giveUp _ _ _
  · have opens := opens_of_openBoth opened
    rw [opened] at alike outcome
    generalize r.openBoth ctx g' s' isLast = opened' at alike outcome ⊢
    obtain ⟨g₂', _⟩ := opened'
    cases outcome
    exact alike.seatStage fun path notBuiltin found out' err' => starts opens notBuiltin found g₂' out' err' alike

/-- Stages that come after the target has been opened, or discarded, start alike. -/
theorem startStages_alike (keeps : r.Keeps f) (alike : Host.AlikeBut f h h') (input : Join)
    (spares : ∀ {j : Nat} {s : Stage} {host : Host} {t : Started σ}, stages[j]? = some s →
      (r.turns ctx h input stages)[j]? = some (host, t) →
        r.TurnSpares ctx f host s (decide (j + 1 = stages.length)) fun _ => True) :
    Host.AlikeBut f (r.startStages ctx h input stages).1 (r.startStages ctx h' input stages).1 ∧
      (r.startStages ctx h' input stages).2 = (r.startStages ctx h input stages).2.map f.seat := by
  induction stages generalizing h h' input with
  | nil => exact ⟨alike, rfl⟩
  | cons s rest ih =>
    have own := spares (j := 0) rfl rfl
    have isLast : decide (0 + 1 = (s :: rest).length) = rest.isEmpty := by cases rest <;> simp
    rw [isLast] at own
    obtain ⟨opened, outcome⟩ := openBoth_alike keeps alike own
    have started := startStage_alike rfl opened outcome own.starts input
    have later := ih started.host (r.startStage h ctx s input rest.isEmpty).offer
      fun {j} {_} {_} {_} stage turn => by
        have last : decide (j + 1 + 1 = (s :: rest).length) = decide (j + 1 = rest.length) := by simp
        rw [← last]
        exact spares (j := j + 1) stage turn
    simp only [startStages, started.offer]
    exact ⟨later.1, by rw [later.2, started.seat, List.map_cons]⟩

/-! ### The stage that is redirected -/

/-- The target of a stream is opened on the host `g₁`, in the turn of the stage on `g`. -/
structure TargetOpens (ctx : Context) (g : Host) (s : Stage) (stream : StdStream) (t : Target) (g₁ : Host) : Prop where
  target : s.redirections.get stream = some t
  onto : onOpening ctx g s stream = some g₁
  opened : ∃ handle, (g₁.openTarget ctx.cwd t).2 = .ok (.file handle)

variable {op : Operator} {path : Text} {t : Target} {g₁ : Host}

/-- Opening the target leaves its footprint, and discarding leaves a record. -/
theorem TargetOpens.alike (sound : g₁.Sound) (opens : TargetOpens ctx g s op.stream t g₁)
    (misses : g₁.MissesParent (joinPath ctx.cwd path)) :
    (g₁.openTarget ctx.cwd t).2 = .ok (.file (ctx.footprint g₁ t path).handle) ∧
      (g₁.openTarget ctx.cwd ⟨path, op.mode⟩).2 = .ok .nowhere ∧
      Host.AlikeBut (ctx.footprint g₁ t path) (g₁.openTarget ctx.cwd t).1
        (g₁.openTarget ctx.cwd ⟨path, op.mode⟩).1 := by
  obtain ⟨handle, opened⟩ := opens.opened
  rw [Host.openTarget_of_missesParent misses op.mode]
  unfold Host.openTarget at opened ⊢
  dsimp only at opened ⊢
  split at opened
  · cases opened
  · split at opened
    · rename_i h' handle' opened'
      obtain ⟨rfl, alike⟩ := Host.alikeBut_opened sound opened' (joinPath ctx.cwd path)
      obtain ⟨out, err⟩ := Host.terminal_of_openForWriting opened'
      exact ⟨rfl, rfl, alike.note_right sound out err⟩
    · cases opened

/-- The stage opens its streams alike, but for the one that is redirected. -/
theorem TargetOpens.openBoth_alike (sound : g.Sound) (attached : r.Attached g)
    (opens : TargetOpens ctx g s op.stream t g₁) (misses : g.MissesParent (joinPath ctx.cwd path))
    (spares : r.TurnSpares ctx (ctx.footprint g₁ t path) g s isLast fun stream =>
      op.stream = .err ∧ stream = .out) :
    Host.AlikeBut (ctx.footprint g₁ t path) (r.openBoth ctx g s isLast).1
        (r.openBoth ctx g (s.redirect op path) isLast).1 ∧
      (r.openBoth ctx g (s.redirect op path) isLast).2 =
        (ctx.footprint g₁ t path).opened (r.openBoth ctx g s isLast).2 := by
  obtain ⟨stream, mode⟩ := op
  cases stream with
  | err =>
    obtain rfl : g = g₁ := by simpa [onOpening] using opens.onto
    obtain ⟨opened, discarded, alike⟩ := opens.alike sound misses
    have target : s.redirections.err = some t := opens.target
    have first : openAny g ctx.cwd s.redirections.err =
        ((g.openTarget ctx.cwd t).1, .ok (some (.file (ctx.footprint g t path).handle))) := by
      simp [openAny, target, opened, Except.map]
    have first' : openAny g ctx.cwd (s.redirect ⟨.err, mode⟩ path).redirections.err =
        ((g.openTarget ctx.cwd ⟨path, mode⟩).1, .ok (some .nowhere)) := by
      simp [openAny, Stage.redirect, Redirections.set, discarded, Except.map]
    refine openBoth_of_err (attached.keeps rfl) first ?_ rfl alike (spares.overlooks_out ⟨rfl, rfl⟩ first)
    rw [first', Option.map_some, Footprint.destination_handle]
  | out =>
    have target : s.redirections.out = some t := opens.target
    obtain ⟨d, first⟩ := openAny_of_onOpening opens.onto
    obtain ⟨grows, holds⟩ := openAny_grows sound ctx.cwd s.redirections.err
    rw [first] at grows holds
    obtain ⟨opened, discarded, alike⟩ := opens.alike grows.sound (grows.missesParent misses)
    have err : (ctx.footprint g₁ t path).destination (d.getD r.err) = d.getD r.err := by
      refine Host.destination_of_holds rfl ?_
      cases d with
      | some d => exact holds d rfl
      | none => exact grows.holds attached.err
    have second : openAny g₁ ctx.cwd s.redirections.out =
        ((g₁.openTarget ctx.cwd t).1, .ok (some (.file (ctx.footprint g₁ t path).handle))) := by
      simp [openAny, target, opened, Except.map]
    have second' : openAny g₁ ctx.cwd (s.redirect ⟨.out, mode⟩ path).redirections.out =
        ((g₁.openTarget ctx.cwd ⟨path, mode⟩).1, .ok (some .nowhere)) := by
      simp [openAny, Stage.redirect, Redirections.set, discarded, Except.map]
    have same : (s.redirect ⟨.out, mode⟩ path).redirections.err = s.redirections.err := rfl
    unfold openBoth
    simp only [same, first, second, second']
    refine ⟨alike, ?_⟩
    simp only [Option.map_some, Option.getD_some, Footprint.opened, Footprint.output, Footprint.destination_handle, err]

/-- A stage that has had its turn before has nothing to do with the target. -/
theorem Stands.seat_eq {t : Started σ} (stands : Stands h t) (grows : t.host.Grows g)
    (handle : f.handle = g.handles.length) : f.seat t.seat = t.seat := by
  have out : f.output t.seat.out = t.seat.out := by
    cases target : t.seat.out with
    | nextStage => rfl
    | «to» d => exact congrArg Output.to (Host.destination_of_holds handle (grows.holds (stands.out d target)))
  have err : f.destination t.seat.err = t.seat.err := Host.destination_of_holds handle (grows.holds stands.err)
  simp only [Footprint.seat, out, err]

/-- **The stages start alike**, whether the target of one of them is opened or its output is discarded. -/
theorem startStages_redirect {i : Nat} {started : Started σ} (sound : h.Sound) (attached : r.Attached h)
    (stage : stages[i]? = some s) (turn : (r.turns ctx h input stages)[i]? = some (g, started))
    (opens : TargetOpens ctx g s op.stream t g₁) (misses : h.MissesParent (joinPath ctx.cwd path))
    (own : r.TurnSpares ctx (ctx.footprint g₁ t path) g s (decide (i + 1 = stages.length)) fun stream =>
      op.stream = .err ∧ stream = .out)
    (later : ∀ {j : Nat} {s : Stage} {host : Host} {t' : Started σ}, i < j → stages[j]? = some s →
      (r.turns ctx h input stages)[j]? = some (host, t') →
        r.TurnSpares ctx (ctx.footprint g₁ t path) host s (decide (j + 1 = stages.length))
          fun _ => True) :
    Host.AlikeBut (ctx.footprint g₁ t path) (r.startStages ctx h input stages).1
        (r.startStages ctx h input (stages.modify i fun s => s.redirect op path)).1 ∧
      (r.startStages ctx h input (stages.modify i fun s => s.redirect op path)).2 =
        (r.startStages ctx h input stages).2.map (ctx.footprint g₁ t path).seat := by
  induction stages generalizing h input i with
  | nil => cases stage
  | cons s₀ rest ih =>
    cases i with
    | zero =>
      cases stage
      cases turn
      have isLast : decide (0 + 1 = (s :: rest).length) = rest.isEmpty := by cases rest <;> simp
      rw [isLast] at own
      have keeps : r.Keeps (ctx.footprint g₁ t path) :=
        (attached.of_grows (grows_onOpening sound opens.onto)).keeps rfl
      obtain ⟨opened, outcome⟩ := opens.openBoth_alike sound attached misses own
      have words : (s.redirect op path).argv = s.argv := rfl
      have started := startStage_alike words opened outcome own.starts input
      have behind := startStages_alike keeps started.host (r.startStage g ctx s input rest.isEmpty).offer
        fun {j} {_} {_} {_} stage turn => by
          have last : decide (j + 1 + 1 = (s :: rest).length) = decide (j + 1 = rest.length) := by simp
          rw [← last]
          exact later (Nat.zero_lt_succ j) stage turn
      simp only [List.modify_zero_cons, startStages, started.offer]
      exact ⟨behind.1, by rw [behind.2, started.seat, List.map_cons]⟩
    | succ i =>
      have stands := startStage_stands sound attached ctx s₀ input rest.isEmpty
      have before := grows_turns stands.grows.sound (attached.of_grows stands.grows) turn
      have seat := stands.seat_eq (before.trans (grows_onOpening before.sound opens.onto))
        (show (ctx.footprint g₁ t path).handle = g₁.handles.length from rfl)
      have last : ∀ j, decide (j + 1 + 1 = (s₀ :: rest).length) = decide (j + 1 = rest.length) := by simp
      have behind := ih stands.grows.sound (attached.of_grows stands.grows) stage turn
        (stands.grows.missesParent misses) (by rw [← last]; exact own) fun {j} {_} {_} {_} after stage turn => by
          rw [← last]
          exact later (Nat.succ_lt_succ after) stage turn
      have isEmpty : (rest.modify i fun s => s.redirect op path).isEmpty = rest.isEmpty := by
        rw [Bool.eq_iff_iff, List.isEmpty_iff_length_eq_zero, List.isEmpty_iff_length_eq_zero, List.length_modify]
      simp only [List.modify_succ_cons, startStages, isEmpty]
      exact ⟨behind.1, by rw [behind.2, List.map_cons, seat]⟩

end Runner

end PipeShell
