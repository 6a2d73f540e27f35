import PipeShell.Proofs.Run.Step
import PipeShell.Run.Runner

/-!
# The turn of a stage

The stages are started from left to right, and each finds the host and the offer that the one before it has left:
`Runner.turns` keeps the host on which the turn of each stage comes, beside what comes of the turn.

`Runner.Turn` lists the ways in which a turn can end.  It does not look at what the stage is offered, for nothing
about a turn depends on that but the join that the stage reads from: `Runner.startStage_cases` adds this join, which
is the offer handed to a builtin, a program or nobody, and the offer that is made to the next stage.
-/

namespace PipeShell

namespace Join

/-- What a stage that is connected to the next one offers it. -/
def offeredBy : Role → Join
  | .builtin => .channel {}
  | .program => .pipe {}
  | .idle => .absent

/-- What becomes of an offer to the stage `name`. -/
def handedTo (name : Text) (role : Role) (offer : Join) : Join :=
  match role, offer with
  | .builtin, .pipe p => .collecting p { label := "into ".toList ++ name } {}
  | .program, .channel c => .feeding c { label := "into ".toList ++ name } {}
  | .idle, .channel c => .draining c { label := "drain ".toList ++ name }
  | .idle, .pipe p => .pipe p.dropReader
  | _, j => j

/-- The join between the stage `name` and the one before it, if that is connected to it. -/
def between (name : Text) : Role → Role → Join
  | .idle, _ => .absent
  | .builtin, .builtin => .channel {}
  | .builtin, .program => .feeding {} { label := "into ".toList ++ name } {}
  | .builtin, .idle => .draining {} { label := "drain ".toList ++ name }
  | .program, .builtin => .collecting {} { label := "into ".toList ++ name } {}
  | .program, .program => .pipe {}
  | .program, .idle => .pipe (Pipe.dropReader {})

theorem handedTo_offeredBy (name : Text) (before role : Role) :
    (offeredBy before).handedTo name role = between name before role := by
  cases before <;> cases role <;> rfl

/-- Of nothing, nothing comes. -/
theorem handedTo_absent (name : Text) (role : Role) : Join.absent.handedTo name role = .absent := by
  cases role <;> rfl

theorem intoBuiltin_snd (h : Host) (name : Text) (j : Join) : (j.intoBuiltin h name).2 = j.handedTo name .builtin := by
  cases j <;> rfl

theorem intoProgram_snd (h : Host) (name : Text) (j : Join) : (j.intoProgram h name).2 = j.handedTo name .program := by
  cases j <;> rfl

theorem intoNothing_snd (h : Host) (name : Text) (j : Join) : (j.intoNothing h name).2 = j.handedTo name .idle := by
  cases j <;> rfl

end Join

/-- What the target of a stream that is opened on the host `h` is. -/
inductive Target.Opened (t : Target) (cwd : Text) (h : Host) : Destination → Prop
  /-- The directory that would hold the target is missing. -/
  | nowhere {parent : Text} (parent_eq : parentPath (joinPath cwd t.path) = some parent)
      (missing : h.isDirectory parent = false) : Target.Opened t cwd h .nowhere
  /-- The target is opened. -/
  | file {h' : Host} {handle : Nat}
      (present : ∀ parent, parentPath (joinPath cwd t.path) = some parent → h.isDirectory parent = true)
      (opened : h.openForWriting (joinPath cwd t.path) t.mode = .ok (h', handle)) :
      Target.Opened t cwd h (.file handle)

theorem Target.opened_of_openTarget {t : Target} {cwd : Text} {h h' : Host} {d : Destination}
    (opened : h.openTarget cwd t = (h', .ok d)) : t.Opened cwd h d := by
  unfold Host.openTarget at opened
  dsimp only at opened
  split at opened
  · rename_i parent hparent
    obtain ⟨parent_eq, missing⟩ := Option.filter_eq_some_iff.1 hparent
    simp only [Prod.mk.injEq, Except.ok.injEq] at opened
    rw [← opened.2]
    exact .nowhere parent_eq (by simpa using missing)
  · rename_i hparent
    have present := Option.filter_eq_none_iff.1 hparent
    split at opened
    · rename_i host handle hopen
      simp only [Prod.mk.injEq, Except.ok.injEq] at opened
      rw [← opened.2]
      exact .file (fun parent hp => by simpa using present parent hp) hopen
    · simp at opened

theorem Runner.openAny_eq_ok {t : Option Target} {cwd : Text} {h : Host} {d : Option Destination}
    (opened : (Runner.openAny h cwd t).2 = .ok d) :
    match t with
    | some t => ∃ d', d = some d' ∧ t.Opened cwd h d'
    | none => d = none := by
  cases t with
  | none =>
    obtain rfl : none = d := by simpa [Runner.openAny] using opened
    rfl
  | some t =>
    cases ho : (h.openTarget cwd t).2 with
    | error failure => simp [Runner.openAny, ho, Except.map] at opened
    | ok d' =>
      obtain rfl : some d' = d := by simpa [Runner.openAny, ho, Except.map] using opened
      exact ⟨d', rfl, Target.opened_of_openTarget (Prod.ext rfl ho)⟩

namespace Runner

variable {σ : Type} {r : Runner σ} {ctx : Context} {h host host' : Host} {s s' : Stage} {stages : List Stage}
  {isLast : Bool} {input : Join} {t t' : Started σ} {i : Nat}

/-- The two streams of a stage are open on `h₂`; its turn has come on `h`. -/
structure Opens (r : Runner σ) (ctx : Context) (h : Host) (s : Stage) (isLast : Bool) (h₂ : Host) (out : Output)
    (err : Destination) : Prop where
  /-- The standard error goes to its target, or else to the terminal. -/
  err : ∃ d, (openAny h ctx.cwd s.redirections.err).2 = .ok d ∧ err = d.getD r.err
  /-- The standard output goes to its target, or else to the terminal from the last stage and to the next one from
  all others. -/
  out : ∃ d, openAny (openAny h ctx.cwd s.redirections.err).1 ctx.cwd s.redirections.out = (h₂, .ok d) ∧
    out = (d.map .to).getD (if isLast then .to r.out else .nextStage)

/-- Where the standard error of a stage goes that has both its streams open. -/
theorem Opens.err_eq {h₂ : Host} {out : Output} {err : Destination} (opens : Opens r ctx h s isLast h₂ out err) :
    match s.redirections.err with
    | some target => target.Opened ctx.cwd h err
    | none => err = r.err := by
  obtain ⟨d, opened, rfl⟩ := opens.err
  cases ht : s.redirections.err with
  | some target =>
    rw [ht] at opened
    obtain ⟨d', rfl, hd'⟩ := openAny_eq_ok opened
    exact hd'
  | none =>
    rw [ht] at opened
    obtain rfl : d = none := openAny_eq_ok opened
    rfl

/-- Where the standard output of a stage goes that has both its streams open. -/
theorem Opens.out_eq {h₂ : Host} {out : Output} {err : Destination} (opens : Opens r ctx h s isLast h₂ out err) :
    match s.redirections.out with
    | some target => ∃ d, target.Opened ctx.cwd (openAny h ctx.cwd s.redirections.err).1 d ∧ out = .to d
    | none => out = if isLast then .to r.out else .nextStage := by
  obtain ⟨d, opened, rfl⟩ := opens.out
  have opened := congrArg Prod.snd opened
  cases ht : s.redirections.out with
  | some target =>
    rw [ht] at opened
    obtain ⟨d', rfl, hd'⟩ := openAny_eq_ok opened
    exact ⟨d', hd', rfl⟩
  | none =>
    rw [ht] at opened
    obtain rfl : d = none := openAny_eq_ok opened
    rfl

/-- What a stage is doing after its turn on the host `h`, and where its streams go. -/
inductive Turn (r : Runner σ) (ctx : Context) (h : Host) (s : Stage) (isLast : Bool) :
    Actor σ → Output → Destination → Prop
  /-- The target of the standard error cannot be opened. -/
  | errRefused {h₁ : Host} {failure : StartFailure}
      (err : openAny h ctx.cwd s.redirections.err = (h₁, .error failure)) :
      Turn r ctx h s isLast (.ended .notOpened) (.to .nowhere) .nowhere
  /-- The target of the standard output cannot be opened. -/
  | outRefused {h₁ h₂ : Host} {d : Option Destination} {failure : StartFailure}
      (err : openAny h ctx.cwd s.redirections.err = (h₁, .ok d))
      (out : openAny h₁ ctx.cwd s.redirections.out = (h₂, .error failure)) :
      Turn r ctx h s isLast (.ended .notOpened) (.to .nowhere) .nowhere
  | builtin {h₂ : Host} {out : Output} {err : Destination} {b : Builtin} (opens : Opens r ctx h s isLast h₂ out err)
      (found : r.registry.find? s.name = some b) :
      Turn r ctx h s isLast (.builtin (b.run ⟨s.argv, ctx, r.registry.names⟩)) out err
  | program {h₂ : Host} {out : Output} {err : Destination} {path : Text} {state : σ}
      (opens : Opens r ctx h s isLast h₂ out err) (notBuiltin : r.registry.find? s.name = none)
      (found : h₂.program? ctx s.name = some path)
      (started : r.programs.start ⟨path, s.argv, h₂.inherited.setAll ctx.vars, ctx.cwd, out.destination, err⟩ h₂ =
        .ok state) :
      Turn r ctx h s isLast (.process state) out err
  /-- The system refuses to start the program. -/
  | notStarted {h₂ : Host} {out : Output} {err : Destination} {path : Text} {fault : Fault}
      (opens : Opens r ctx h s isLast h₂ out err) (notBuiltin : r.registry.find? s.name = none)
      (found : h₂.program? ctx s.name = some path)
      (refused : r.programs.start ⟨path, s.argv, h₂.inherited.setAll ctx.vars, ctx.cwd, out.destination, err⟩ h₂ =
        .error fault) :
      Turn r ctx h s isLast (.ended .notStarted) (.to .nowhere) .nowhere
  /-- There is no program of this name. -/
  | notFound {h₂ : Host} {out : Output} {err : Destination} (opens : Opens r ctx h s isLast h₂ out err)
      (notBuiltin : r.registry.find? s.name = none) (missing : h₂.program? ctx s.name = none) :
      Turn r ctx h s isLast (.ended .notFound) (.to .nowhere) .nowhere

/-- What comes of a turn: the seat, whose input is the offer handed on, and the offer to the next stage. -/
structure Outcome (r : Runner σ) (ctx : Context) (h : Host) (s : Stage) (isLast : Bool) (input : Join)
    (t : Started σ) : Prop where
  turn : Turn r ctx h s isLast t.seat.actor t.seat.out t.seat.err
  name : t.seat.name = s.name
  input : t.seat.input = input.handedTo s.name t.seat.actor.role
  offer : t.offer = if t.seat.out = .nextStage then .offeredBy t.seat.actor.role else .absent

theorem Outcome.of_giveUp {host : Host} {fate : Fate} (turn : Turn r ctx h s isLast (.ended fate) (.to .nowhere) .nowhere) :
    Outcome r ctx h s isLast input (giveUp host s.name fate input) where
  turn := turn
  name := rfl
  input := Join.intoNothing_snd _ _ _
  offer := rfl

theorem Outcome.of_seatStage {h₂ : Host} {out : Output} {err : Destination}
    (opens : Opens r ctx h s isLast h₂ out err) :
    Outcome r ctx h s isLast input (r.seatStage h₂ ctx s out err input) := by
  unfold seatStage
  split
  · rename_i b found
    exact
      { turn := .builtin opens found
        name := rfl
        input := Join.intoBuiltin_snd _ _ _
        offer := rfl }
  · rename_i notBuiltin
    split
    · rename_i path found
      unfold seatProgram
      split
      · rename_i fault refused
        exact .of_giveUp (.notStarted opens notBuiltin found refused)
      · rename_i state started
        exact
          { turn := .program opens notBuiltin found started
            name := rfl
            input := Join.intoProgram_snd _ _ _
            offer := rfl }
    · rename_i missing
      exact .of_giveUp (.notFound opens notBuiltin missing)

theorem startStage_outcome (r : Runner σ) (h : Host) (ctx : Context) (s : Stage) (input : Join) (isLast : Bool) :
    Outcome r ctx h s isLast input (r.startStage h ctx s input isLast) := by
  unfold startStage
  split
  · rename_i h₁ failure err
    exact .of_giveUp (.errRefused err)
  · rename_i h₁ d err
    dsimp only
    split
    · rename_i h₂ failure out
      exact .of_giveUp (.outRefused err out)
    · rename_i h₂ d' out
      refine .of_seatStage ⟨⟨d, ?_, rfl⟩, ⟨d', ?_, rfl⟩⟩
      · rw [err]
      · rw [err]; exact out

/-- A stage without redirections that is a program, where one is found. -/
theorem startStage_of_program {argv : List Text} {path : Text}
    (notBuiltin : r.registry.find? (Stage.name ⟨argv, {}⟩) = none)
    (program : h.program? ctx (Stage.name ⟨argv, {}⟩) = some path) (input : Join) (isLast : Bool) :
    r.startStage h ctx ⟨argv, {}⟩ input isLast =
      r.seatProgram h ctx ⟨argv, {}⟩ path (if isLast then .to r.out else .nextStage) r.err input := by
  have seat : ∀ out err,
      r.seatStage h ctx ⟨argv, {}⟩ out err input = r.seatProgram h ctx ⟨argv, {}⟩ path out err input := by
    intro out err
    rw [seatStage, notBuiltin]
    dsimp only
    rw [program]
  exact seat _ _

/-! ### All turns -/

/-- What comes of the turns of all stages, each with the host on which the turn came. -/
def turns (r : Runner σ) (ctx : Context) (h : Host) (input : Join) : List Stage → List (Host × Started σ)
  | [] => []
  | s :: rest =>
    let started := r.startStage h ctx s input rest.isEmpty
    (h, started) :: r.turns ctx started.host started.offer rest

/-- What a stage is offered by the one before it. -/
def offeredTo (r : Runner σ) (ctx : Context) (h : Host) (input : Join) (stages : List Stage) : Nat → Join
  | 0 => input
  | i + 1 => ((r.turns ctx h input stages)[i]?.map fun turn => turn.2.offer).getD .absent

theorem length_turns (r : Runner σ) (ctx : Context) (h : Host) (input : Join) (stages : List Stage) :
    (r.turns ctx h input stages).length = stages.length := by
  induction stages generalizing h input with
  | nil => rfl
  | cons s rest ih => simp [turns, ih]

/-- The turns fill the seats. -/
theorem startStages_seats (r : Runner σ) (ctx : Context) (h : Host) (input : Join) (stages : List Stage) :
    (r.startStages ctx h input stages).2 = (r.turns ctx h input stages).map fun turn => turn.2.seat := by
  induction stages generalizing h input with
  | nil => rfl
  | cons s rest ih => simp [turns, startStages, ih]

/-- Each turn is that of its stage, on what the stage before offers. -/
theorem turns_eq (hs : stages[i]? = some s) (ht : (r.turns ctx h input stages)[i]? = some (host, t)) :
    t = r.startStage host ctx s (r.offeredTo ctx h input stages i) (decide (i + 1 = stages.length)) := by
  induction i generalizing h input stages with
  | zero =>
    cases stages with
    | nil => cases hs
    | cons s₀ rest =>
      simp only [turns, List.getElem?_cons_zero, Option.some.injEq, Prod.mk.injEq] at hs ht
      obtain ⟨rfl, rfl⟩ := ht
      subst hs
      have hlast : decide (0 + 1 = (s₀ :: rest).length) = rest.isEmpty := by cases rest <;> simp
      rw [hlast]
      rfl
  | succ i ih =>
    cases stages with
    | nil => cases hs
    | cons s₀ rest =>
      simp only [turns, List.getElem?_cons_succ] at hs ht
      have hlast : decide (i + 1 + 1 = (s₀ :: rest).length) = decide (i + 1 = rest.length) := by simp
      -- What the first stage offers is what the rest starts with.
      have hoffer : r.offeredTo ctx h input (s₀ :: rest) (i + 1) =
          r.offeredTo ctx (r.startStage h ctx s₀ input rest.isEmpty).host
            (r.startStage h ctx s₀ input rest.isEmpty).offer rest i := by
        cases i <;> rfl
      rw [hlast, hoffer]
      exact ih hs ht

theorem turns_outcome (hs : stages[i]? = some s) (ht : (r.turns ctx h input stages)[i]? = some (host, t)) :
    Outcome r ctx host s (decide (i + 1 = stages.length)) (r.offeredTo ctx h input stages i) t := by
  rw [turns_eq hs ht]
  exact startStage_outcome r host ctx s _ _

end Runner

end PipeShell
