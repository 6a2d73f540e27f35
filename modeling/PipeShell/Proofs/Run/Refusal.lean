import PipeShell.Proofs.Run.Turn

/-!
# Stages that do not start

A stage does not start if one of its targets cannot be opened, or else if it is no builtin and no program of its name
is found, or else if the system refuses to start the program: `Runner.refusal?` decides this in that order, and says
where the failure is reported; `Runner.Refuses` lists the reasons.  The turn of such a stage does nothing else
(`Runner.startStage_of_refusal?`), and a stage that has no such reason starts (`Runner.startStage_of_started`).
-/

namespace PipeShell

/-- Why a stage does not start: the status that this gives, the host when it is found out, and what is reported to
which destination. -/
structure Refusal where
  fate : Fate
  host : Host
  err : Destination
  failure : StartFailure

namespace Runner

variable {σ : Type} {r : Runner σ} {ctx : Context} {h h' : Host} {s : Stage} {isLast : Bool} {refusal : Refusal}

/-- Opens the streams of a stage.  A failure comes with the destination that it is reported to. -/
def openBoth (r : Runner σ) (ctx : Context) (h : Host) (s : Stage) (isLast : Bool) :
    Host × Except (Destination × StartFailure) (Output × Destination) :=
  match openAny h ctx.cwd s.redirections.err with
  | (h, .error failure) => (h, .error (r.err, failure))
  | (h, .ok err) =>
    match openAny h ctx.cwd s.redirections.out with
    | (h, .error failure) => (h, .error (err.getD r.err, failure))
    | (h, .ok out) => (h, .ok ((out.map .to).getD (if isLast then .to r.out else .nextStage), err.getD r.err))

/-- What the system is asked to start. -/
def launch (h : Host) (ctx : Context) (s : Stage) (path : Text) (out : Output) (err : Destination) : Launch :=
  ⟨path, s.argv, h.inherited.setAll ctx.vars, ctx.cwd, out.destination, err⟩

/-- Why a stage does not start, if it does not. -/
def refusal? (r : Runner σ) (ctx : Context) (h : Host) (s : Stage) (isLast : Bool) : Option Refusal :=
  match r.openBoth ctx h s isLast with
  | (h, .error (err, failure)) => some ⟨.notOpened, h, err, failure⟩
  | (h, .ok (out, err)) =>
    match r.registry.find? s.name with
    | some _ => none
    | none =>
      match h.program? ctx s.name with
      | none =>
        some ⟨.notFound, h.note .debug ("stage ".toList ++ s.name ++ ": not found".toList), err, .notFound s.name⟩
      | some path =>
        match r.programs.start (launch h ctx s path out err) h with
        | .ok _ => none
        | .error fault =>
          some ⟨.notStarted,
            h.note .debug ("stage ".toList ++ s.name ++ ": spawn failed: ".toList ++ fault.message), err,
            .notStarted s.name fault⟩

/-- The reasons not to start a stage. -/
inductive Refuses (r : Runner σ) (ctx : Context) (h : Host) (s : Stage) (isLast : Bool) : Refusal → Prop
  /-- The target of the standard error cannot be opened, which is reported to the terminal. -/
  | errTarget {h₁ : Host} {failure : StartFailure} (err : openAny h ctx.cwd s.redirections.err = (h₁, .error failure)) :
      Refuses r ctx h s isLast ⟨.notOpened, h₁, r.err, failure⟩
  /-- The target of the standard output cannot be opened, which is reported to the standard error of the stage, as is
  all that follows. -/
  | outTarget {h₁ h₂ : Host} {d : Option Destination} {failure : StartFailure}
      (err : openAny h ctx.cwd s.redirections.err = (h₁, .ok d))
      (out : openAny h₁ ctx.cwd s.redirections.out = (h₂, .error failure)) :
      Refuses r ctx h s isLast ⟨.notOpened, h₂, d.getD r.err, failure⟩
  /-- There is neither a builtin nor a program of this name. -/
  | notFound {h₂ : Host} {out : Output} {err : Destination} (opens : Opens r ctx h s isLast h₂ out err)
      (notBuiltin : r.registry.find? s.name = none) (missing : h₂.program? ctx s.name = none) :
      Refuses r ctx h s isLast
        ⟨.notFound, h₂.note .debug ("stage ".toList ++ s.name ++ ": not found".toList), err, .notFound s.name⟩
  /-- The system refuses to start the program. -/
  | notStarted {h₂ : Host} {out : Output} {err : Destination} {path : Text} {fault : Fault}
      (opens : Opens r ctx h s isLast h₂ out err) (notBuiltin : r.registry.find? s.name = none)
      (found : h₂.program? ctx s.name = some path)
      (refused : r.programs.start (launch h₂ ctx s path out err) h₂ = .error fault) :
      Refuses r ctx h s isLast
        ⟨.notStarted, h₂.note .debug ("stage ".toList ++ s.name ++ ": spawn failed: ".toList ++ fault.message), err,
          .notStarted s.name fault⟩

/-- Streams that have been opened are open. -/
theorem opens_of_openBoth {h₂ : Host} {out : Output} {err : Destination}
    (opened : r.openBoth ctx h s isLast = (h₂, .ok (out, err))) : Opens r ctx h s isLast h₂ out err := by
  unfold openBoth at opened
  rcases first : openAny h ctx.cwd s.redirections.err with ⟨h₁, failure | d⟩
  · rw [first] at opened
    cases opened
  · rw [first] at opened
    dsimp only at opened
    rcases second : openAny h₁ ctx.cwd s.redirections.out with ⟨h₂, failure | d'⟩
    · rw [second] at opened
      cases opened
    · rw [second] at opened
      cases opened
      exact ⟨⟨d, by rw [first], rfl⟩, ⟨d', by rw [first]; exact second, rfl⟩⟩

/-- A stream that has not been opened is a reason not to start. -/
theorem refuses_of_openBoth {h₂ : Host} {err : Destination} {failure : StartFailure}
    (refused : r.openBoth ctx h s isLast = (h₂, .error (err, failure))) :
    Refuses r ctx h s isLast ⟨.notOpened, h₂, err, failure⟩ := by
  unfold openBoth at refused
  rcases first : openAny h ctx.cwd s.redirections.err with ⟨h₁, failure' | d⟩
  · rw [first] at refused
    cases refused
    exact .errTarget first
  · rw [first] at refused
    dsimp only at refused
    rcases second : openAny h₁ ctx.cwd s.redirections.out with ⟨h₂, failure' | d'⟩
    · rw [second] at refused
      cases refused
      exact .outTarget first second
    · rw [second] at refused
      cases refused

theorem refuses_of_refusal? (refused : r.refusal? ctx h s isLast = some refusal) :
    Refuses r ctx h s isLast refusal := by
  unfold refusal? at refused
  rcases opened : r.openBoth ctx h s isLast with ⟨h₂, ⟨err, failure⟩ | ⟨out, err⟩⟩
  · rw [opened] at refused
    cases refused
    exact refuses_of_openBoth opened
  · rw [opened] at refused
    have opens := opens_of_openBoth opened
    dsimp only at refused
    split at refused
    · cases refused
    · rename_i notBuiltin
      split at refused
      · rename_i missing
        cases refused
        exact .notFound opens notBuiltin missing
      · rename_i path found
        split at refused
        · cases refused
        · rename_i fault failed
          cases refused
          exact .notStarted opens notBuiltin found failed

/-- Where its output goes does not matter to whether a stage starts, as long as it does not matter to the system. -/
theorem refusal?_of_blind
    (blind : ∀ (l : Launch) (out : Destination) (h : Host), r.programs.start { l with out } h = r.programs.start l h)
    (isLast isLast' : Bool) : r.refusal? ctx h s isLast = r.refusal? ctx h s isLast' := by
  unfold refusal? openBoth
  rcases openAny h ctx.cwd s.redirections.err with ⟨h₁, failure | d⟩
  · rfl
  · dsimp only
    rcases openAny h₁ ctx.cwd s.redirections.out with ⟨h₂, failure | d'⟩
    · rfl
    · have same : ∀ (path : Text) (out out' : Output), r.programs.start (launch h₂ ctx s path out (d.getD r.err)) h₂ =
          r.programs.start (launch h₂ ctx s path out' (d.getD r.err)) h₂ := fun path out out' =>
        blind (launch h₂ ctx s path out' (d.getD r.err)) out.destination h₂
      dsimp only
      cases r.registry.find? s.name with
      | some b => rfl
      | none =>
        cases h₂.program? ctx s.name with
        | none => rfl
        | some path =>
          dsimp only
          rw [same path _ ((d'.map .to).getD (if isLast' then .to r.out else .nextStage))]

/-- A stage opens both its streams, and then it takes its seat. -/
theorem startStage_of_openBoth (r : Runner σ) (h : Host) (ctx : Context) (s : Stage) (input : Join) (isLast : Bool) :
    r.startStage h ctx s input isLast =
      match r.openBoth ctx h s isLast with
      | (h, .error (err, failure)) => giveUp (h.report err failure.message) s.name .notOpened input
      | (h, .ok (out, err)) => r.seatStage h ctx s out err input := by
  unfold startStage openBoth
  rcases openAny h ctx.cwd s.redirections.err with ⟨h₁, failure | err⟩
  · rfl
  · dsimp only
    rcases openAny h₁ ctx.cwd s.redirections.out with ⟨h₂, failure | out⟩ <;> rfl

/-- A stage that does not start is reported, once, and does nothing. -/
theorem startStage_of_refusal? (refused : r.refusal? ctx h s isLast = some refusal) (input : Join) :
    r.startStage h ctx s input isLast =
      giveUp (refusal.host.report refusal.err refusal.failure.message) s.name refusal.fate input := by
  rw [startStage_of_openBoth]
  unfold refusal? at refused
  generalize r.openBoth ctx h s isLast = opened at refused ⊢
  rcases opened with ⟨h₁, ⟨err, failure⟩ | ⟨out, err⟩⟩
  · cases refused
    rfl
  · dsimp only [seatStage] at refused ⊢
    cases found : r.registry.find? s.name with
    | some b =>
      rw [found] at refused
      cases refused
    | none =>
      rw [found] at refused
      dsimp only at refused ⊢
      cases found' : h₁.program? ctx s.name with
      | none =>
        rw [found'] at refused
        cases refused
        rfl
      | some path =>
        rw [found'] at refused
        dsimp only [seatProgram, launch] at refused ⊢
        generalize r.programs.start _ h₁ = started at refused ⊢
        cases started with
        | ok state => cases refused
        | error fault =>
          cases refused
          rfl

/-- A stage that starts is a builtin or a program, with both its streams open. -/
theorem startStage_of_started (started : r.refusal? ctx h s isLast = none) :
    ∃ h₁ out err, r.openBoth ctx h s isLast = (h₁, .ok (out, err)) ∧
      ((∃ b, r.registry.find? s.name = some b ∧
          ∀ input, r.startStage h ctx s input isLast = r.seatBuiltin h₁ ctx s b out err input) ∨
        ∃ path state, r.registry.find? s.name = none ∧ h₁.program? ctx s.name = some path ∧
          r.programs.start (launch h₁ ctx s path out err) h₁ = .ok state ∧
          ∀ input, r.startStage h ctx s input isLast = r.seatProgram h₁ ctx s path out err input) := by
  simp only [startStage_of_openBoth]
  unfold refusal? at started
  generalize r.openBoth ctx h s isLast = opened at started ⊢
  rcases opened with ⟨h₁, ⟨err, failure⟩ | ⟨out, err⟩⟩
  · cases started
  · refine ⟨h₁, out, err, rfl, ?_⟩
    dsimp only [seatStage] at started ⊢
    cases found : r.registry.find? s.name with
    | some b => exact .inl ⟨b, rfl, fun input => rfl⟩
    | none =>
      rw [found] at started
      dsimp only at started ⊢
      cases found' : h₁.program? ctx s.name with
      | none =>
        rw [found'] at started
        cases started
      | some path =>
        rw [found'] at started
        dsimp only at started
        cases ok : r.programs.start (launch h₁ ctx s path out err) h₁ with
        | ok state => exact .inr ⟨path, state, rfl, rfl, ok, fun input => rfl⟩
        | error fault =>
          rw [ok] at started
          cases started

/-- What a stage is doing after its turn, if it starts. -/
theorem role_of_started (started : r.refusal? ctx h s isLast = none) (input : Join) :
    (r.startStage h ctx s input isLast).seat.actor.role =
      if (r.registry.find? s.name).isSome then .builtin else .program := by
  obtain ⟨h₁, out, err, -, ⟨b, found, seat⟩ | ⟨path, state, notBuiltin, -, ok, seat⟩⟩ := startStage_of_started started
  · rw [seat, found]
    rfl
  · rw [seat, notBuiltin]
    dsimp only [launch] at ok
    rw [seatProgram, ok]
    rfl

/-- A stage is idle after its turn if there is a reason not to start it, and then only. -/
theorem exists_refusal?_iff (input : Join) :
    (∃ refusal, r.refusal? ctx h s isLast = some refusal) ↔
      (r.startStage h ctx s input isLast).seat.actor.role = .idle := by
  constructor
  · rintro ⟨refusal, refused⟩
    rw [startStage_of_refusal? refused]
    rfl
  · intro idle
    cases refused : r.refusal? ctx h s isLast with
    | some refusal => exact ⟨refusal, rfl⟩
    | none =>
      rw [role_of_started refused] at idle
      split at idle <;> cases idle

end Runner

end PipeShell
