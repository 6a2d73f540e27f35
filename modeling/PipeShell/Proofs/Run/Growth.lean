import PipeShell.Proofs.Host.Opening
import PipeShell.Proofs.Run.Refusal

/-!
# The host grows with every turn

A turn opens targets and reports what goes wrong, and that is all that it does to the host.  So on a host that is sound
each turn comes on a host that is sound, with the same directories (`Runner.grows_turns`), and the streams of a stage go
to handles that are there (`Runner.startStage_stands`).
-/

namespace PipeShell

/-- Adds a record of the level trace, if there is one to add. -/
def Host.noteAny (h : Host) : Option Text → Host
  | some text => h.note .trace text
  | none => h

namespace Join

variable (name : Text) (j : Join)

/-! A join is handed on with a record of its relay, if it has one. -/

theorem exists_intoBuiltin : ∃ text, ∀ h, (j.intoBuiltin h name).1 = h.noteAny text := by
  cases j with
  | pipe p => exact ⟨some _, fun _ => rfl⟩
  | absent | channel | feeding | collecting | draining => exact ⟨none, fun _ => rfl⟩

theorem exists_intoProgram : ∃ text, ∀ h, (j.intoProgram h name).1 = h.noteAny text := by
  cases j with
  | channel c => exact ⟨some _, fun _ => rfl⟩
  | absent | pipe | feeding | collecting | draining => exact ⟨none, fun _ => rfl⟩

theorem exists_intoNothing : ∃ text, ∀ h, (j.intoNothing h name).1 = h.noteAny text := by
  cases j with
  | channel c => exact ⟨some _, fun _ => rfl⟩
  | absent | pipe | feeding | collecting | draining => exact ⟨none, fun _ => rfl⟩

end Join

namespace Runner

variable {σ : Type} {r : Runner σ} {ctx : Context} {g g₁ h h' : Host} {s : Stage} {isLast : Bool} {input : Join}
  {out : Output} {err : Destination} {stages : List Stage}

/-- The host has the handles that the terminal streams of the runner go to, if they go to handles. -/
structure Attached (r : Runner σ) (h : Host) : Prop where
  out : h.Holds r.out
  err : h.Holds r.err

/-- What comes of a turn on the host `h` stands: the handles that the streams of the stage go to are there. -/
structure Stands (h : Host) (t : Started σ) : Prop where
  grows : h.Grows t.host
  out : ∀ d, t.seat.out = .to d → t.host.Holds d
  err : t.host.Holds t.seat.err

theorem Attached.of_grows (attached : r.Attached h) (grows : h.Grows h') : r.Attached h' :=
  ⟨grows.holds attached.out, grows.holds attached.err⟩

theorem openAny_grows (sound : h.Sound) (cwd : Text) (t : Option Target) :
    h.Grows (openAny h cwd t).1 ∧ ∀ d, (openAny h cwd t).2 = .ok (some d) → (openAny h cwd t).1.Holds d := by
  cases t with
  | none => exact ⟨.refl sound, nofun⟩
  | some t =>
    obtain ⟨grows, holds⟩ := Host.Grows.openTarget sound cwd t
    refine ⟨grows, fun d opened => holds d ?_⟩
    unfold openAny at opened
    dsimp only at opened
    cases outcome : (h.openTarget cwd t).2 with
    | error failure =>
      rw [outcome] at opened
      cases opened
    | ok d' =>
      rw [outcome] at opened
      cases opened
      rfl

theorem grows_openBoth (sound : h.Sound) (r : Runner σ) (ctx : Context) (s : Stage) (isLast : Bool) :
    h.Grows (r.openBoth ctx h s isLast).1 := by
  have first := (openAny_grows sound ctx.cwd s.redirections.err).1
  unfold openBoth
  generalize openAny h ctx.cwd s.redirections.err = opened at first
  rcases opened with ⟨h₁, failure | d⟩
  · exact first
  · have second := (openAny_grows first.sound ctx.cwd s.redirections.out).1
    dsimp only
    generalize openAny h₁ ctx.cwd s.redirections.out = opened at second
    rcases opened with ⟨h₂, failure | d'⟩ <;> exact first.trans second

/-- The streams of a stage go to handles that are there. -/
theorem Opens.holds {h₂ : Host} (opens : Opens r ctx h s isLast h₂ out err) (sound : h.Sound)
    (attached : r.Attached h) : (∀ d, out = .to d → h₂.Holds d) ∧ h₂.Holds err := by
  obtain ⟨⟨d, first, rfl⟩, d', second, rfl⟩ := opens
  obtain ⟨grows, holds⟩ := openAny_grows sound ctx.cwd s.redirections.err
  obtain ⟨grows', holds'⟩ := openAny_grows grows.sound ctx.cwd s.redirections.out
  rw [second] at grows' holds'
  have kept := attached.of_grows (grows.trans grows')
  constructor
  · intro e target
    cases d' with
    | some d' =>
      cases target
      exact holds' _ rfl
    | none =>
      cases isLast with
      | true =>
        cases target
        exact kept.out
      | false => cases target
  · cases d with
    | some d => exact grows'.holds (holds d first)
    | none => exact kept.err

theorem grows_noteAny (sound : h.Sound) (text : Option Text) : h.Grows (h.noteAny text) := by
  cases text with
  | none => exact .refl sound
  | some text => exact .note sound _ _

theorem giveUp_stands (grows : h.Grows g) (name : Text) (fate : Fate) (input : Join) :
    Stands h (giveUp (σ := σ) g name fate input) where
  grows := by
    obtain ⟨text, noted⟩ := input.exists_intoNothing name
    simp only [giveUp, noted]
    exact grows.trans (grows_noteAny grows.sound text)
  out := by
    rintro d ⟨⟩
    trivial
  err := trivial

theorem seatStage_stands (grows : h.Grows g) (holdsOut : ∀ d, out = .to d → g.Holds d) (holdsErr : g.Holds err)
    (input : Join) : Stands h (r.seatStage g ctx s out err input) := by
  -- The host of a stage that is seated has more records, and perhaps one more process.
  have seated : ∀ {g' : Host} {seat : Seat σ} {offer : Join}, g.Grows g' → seat.out = out → seat.err = err →
      Stands h ⟨g', seat, offer⟩ := fun later sameOut sameErr =>
    ⟨grows.trans later, fun d target => later.holds (holdsOut d (sameOut ▸ target)), sameErr ▸ later.holds holdsErr⟩
  have reported : ∀ (text message : Text), g.Grows ((g.note .debug text).report err message) := fun text message =>
    (Host.Grows.note grows.sound .debug text).trans (.report (Host.Grows.note grows.sound _ _).sound _ _)
  unfold seatStage
  split
  · obtain ⟨text, noted⟩ := input.exists_intoBuiltin s.name
    simp only [seatBuiltin, noted]
    have first := Host.Grows.note grows.sound .debug ("stage ".toList ++ s.name ++ ": builtin".toList)
    exact seated (first.trans (grows_noteAny first.sound text)) rfl rfl
  · split
    · rename_i path _
      unfold seatProgram
      split
      · exact giveUp_stands (grows.trans (reported _ _)) _ _ _
      · obtain ⟨text, noted⟩ := input.exists_intoProgram s.name
        simp only [noted]
        have first := Host.Grows.note grows.sound .debug ("stage ".toList ++ s.name ++ ": spawned ".toList ++ path ++
          " as pid ".toList ++ showNat g.nextProcess)
        exact seated ((first.setNextProcess _).trans (grows_noteAny (first.setNextProcess _).sound text)) rfl rfl
    · exact giveUp_stands (grows.trans (reported _ _)) _ _ _

theorem startStage_stands (sound : h.Sound) (attached : r.Attached h) (ctx : Context) (s : Stage) (input : Join)
    (isLast : Bool) : Stands h (r.startStage h ctx s input isLast) := by
  have grows := grows_openBoth sound r ctx s isLast
  rw [startStage_of_openBoth]
  rcases opened : r.openBoth ctx h s isLast with ⟨h₂, ⟨err, failure⟩ | ⟨out, err⟩⟩
  · rw [opened] at grows
    exact giveUp_stands (grows.trans (.report grows.sound _ _)) _ _ _
  · rw [opened] at grows
    obtain ⟨holdsOut, holdsErr⟩ := (opens_of_openBoth opened).holds sound attached
    exact seatStage_stands grows holdsOut holdsErr input

/-- The turn of a stage comes on a host that is sound. -/
theorem grows_turns {host : Host} {t : Started σ} {i : Nat} (sound : h.Sound) (attached : r.Attached h)
    (turn : (r.turns ctx h input stages)[i]? = some (host, t)) : h.Grows host := by
  induction stages generalizing h input i with
  | nil => cases turn
  | cons s rest ih =>
    cases i with
    | zero =>
      cases turn
      exact .refl sound
    | succ i =>
      have stands := startStage_stands sound attached ctx s input rest.isEmpty
      exact stands.grows.trans (ih stands.grows.sound (attached.of_grows stands.grows) turn)

theorem grows_startStages (sound : h.Sound) (attached : r.Attached h) (ctx : Context) (input : Join)
    (stages : List Stage) : h.Grows (r.startStages ctx h input stages).1 := by
  induction stages generalizing h input with
  | nil => exact .refl sound
  | cons s rest ih =>
    have stands := startStage_stands sound attached ctx s input rest.isEmpty
    exact stands.grows.trans (ih stands.grows.sound (attached.of_grows stands.grows) _)

/-- The host on which the target of a stream is opened, where the turn of the stage comes on `h`: that of the standard
error is opened first, and the other one only if it has been. -/
def onOpening (ctx : Context) (h : Host) (s : Stage) : StdStream → Option Host
  | .err => some h
  | .out =>
    match openAny h ctx.cwd s.redirections.err with
    | (h, .ok _) => some h
    | _ => none

theorem openAny_of_onOpening (onto : onOpening ctx g s .out = some g₁) :
    ∃ d, openAny g ctx.cwd s.redirections.err = (g₁, .ok d) := by
  simp only [onOpening] at onto
  split at onto
  · rename_i d first
    cases onto
    exact ⟨_, first⟩
  · cases onto

theorem grows_onOpening {stream : StdStream} (sound : g.Sound) (onto : onOpening ctx g s stream = some g₁) :
    g.Grows g₁ := by
  cases stream with
  | err =>
    cases onto
    exact .refl sound
  | out =>
    obtain ⟨d, first⟩ := openAny_of_onOpening onto
    have grows := (openAny_grows sound ctx.cwd s.redirections.err).1
    rw [first] at grows
    exact grows

end Runner

end PipeShell
