import PipeShell.Proofs.Run.Refusal

/-!
# Running builtins one after the other

A pipeline without programs can be run in order, with nobody beside: `Runner.inOrder`.  First all stages are prepared
from left to right.  The streams of a stage are opened, standard error first, and a stage that fails is reported at
once.  Then the builtins are run to their end, from left to right.  Each reads what the one before has passed to it,
or nothing if that one is not connected to it, and what is passed to a stage that has failed is counted and thrown
away.

None of this knows of joins, relays or steps.  Here it is compared with the start of a pipeline
(`Runner.startStages_eq`): what is prepared are the seats of the stages.
-/

namespace PipeShell

/-! ### Preparing the stages -/

/-- A builtin that is to be run, and where its output goes. -/
structure Task where
  act : Act Reply
  out : Output
  err : Destination

/-- A stage that has been prepared: its builtin, or how it has failed. -/
structure Prepared where
  name : Text
  task : Except Fate Task

/-- What the stage writes is passed to the next one. -/
def Prepared.isConnected (p : Prepared) : Bool :=
  match p.task with
  | .ok task => task.out == .nextStage
  | .error _ => false

/-- The name of what throws away the input of a stage that has failed. -/
def drainLabel (name : Text) : Text := "drain ".toList ++ name

namespace Runner

variable {σ : Type}

/-- A stage has failed: this is reported, and what the stage before writes is to be thrown away. -/
def refuse (refusal : Refusal) (name : Text) (isFed : Bool) : Host :=
  let h := refusal.host.report refusal.err refusal.failure.message
  if isFed then h.note .trace ("relay ".toList ++ drainLabel name ++ ": started".toList) else h

/-- Prepares a stage, where `isFed` says that the one before is connected to it.  There is no answer if it is a program
that starts. -/
def prepare (r : Runner σ) (ctx : Context) (h : Host) (s : Stage) (isLast isFed : Bool) :
    Option (Host × Except Fate Task) :=
  match r.refusal? ctx h s isLast with
  | some refusal => some (refuse refusal s.name isFed, .error refusal.fate)
  | none =>
    match r.openBoth ctx h s isLast with
    | (h, .ok (out, err)) =>
      (r.registry.find? s.name).map fun b =>
        (h.note .debug ("stage ".toList ++ s.name ++ ": builtin".toList),
          .ok ⟨b.run ⟨s.argv, ctx, r.registry.names⟩, out, err⟩)
    | (_, .error _) => none

/-- Prepares stages from left to right. -/
def prepareAll (r : Runner σ) (ctx : Context) (h : Host) (isFed : Bool) : List Stage → Option (Host × List Prepared)
  | [] => some (h, [])
  | s :: rest =>
    (r.prepare ctx h s rest.isEmpty isFed).bind fun (h, task) =>
      let prepared : Prepared := ⟨s.name, task⟩
      (r.prepareAll ctx h prepared.isConnected rest).map fun (h, more) => (h, prepared :: more)

end Runner

/-! ### Running the builtins -/

/-- What takes the output of a builtin that runs alone: what it passes on is collected. -/
def Output.outlet : Output → Outlet
  | .to d => .to d
  | .nextStage => .channel {}

/-- What has been passed on, write by write. -/
def Outlet.passed : Outlet → Option (List Bytes)
  | .channel c => some c.chunks
  | .to _ => none

/-- Runs a builtin to its end, on what the stage before has passed to it; nothing can be read if that one is not
connected to it. -/
def Task.perform (task : Task) (h : Host) (passed : Option (List Bytes)) : Reply × Surroundings :=
  task.act.runAlone
    { host := h, input := { chunks := passed.getD [], hasWriter := false }, out := task.out.outlet, err := .to task.err }

/-- What the builtins leave behind: the host, and what is asked of the shell. -/
structure Tally where
  host : Host
  request : Reply := {}

/-- A builtin has ended.  Its requests count only if it is the only stage. -/
def Tally.conclude (t : Tally) (isOnly : Bool) (name : Text) (reply : Reply) : Tally :=
  let host := t.host.note .debug ("builtin ".toList ++ name ++ " exited with ".toList ++ showInt reply.status)
  if isOnly then { host, request := reply }
  else if reply.isRequest then { t with host := host.note .debug "ignoring state change requested inside a pipeline".toList }
  else { t with host }

/-- What becomes of a stage: how it has ended, and what is thrown away in front of it. -/
structure Result where
  fate : Fate
  drained : Option (Text × Nat) := none

/-- Notes how much has been thrown away in front of a stage. -/
def Result.note (h : Host) (result : Result) : Host :=
  match result.drained with
  | none => h
  | some (label, count) =>
    h.note .trace ("relay ".toList ++ label ++ ": forwarded ".toList ++ showNat count ++ " bytes".toList)

/-- Runs what has been prepared from left to right; `passed` is what the first stage is given. -/
def performAll (isOnly : Bool) (t : Tally) (passed : Option (List Bytes)) : List Prepared → Tally × List Result
  | [] => (t, [])
  | ⟨name, .error fate⟩ :: rest =>
    let (t, results) := performAll isOnly t none rest
    (t, ⟨fate, passed.map fun chunks => (drainLabel name, chunks.flatten.length)⟩ :: results)
  | ⟨name, .ok task⟩ :: rest =>
    let (reply, w) := task.perform t.host passed
    let (t, results) := performAll isOnly ({ t with host := w.host }.conclude isOnly name reply) w.out.passed rest
    (t, ⟨.exited reply.status, none⟩ :: results)

/-- Runs a pipeline in order.  There is no answer if one of its stages is a program that starts. -/
def Runner.inOrder {σ : Type} (r : Runner σ) (p : Pipeline) (ctx : Context) (h : Host) : Option (Summary × Host) :=
  (r.prepareAll ctx h false p.stages).map fun (h, prepared) =>
    let (t, results) := performAll p.isSimple ⟨h, {}⟩ none prepared
    (⟨results.map (·.fate), t.request.directory, t.request.exit⟩, results.foldl Result.note t.host)

/-! ### What is prepared are the seats -/

/-- What a stage that is prepared makes of the offer of the one before. -/
def Prepared.seat {σ : Type} (p : Prepared) (isFed : Bool) : Seat σ :=
  match p.task with
  | .ok task =>
    { name := p.name, actor := .builtin task.act, out := task.out, err := task.err
      input := if isFed then .channel {} else .absent }
  | .error fate =>
    { name := p.name, actor := .ended fate, out := .to .nowhere, err := .nowhere
      input := if isFed then .draining {} { label := drainLabel p.name } else .absent }

def Prepared.seats {σ : Type} (isFed : Bool) : List Prepared → List (Seat σ)
  | [] => []
  | p :: rest => p.seat isFed :: seats p.isConnected rest

/-- What a builtin offers to the next stage, if it is connected to it. -/
def Join.offer (isFed : Bool) : Join := if isFed then .channel {} else .absent

namespace Runner

variable {σ : Type} {r : Runner σ} {ctx : Context} {h h' : Host} {s : Stage} {stages : List Stage}
  {isLast isFed : Bool} {task : Except Fate Task} {prepared : List Prepared}

/-- A stage that fails is given up. -/
theorem giveUp_eq (refusal : Refusal) (name : Text) (isFed : Bool) :
    giveUp (σ := σ) (refusal.host.report refusal.err refusal.failure.message) name refusal.fate (.offer isFed) =
      ⟨refuse refusal name isFed, Prepared.seat ⟨name, .error refusal.fate⟩ isFed, .absent⟩ := by
  cases isFed <;> rfl

/-- A builtin takes the channel that it is offered as it is. -/
theorem seatBuiltin_eq (r : Runner σ) (h : Host) (ctx : Context) (s : Stage) (b : Builtin) (out : Output)
    (err : Destination) (isFed : Bool) :
    r.seatBuiltin h ctx s b out err (.offer isFed) =
      ⟨h.note .debug ("stage ".toList ++ s.name ++ ": builtin".toList),
        Prepared.seat ⟨s.name, .ok ⟨b.run ⟨s.argv, ctx, r.registry.names⟩, out, err⟩⟩ isFed,
        .offer (Prepared.isConnected ⟨s.name, .ok ⟨b.run ⟨s.argv, ctx, r.registry.names⟩, out, err⟩⟩)⟩ := by
  cases isFed <;> cases out <;> rfl

/-- A stage starts as it is prepared. -/
theorem startStage_eq (ready : r.prepare ctx h s isLast isFed = some (h', task)) :
    r.startStage h ctx s (.offer isFed) isLast =
      ⟨h', Prepared.seat ⟨s.name, task⟩ isFed, .offer (Prepared.isConnected ⟨s.name, task⟩)⟩ := by
  unfold prepare at ready
  split at ready
  · rename_i refusal refused
    cases ready
    rw [startStage_of_refusal? refused]
    exact giveUp_eq _ _ _
  · rename_i started
    obtain ⟨h₁, out, err, opened, ⟨b, found, seat⟩ | ⟨path, state, notBuiltin, -⟩⟩ := startStage_of_started started
    · simp only [opened, found, Option.map_some, Option.some.injEq, Prod.mk.injEq] at ready
      obtain ⟨rfl, rfl⟩ := ready
      rw [seat]
      exact seatBuiltin_eq _ _ _ _ _ _ _ _
    · simp [opened, notBuiltin] at ready

/-- The stages start as they are prepared. -/
theorem startStages_eq (ready : r.prepareAll ctx h isFed stages = some (h', prepared)) :
    r.startStages ctx h (.offer isFed) stages = (h', Prepared.seats isFed prepared) := by
  induction stages generalizing h isFed prepared with
  | nil =>
    cases ready
    rfl
  | cons s rest ih =>
    simp only [prepareAll, Option.bind_eq_some_iff, Option.map_eq_some_iff, Prod.mk.injEq] at ready
    obtain ⟨⟨h₁, task⟩, first, ⟨h₂, more⟩, others, rfl, rfl⟩ := ready
    simp only [startStages, startStage_eq first, ih others, Prepared.seats]

/-- Only a program that starts cannot be prepared. -/
theorem role_of_prepare_eq_none (unready : r.prepare ctx h s isLast isFed = none) (input : Join) :
    (r.startStage h ctx s input isLast).seat.actor.role = .program := by
  unfold prepare at unready
  split at unready
  · cases unready
  · rename_i started
    rw [role_of_started started]
    obtain ⟨h₁, out, err, opened, ⟨b, found, -⟩ | ⟨path, state, notBuiltin, -⟩⟩ := startStage_of_started started
    · simp [opened, found] at unready
    · simp [notBuiltin]

/-- Stages none of which is a program that starts can be prepared. -/
theorem exists_prepareAll (builtins : ∀ seat ∈ (r.startStages ctx h (.offer isFed) stages).2, seat.actor.role ≠ .program) :
    ∃ h' prepared, r.prepareAll ctx h isFed stages = some (h', prepared) := by
  induction stages generalizing h isFed with
  | nil => exact ⟨h, [], rfl⟩
  | cons s rest ih =>
    cases first : r.prepare ctx h s rest.isEmpty isFed with
    | none => exact absurd (role_of_prepare_eq_none first _) (builtins _ (List.mem_cons_self))
    | some ready =>
      obtain ⟨h₁, task⟩ := ready
      simp only [startStages, startStage_eq first] at builtins
      obtain ⟨h₂, more, others⟩ := ih fun seat hseat => builtins seat (List.mem_cons_of_mem _ hseat)
      exact ⟨h₂, ⟨s.name, task⟩ :: more, by simp [prepareAll, first, others]⟩

/-- A pipeline that can be prepared is started with what has been prepared. -/
theorem start_eq {p : Pipeline} (ready : r.prepareAll ctx h false p.stages = some (h', prepared)) :
    r.start p ctx h = { host := h', seats := Prepared.seats false prepared } := by
  have started := startStages_eq ready
  simp only [start]
  rw [show Join.absent = .offer false from rfl, started]

end Runner

end PipeShell
