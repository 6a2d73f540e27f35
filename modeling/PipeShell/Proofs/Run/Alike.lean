import PipeShell.Proofs.Host.Opening
import PipeShell.Proofs.Run.Trace

/-!
# Running where a target is open, and where it is discarded

Two running pipelines are alike but for a footprint if all stages do the same in both, and what the one writes to the
target the other writes to nowhere.  As long as the target takes what is written to it, and no program looks at it in
another way (`World.Spares`), such pipelines go in lockstep: whoever can take a step in the one can take it in the
other, the stages get and give the same, and the pipelines stay alike (`World.AlikeBut.step?`, `World.AlikeBut.replay`).
-/

namespace PipeShell

namespace Footprint

variable {σ : Type} (f : Footprint)

/-- Where an output goes where the output is discarded. -/
def output : Output → Output
  | .to d => .to (f.destination d)
  | .nextStage => .nextStage

/-- A seat where the output is discarded. -/
def seat (s : Seat σ) : Seat σ := { s with out := f.output s.out, err := f.destination s.err }

/-- What happens where the output is discarded. -/
def event : Event → Event
  | .read k limit data => .read k limit data
  | .wrote k stream target data => .wrote k stream (f.output target) data

theorem output_seat (s : Seat σ) (stream : StdStream) : (f.seat s).output stream = f.output (s.output stream) := by
  cases stream <;> rfl

@[simp] theorem readBy_event (k : Nat) (e : Event) : (f.event e).readBy k = e.readBy k := by
  cases e <;> rfl

@[simp] theorem passedBy_event (k : Nat) (e : Event) : (f.event e).passedBy k = e.passedBy k := by
  rcases e with _ | ⟨i, stream, d | _, data⟩ <;> rfl

/-- The stages read the same. -/
theorem bytesRead_map (k : Nat) (trace : List Event) : bytesRead k (trace.map f.event) = bytesRead k trace := by
  simp [bytesRead, List.flatMap_map]

theorem bytesPassed_map (k : Nat) (trace : List Event) : bytesPassed k (trace.map f.event) = bytesPassed k trace := by
  simp [bytesPassed, List.flatMap_map]

end Footprint

namespace World

variable {σ : Type} {programs : Programs σ} {f : Footprint} {w v : World σ} {party : Party} {k : Nat} {s : Seat σ}
  {request : Request Finish (Actor σ)}

/-- The pipeline `v` is as `w` is, but for the footprint of an open target, and its output to that is discarded. -/
structure AlikeBut (f : Footprint) (w v : World σ) : Prop where
  host : Host.AlikeBut f w.host v.host
  seats : v.seats = w.seats.map f.seat
  progress : v.progress = w.progress
  request : v.request = w.request

/-- What the stages do next has nothing to do with the target, but that it takes what is written to it. -/
structure Spares (programs : Programs σ) (f : Footprint) (w : World σ) : Prop where
  /-- Whoever looks at the host or changes it does not see or change the target. -/
  calls : ∀ {party : Party} {k : Nat} {s : Seat σ} {change : Host → Host} {next : Host → Actor σ},
    Acts programs w party k s (.call change next) → ∀ g, Host.AlikeBut f w.host g →
      next g = next w.host ∧ Host.AlikeBut f (change w.host) (change g)
  /-- Every write to the target succeeds. -/
  writes : ∀ {party : Party} {k : Nat} {s : Seat σ} {stream : StdStream} {data : Bytes}
    {next : Option Fault → Actor σ}, Acts programs w party k s (.write stream data next) →
      s.output stream = .to (.file f.handle) →
        ∃ host, w.host.write (.file f.handle) (s.unsent.getD data) = .ok host

/-- A program for which nobody acts takes no step. -/
theorem step?_process_of_acting? (acting : w.acting? programs (.process k) = none) :
    w.step? programs (.process k) = none := by
  cases seat : w.seats[k]? with
  | none => simp [step?, stepProcess?, seat]
  | some s =>
    cases actor : s.actor with
    | process state => simp [acting?, seat, actor] at acting
    | builtin | gone | ended => simp [step?, stepProcess?, seat, actor]

namespace AlikeBut

theorem seat_eq (alike : AlikeBut f w v) (k : Nat) : v.seats[k]? = w.seats[k]?.map f.seat := by
  rw [alike.seats, List.getElem?_map]

theorem length_eq (alike : AlikeBut f w v) : v.seats.length = w.seats.length := by
  rw [alike.seats, List.length_map]

theorem input_eq (alike : AlikeBut f w v) (k : Nat) : v.input k = w.input k := by
  simp only [input, alike.seat_eq, Option.map_map]
  rfl

/-- All stages have ended alike. -/
theorem fates_eq (alike : AlikeBut f w v) : v.fates = w.fates := by
  simp only [fates, alike.seats, List.map_map]
  rfl

theorem modify (alike : AlikeBut f w v) (k : Nat) {φ ψ : Seat σ → Seat σ} (same : ∀ s, f.seat (φ s) = ψ (f.seat s)) :
    AlikeBut f { w with seats := w.seats.modify k φ } { v with seats := v.seats.modify k ψ } := by
  refine { alike with seats := List.ext_getElem? fun i => ?_ }
  simp only [alike.seats, List.getElem?_modify, List.getElem?_map]
  cases w.seats[i]? with
  | none => rfl
  | some s => by_cases own : k = i <;> simp [own, same]

theorem modifyInput (alike : AlikeBut f w v) (k : Nat) (g : Join → Join) :
    AlikeBut f (w.modifyInput k g) (v.modifyInput k g) := alike.modify k fun _ => rfl

theorem setActor (alike : AlikeBut f w v) (k : Nat) (a : Actor σ) : AlikeBut f (w.setActor k a) (v.setActor k a) :=
  alike.modify k fun _ => rfl

theorem setUnsent (alike : AlikeBut f w v) (k : Nat) (rest : Bytes) :
    AlikeBut f (w.setUnsent k rest) (v.setUnsent k rest) := alike.modify k fun _ => rfl

theorem note (alike : AlikeBut f w v) (level : Level) (text : Text) :
    AlikeBut f (w.note level text) (v.note level text) :=
  { alike with host := alike.host.note level text }

theorem finish (alike : AlikeBut f w v) (k : Nat) (name : Text) (result : Finish) :
    AlikeBut f (w.finish k name result) (v.finish k name result) := by
  cases result with
  | ending e => exact alike.setActor k _
  | reply reply =>
    have ended := (alike.setActor k (.ended (.exited reply.status))).note .debug
      ("builtin ".toList ++ name ++ " exited with ".toList ++ showInt reply.status)
    simp only [World.finish, finishBuiltin, ended.length_eq]
    split
    · exact { ended with request := rfl }
    · split
      · exact ended.note _ _
      · exact ended

/-! ### Who takes the next step -/

theorem nextBuiltin?_eq (alike : AlikeBut f w v) :
    v.nextBuiltin? = w.nextBuiltin?.map fun (k, s, act) => (k, f.seat s, act) := by
  unfold nextBuiltin?
  rw [alike.seats]
  generalize w.seats = seats
  -- The search may start at any number.
  suffices go : ∀ n, nextBuiltin?.go n (seats.map f.seat) =
      (nextBuiltin?.go n seats).map fun (k, s, act) => (k, f.seat s, act) from go 0
  induction seats with
  | nil => exact fun _ => rfl
  | cons s rest ih =>
    intro n
    have actor : (f.seat s).actor = s.actor := rfl
    simp only [List.map_cons, nextBuiltin?.go, actor]
    cases s.actor with
    | builtin act => rfl
    | process | gone | ended => exact ih (n + 1)

theorem acting?_eq (alike : AlikeBut f w v) (party : Party) :
    v.acting? programs party = (w.acting? programs party).map fun (k, s, request) => (k, f.seat s, request) := by
  cases party with
  | shell =>
    simp only [acting?, alike.progress, alike.nextBuiltin?_eq]
    split
    · cases w.nextBuiltin? <;> rfl
    · rfl
  | relay => rfl
  | process k =>
    simp only [acting?, alike.seat_eq]
    cases w.seats[k]? with
    | none => rfl
    | some s =>
      have actor : (f.seat s).actor = s.actor := rfl
      simp only [Option.map_some, actor]
      cases s.actor <;> rfl

theorem acts (alike : AlikeBut f w v) (acts : Acts programs w party k s request) :
    Acts programs v party k (f.seat s) request := by
  have acting := acting?_eq_some_iff.2 acts
  exact acting?_eq_some_iff.1 (by rw [alike.acting?_eq, acting]; rfl)

/-! ### Steps -/

/-- What is written is taken alike; the target takes it. -/
theorem serveWrite (alike : AlikeBut f w v) (k : Nat) {target : Output} {data : Bytes}
    (taken : target = .to (.file f.handle) → ∃ host, w.host.write (.file f.handle) data = .ok host) :
    Option.Rel (fun a b => AlikeBut f a.1 b.1 ∧ b.2 = a.2) (w.serveWrite k target data)
      (v.serveWrite k (f.output target) data) := by
  cases target with
  | nextStage =>
    simp only [Footprint.output, World.serveWrite, alike.input_eq]
    rcases (w.input (k + 1)).write? data with - | fault | ⟨rest, j⟩
    · exact .none
    · exact .some ⟨alike, rfl⟩
    · exact .some ⟨alike.modifyInput (k + 1) fun _ => j, rfl⟩
  | «to» d =>
    simp only [Footprint.output, World.serveWrite]
    by_cases own : d = .file f.handle
    · subst own
      obtain ⟨host, taken⟩ := taken rfl
      rw [taken, f.destination_handle]
      exact .some ⟨{ alike with host := alike.host.write_target taken }, rfl⟩
    · rcases alike.host.write own data with ⟨host, host', taken, taken', alike'⟩ | ⟨fault, failed, failed'⟩
      · rw [taken, taken']
        exact .some ⟨{ alike with host := alike' }, rfl⟩
      · rw [failed, failed']
        exact .some ⟨alike, rfl⟩

/-- A stage does the same in both. -/
theorem stepStage? (alike : AlikeBut f w v) (spares : w.Spares programs f) (acts : Acts programs w party k s request) :
    Option.Rel (AlikeBut f) (w.stepStage? k s request) (v.stepStage? k (f.seat s) request) := by
  cases request with
  | done result =>
    exact .some (((alike.modifyInput k _).modifyInput (k + 1) _).finish k _ _)
  | read limit goOn =>
    have input : (f.seat s).input = s.input := rfl
    simp only [World.stepStage?, serve, input]
    rcases s.input.read? limit with - | ⟨data, j⟩
    · exact .none
    · exact .some ((alike.modifyInput k fun _ => j).setActor k _)
  | write stream data goOn =>
    have unsent : (f.seat s).unsent = s.unsent := rfl
    have written := alike.serveWrite k fun own => spares.writes acts own
    simp only [World.stepStage?, serve, unsent, f.output_seat]
    generalize w.serveWrite k (s.output stream) (s.unsent.getD data) = here at written ⊢
    generalize v.serveWrite k (f.output (s.output stream)) (s.unsent.getD data) = there at written ⊢
    cases written with
    | none => exact .none
    | @some a b both =>
      obtain ⟨w', outcome⟩ := a
      obtain ⟨v', outcome'⟩ := b
      obtain ⟨alike', rfl⟩ : AlikeBut f w' v' ∧ outcome' = outcome := both
      cases outcome' with
      | error fault => exact .some (alike'.setActor k _)
      | ok rest =>
        by_cases all : rest = []
        · simp only [Option.map_some, all, if_true]
          exact .some (alike'.setActor k _)
        · simp only [Option.map_some, all, if_false]
          exact .some (alike'.setUnsent k rest)
  | call change goOn =>
    obtain ⟨sees, changes⟩ := spares.calls acts v.host alike.host
    have changed : AlikeBut f { w with host := change w.host } { v with host := change v.host } :=
      { alike with host := changes }
    simp only [World.stepStage?, serve, sees]
    exact .some (changed.setActor k _)

/-- The same is to be seen of it. -/
theorem served?_eq (alike : AlikeBut f w v) (spares : w.Spares programs f) (acts : Acts programs w party k s request) :
    v.served? k (f.seat s) request = (w.served? k s request).map f.event := by
  cases request with
  | done | call => rfl
  | read limit goOn =>
    have input : (f.seat s).input = s.input := rfl
    simp only [World.served?, input]
    rcases s.input.read? limit with - | ⟨data, j⟩ <;> rfl
  | write stream data goOn =>
    have unsent : (f.seat s).unsent = s.unsent := rfl
    have written := alike.serveWrite k fun own => spares.writes acts own
    simp only [World.served?, unsent, f.output_seat]
    generalize w.serveWrite k (s.output stream) (s.unsent.getD data) = here at written ⊢
    generalize v.serveWrite k (f.output (s.output stream)) (s.unsent.getD data) = there at written ⊢
    cases written with
    | none => rfl
    | @some a b both =>
      obtain ⟨w', outcome⟩ := a
      obtain ⟨v', outcome'⟩ := b
      obtain ⟨-, rfl⟩ : AlikeBut f w' v' ∧ outcome' = outcome := both
      cases outcome' <;> rfl

theorem event?_eq (alike : AlikeBut f w v) (spares : w.Spares programs f) (party : Party) :
    v.event? programs party = (w.event? programs party).map f.event := by
  simp only [event?, alike.acting?_eq]
  cases acting : w.acting? programs party with
  | none => rfl
  | some next =>
    obtain ⟨k, s, request⟩ := next
    exact alike.served?_eq spares (acting?_eq_some_iff.1 acting)

theorem stepRelay? (alike : AlikeBut f w v) (k : Nat) : Option.Rel (AlikeBut f) (w.stepRelay? k) (v.stepRelay? k) := by
  simp only [World.stepRelay?, alike.seat_eq]
  cases w.seats[k]? with
  | none => exact .none
  | some s =>
    have input : (f.seat s).input = s.input := rfl
    simp only [Option.map_some, input]
    rcases s.input.stepRelay? with - | j
    · exact .none
    · exact .some (alike.modifyInput k fun _ => j)

theorem awaitStage? (alike : AlikeBut f w v) (k : Nat) :
    Option.Rel (AlikeBut f) (w.awaitStage? k) (v.awaitStage? k) := by
  simp only [World.awaitStage?, alike.seat_eq]
  cases w.seats[k]? with
  | none => exact .some { alike with progress := rfl }
  | some s =>
    have past : AlikeBut f { w with progress := .waiting (k + 1) } { v with progress := .waiting (k + 1) } :=
      { alike with progress := rfl }
    have actor : (f.seat s).actor = s.actor := rfl
    have name : (f.seat s).name = s.name := rfl
    simp only [Option.map_some, actor, name]
    cases s.actor with
    | process state => exact .none
    | gone ending => exact .some ((past.setActor k _).note _ _)
    | builtin act => exact .some ((past.setActor k _).note _ _)
    | ended fate => exact .some past

theorem awaitRelay? (alike : AlikeBut f w v) (k : Nat) :
    Option.Rel (AlikeBut f) (w.awaitRelay? k) (v.awaitRelay? k) := by
  simp only [World.awaitRelay?, alike.seat_eq]
  cases w.seats[k]? with
  | none => exact .some { alike with progress := rfl }
  | some s =>
    have past : AlikeBut f { w with progress := .joining (k + 1) } { v with progress := .joining (k + 1) } :=
      { alike with progress := rfl }
    have input : (f.seat s).input = s.input := rfl
    simp only [Option.map_some, input]
    cases s.input.relay? with
    | none => exact .some past
    | some r =>
      dsimp only
      cases r.state with
      | copying => exact .none
      | finished => exact .some (past.note _ _)
      | stopped fault => exact .some (past.note _ _)

/-- **Whoever takes a step in the one takes it in the other**, and both stay alike. -/
theorem step? (alike : AlikeBut f w v) (spares : w.Spares programs f) (party : Party) :
    Option.Rel (AlikeBut f) (w.step? programs party) (v.step? programs party) := by
  cases acting : w.acting? programs party with
  | some next =>
    obtain ⟨k, s, request⟩ := next
    have acts := acting?_eq_some_iff.1 acting
    rw [acts.step?_eq, (alike.acts acts).step?_eq]
    exact alike.stepStage? spares acts
  | none =>
    cases party with
    | relay k => exact alike.stepRelay? k
    | process k =>
      have acting' : v.acting? programs (.process k) = none := by rw [alike.acting?_eq, acting]; rfl
      rw [step?_process_of_acting? acting, step?_process_of_acting? acting']
      exact .none
    | shell =>
      simp only [World.step?, stepShell?, alike.progress]
      cases progress : w.progress with
      | running =>
        have last : w.nextBuiltin? = none := by simpa [acting?, progress] using acting
        have last' : v.nextBuiltin? = none := by rw [alike.nextBuiltin?_eq, last]; rfl
        simp only [last, last']
        exact .some { alike with progress := rfl }
      | waiting k => exact alike.awaitStage? k
      | joining k => exact alike.awaitRelay? k
      | returned => exact .none

/-! ### Runs -/

/-- **Under the same schedule** both come equally far, the same is to be seen of both, and they stay alike. -/
theorem replay (alike : AlikeBut f w v) (spares : ∀ {w' : World σ}, Reaches programs w w' → w'.Spares programs f)
    (schedule : List Party) :
    Option.Rel (fun a b => b.1 = a.1.map f.event ∧ AlikeBut f a.2 b.2) (w.replay programs schedule)
      (v.replay programs schedule) := by
  induction schedule generalizing w v with
  | nil => exact .some ⟨rfl, alike⟩
  | cons party rest ih =>
    have step := alike.step? (spares .refl) party
    have event := alike.event?_eq (spares .refl) party
    simp only [World.replay]
    generalize stepped : w.step? programs party = next at step ⊢
    generalize v.step? programs party = next' at step ⊢
    cases step with
    | none => exact .none
    | @some w' v' alike' =>
      have after := ih alike' fun reached => spares (.head ⟨party, stepped⟩ reached)
      simp only [Option.bind_some]
      generalize w'.replay programs rest = run at after ⊢
      generalize v'.replay programs rest = run' at after ⊢
      cases after with
      | none => exact .none
      | @some a b both =>
        refine .some ⟨?_, both.2⟩
        dsimp only
        rw [both.1, event]
        cases w.event? programs party <;> simp

theorem advance? (alike : AlikeBut f w v) (spares : w.Spares programs f) :
    Option.Rel (AlikeBut f) (w.advance? programs) (v.advance? programs) := by
  have parties : v.parties = w.parties := by simp only [World.parties, alike.length_eq]
  simp only [World.advance?, parties]
  induction w.parties with
  | nil => exact .none
  | cons party rest ih =>
    have step := alike.step? spares party
    simp only [List.findSome?_cons]
    generalize w.step? programs party = next at step ⊢
    generalize v.step? programs party = next' at step ⊢
    cases step with
    | none => exact ih
    | some alike' => exact .some alike'

/-- The runs in which everyone takes a step in turn come out alike, too. -/
theorem run (alike : AlikeBut f w v) (spares : ∀ {w' : World σ}, Reaches programs w w' → w'.Spares programs f)
    (steps : Nat) : Option.Rel (AlikeBut f) (World.run programs steps w) (World.run programs steps v) := by
  induction steps generalizing w v with
  | zero =>
    simp only [World.run, alike.progress]
    split
    · exact .some alike
    · exact .none
  | succ steps ih =>
    simp only [World.run, alike.progress]
    split
    · exact .some alike
    · have step := alike.advance? (spares .refl)
      generalize advanced : w.advance? programs = next at step ⊢
      generalize v.advance? programs = next' at step ⊢
      cases step with
      | none => exact .none
      | some alike' =>
        obtain ⟨party, -, stepped⟩ := List.exists_of_findSome?_eq_some advanced
        exact ih alike' fun reached => spares (.head ⟨party, stepped⟩ reached)

end AlikeBut

end World

end PipeShell
