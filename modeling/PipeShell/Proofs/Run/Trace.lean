import PipeShell.Proofs.Run.Step

/-!
# What the stages see and do in a run

To the outside a stage is known by what it reads and what it writes.  `World.event?` is what a step adds to that:
the bytes that a stage gets from its input, or those of its output that are taken.  A step of a relay, a change of the
host and the waiting of the shell add nothing, and neither does a write that is refused.

`World.Runs` is any interleaving of steps together with its trace, the list of these events in order.  It is
`World.Reaches` with a trace kept beside it.
-/

namespace PipeShell

/-- What a stage gets or gives in one step. -/
inductive Event
  /-- Asking for at most `limit` bytes, the stage gets `data`. -/
  | read (stage limit : Nat) (data : Bytes)
  /-- Of what the stage writes to `stream`, `data` is taken at `target`. -/
  | wrote (stage : Nat) (stream : StdStream) (target : Output) (data : Bytes)
  deriving DecidableEq

namespace Event

def stage : Event → Nat
  | .read k _ _ => k
  | .wrote k _ _ _ => k

/-- The bytes that stage `k` reads. -/
def readBy (k : Nat) : Event → Bytes
  | .read i _ data => if i = k then data else []
  | .wrote _ _ _ _ => []

/-- The bytes that stage `k` passes to the next stage. -/
def passedBy (k : Nat) : Event → Bytes
  | .wrote i _ .nextStage data => if i = k then data else []
  | _ => []

/-- Stage `k` is told that its input has ended. -/
def IsEnd (k : Nat) (e : Event) : Prop := ∃ limit, limit ≠ 0 ∧ e = .read k limit []

end Event

/-- All that stage `k` has read. -/
def bytesRead (k : Nat) (trace : List Event) : Bytes := trace.flatMap (Event.readBy k)

/-- All that stage `k` has passed to the next stage. -/
def bytesPassed (k : Nat) (trace : List Event) : Bytes := trace.flatMap (Event.passedBy k)

/-- Stage `k` has been told that its input has ended. -/
def SawEnd (k : Nat) (trace : List Event) : Prop := ∃ e ∈ trace, e.IsEnd k

section Traces

variable {k : Nat} {trace more : List Event}

@[simp] theorem bytesRead_append (k : Nat) (trace more : List Event) :
    bytesRead k (trace ++ more) = bytesRead k trace ++ bytesRead k more := List.flatMap_append

@[simp] theorem bytesPassed_append (k : Nat) (trace more : List Event) :
    bytesPassed k (trace ++ more) = bytesPassed k trace ++ bytesPassed k more := List.flatMap_append

@[simp] theorem bytesRead_read (k i limit : Nat) (data : Bytes) :
    bytesRead k [.read i limit data] = if i = k then data else [] := by simp [bytesRead, Event.readBy]

@[simp] theorem bytesRead_wrote (k i : Nat) (stream : StdStream) (target : Output) (data : Bytes) :
    bytesRead k [.wrote i stream target data] = [] := by simp [bytesRead, Event.readBy]

@[simp] theorem bytesPassed_read (k i limit : Nat) (data : Bytes) : bytesPassed k [.read i limit data] = [] := by
  simp [bytesPassed, Event.passedBy]

@[simp] theorem bytesPassed_to (k i : Nat) (stream : StdStream) (d : Destination) (data : Bytes) :
    bytesPassed k [.wrote i stream (.to d) data] = [] := by simp [bytesPassed, Event.passedBy]

@[simp] theorem bytesPassed_nextStage (k i : Nat) (stream : StdStream) (data : Bytes) :
    bytesPassed k [.wrote i stream .nextStage data] = if i = k then data else [] := by
  simp [bytesPassed, Event.passedBy]

theorem bytesPassed_of_ne {e : Event} (h : e.stage ≠ k) : bytesPassed k [e] = [] := by
  cases e with
  | read => simp
  | wrote i stream target data =>
    cases target with
    | «to» d => simp
    | nextStage =>
      rw [bytesPassed_nextStage]
      exact if_neg h

theorem sawEnd_append : SawEnd k (trace ++ more) ↔ SawEnd k trace ∨ SawEnd k more := by
  simp only [SawEnd, List.mem_append, or_and_right, exists_or]

end Traces

namespace World

variable {σ ρ τ : Type} {programs : Programs σ} {w v w' : World σ} {party : Party} {k : Nat} {s : Seat σ}
  {request : Request Finish (Actor σ)} {trace : List Event}

/-- The stage for which a party takes its next step, with what that stage asks for. -/
def acting? (programs : Programs σ) (w : World σ) : Party → Option (Nat × Seat σ × Request Finish (Actor σ))
  | .shell =>
    if w.progress = .running then
      w.nextBuiltin?.map fun (k, s, act) => (k, s, act.request.map .reply .builtin)
    else none
  | .relay _ => none
  | .process k =>
    match w.seats[k]? with
    | some s =>
      match s.actor with
      | .process state => some (k, s, (programs.next state).map .ending .process)
      | _ => none
    | none => none

/-- What happens when a request of stage `k` is served. -/
def served? (w : World σ) (k : Nat) (s : Seat σ) : Request ρ τ → Option Event
  | .read limit _ => (s.input.read? limit).map fun (data, _) => .read k limit data
  | .write stream data _ =>
    let pending := s.unsent.getD data
    match w.serveWrite k (s.output stream) pending with
    | some (_, .ok rest) => some (.wrote k stream (s.output stream) (pending.take (pending.length - rest.length)))
    | _ => none
  | .done _ | .call _ _ => none

/-- What happens in the next step of a party. -/
def event? (programs : Programs σ) (w : World σ) (party : Party) : Option Event :=
  (w.acting? programs party).bind fun (k, s, request) => w.served? k s request

/-- A world that comes about by any number of steps, taken by the parties in any order, and what happens in them. -/
inductive Runs (programs : Programs σ) (w : World σ) : List Event → World σ → Prop
  | refl : Runs programs w [] w
  | tail {trace : List Event} {v v' : World σ} {party : Party} (run : Runs programs w trace v)
      (step : v.step? programs party = some v') : Runs programs w (trace ++ (v.event? programs party).toList) v'

theorem acting?_eq_some_iff :
    w.acting? programs party = some (k, s, request) ↔ Acts programs w party k s request := by
  constructor
  · intro h
    cases party with
    | shell =>
      simp only [acting?, Option.ite_none_right_eq_some, Option.map_eq_some_iff, Prod.mk.injEq] at h
      obtain ⟨running, ⟨i, t, act⟩, next, rfl, rfl, rfl⟩ := h
      exact .builtin running next
    | relay i => cases h
    | process i =>
      simp only [acting?] at h
      split at h
      · rename_i t seat
        split at h
        · rename_i state actor
          cases h
          exact .process seat actor
        · cases h
      · cases h
  · intro h
    cases h with
    | builtin running next => simp [acting?, running, next]
    | process seat actor => simp [acting?, seat, actor]

theorem Acts.event?_eq (h : Acts programs w party k s request) : w.event? programs party = w.served? k s request := by
  simp [event?, acting?_eq_some_iff.2 h]

/-- A relay hands nothing to a stage. -/
@[simp] theorem event?_relay (w : World σ) (k : Nat) : w.event? programs (.relay k) = none := rfl

/-- A shell that waits hands nothing to a stage. -/
theorem event?_shell_of_waiting (waits : w.progress ≠ .running) : w.event? programs .shell = none := by
  simp [event?, acting?, waits]

theorem event?_shell_of_last (last : w.nextBuiltin? = none) : w.event? programs .shell = none := by
  simp [event?, acting?, last]

theorem Acts.event?_read {limit : Nat} {next : Bytes → Actor σ} {data : Bytes} {j : Join}
    (h : Acts programs w party k s (.read limit next)) (given : s.input.read? limit = some (data, j)) :
    w.event? programs party = some (.read k limit data) := by
  rw [h.event?_eq, served?, given]
  rfl

theorem Acts.event?_wrote {stream : StdStream} {data : Bytes} {next : Option Fault → Actor σ} {d : Destination}
    {host : Host} (h : Acts programs w party k s (.write stream data next)) (target : s.output stream = .to d)
    (taken : w.host.write d (s.unsent.getD data) = .ok host) :
    w.event? programs party = some (.wrote k stream (.to d) (s.unsent.getD data)) := by
  rw [h.event?_eq]
  simp [served?, serveWrite, target, taken]

theorem Acts.event?_refused {stream : StdStream} {data : Bytes} {next : Option Fault → Actor σ} {d : Destination}
    {fault : Fault} (h : Acts programs w party k s (.write stream data next)) (target : s.output stream = .to d)
    (failed : w.host.write d (s.unsent.getD data) = .error fault) : w.event? programs party = none := by
  rw [h.event?_eq]
  simp [served?, serveWrite, target, failed]

theorem Acts.event?_passed {stream : StdStream} {data front rest : Bytes} {next : Option Fault → Actor σ} {j : Join}
    (h : Acts programs w party k s (.write stream data next)) (target : s.output stream = .nextStage)
    (split : s.unsent.getD data = front ++ rest)
    (taken : (w.input (k + 1)).write? (s.unsent.getD data) = some (.ok (rest, j))) :
    w.event? programs party = some (.wrote k stream .nextStage front) := by
  rw [h.event?_eq]
  simp [served?, serveWrite, target, split, split ▸ taken]

theorem Acts.event?_broken {stream : StdStream} {data : Bytes} {next : Option Fault → Actor σ} {fault : Fault}
    (h : Acts programs w party k s (.write stream data next)) (target : s.output stream = .nextStage)
    (failed : (w.input (k + 1)).write? (s.unsent.getD data) = some (.error fault)) :
    w.event? programs party = none := by
  rw [h.event?_eq]
  simp [served?, serveWrite, target, failed]

theorem Acts.event?_done {result : Finish} (h : Acts programs w party k s (.done result)) :
    w.event? programs party = none := h.event?_eq

theorem Acts.event?_called {change : Host → Host} {next : Host → Actor σ}
    (h : Acts programs w party k s (.call change next)) : w.event? programs party = none := h.event?_eq

/-- Something happens only for the stage that takes the step. -/
theorem acts_of_event? {e : Event} (h : w.event? programs party = some e) :
    ∃ s request, Acts programs w party e.stage s request ∧ w.served? e.stage s request = some e := by
  simp only [event?, Option.bind_eq_some_iff] at h
  obtain ⟨⟨k, s, request⟩, acting, served⟩ := h
  have stage : e.stage = k := by
    cases request with
    | done | call => cases served
    | read limit next =>
      obtain ⟨given, -, rfl⟩ := Option.map_eq_some_iff.1 served
      rfl
    | write stream data next =>
      simp only [served?] at served
      split at served
      · cases served
        rfl
      · cases served
  exact ⟨s, request, acting?_eq_some_iff.1 (stage ▸ acting), stage ▸ served⟩

theorem acts_of_event?_read {limit : Nat} {data : Bytes} (h : w.event? programs party = some (.read k limit data)) :
    ∃ s next j, Acts programs w party k s (.read limit next) ∧ s.input.read? limit = some (data, j) := by
  obtain ⟨s, request, acts, served⟩ := acts_of_event? h
  cases request with
  | done | call => cases served
  | read l next =>
    obtain ⟨⟨b, j⟩, given, same⟩ := Option.map_eq_some_iff.1 served
    cases same
    exact ⟨s, next, j, acts, given⟩
  | write stream data next =>
    simp only [served?] at served
    split at served <;> cases served

/-! ### Runs and what they reach -/

theorem Runs.reaches (run : Runs programs w trace w') : Reaches programs w w' := by
  induction run with
  | refl => exact .refl
  | tail _ step ih => exact ih.tail ⟨_, step⟩

/-- What holds at first and is kept by every step, with what happens in it, holds all along. -/
theorem Runs.invariant {I : List Event → World σ → Prop} (run : Runs programs w trace w') (first : I [] w)
    (kept : ∀ {trace : List Event} {v v' : World σ} {party : Party}, Reaches programs w v → I trace v →
      Step programs v party v' → I (trace ++ (v.event? programs party).toList) v') : I trace w' := by
  induction run with
  | refl => exact first
  | tail run step ih => exact kept run.reaches ih (step?_iff.1 step)

theorem Runs.trans {more : List Event} (run : Runs programs w trace v) (rest : Runs programs v more w') :
    Runs programs w (trace ++ more) w' := by
  induction rest with
  | refl => simpa using run
  | tail _ step ih =>
    rw [← List.append_assoc]
    exact ih.tail step

/-- The parties take one step each, in this order. -/
def replay (programs : Programs σ) (w : World σ) : List Party → Option (List Event × World σ)
  | [] => some ([], w)
  | party :: rest =>
    (w.step? programs party).bind fun v =>
      (v.replay programs rest).map fun (trace, w') => ((w.event? programs party).toList ++ trace, w')

theorem Runs.of_replay {parties : List Party} (h : w.replay programs parties = some (trace, w')) :
    Runs programs w trace w' := by
  induction parties generalizing w trace with
  | nil =>
    cases h
    exact .refl
  | cons party rest ih =>
    simp only [replay, Option.bind_eq_some_iff, Option.map_eq_some_iff, Prod.mk.injEq] at h
    obtain ⟨v, step, ⟨more, v'⟩, after, rfl, rfl⟩ := h
    exact (Runs.refl.tail step).trans (ih after)

end World

end PipeShell
