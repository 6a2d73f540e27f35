import Mathlib.Logic.Relation
import PipeShell.Run.World

/-!
# The steps of a running pipeline

A builtin and a process are served alike, so what they ask for is brought to one form first: `Actor.request?` is the
next request of either.  `World.Acts` says who takes a step for which stage, and `World.Step` lists all that a step
can be.  The world after a step is written out in each case, so that nothing below has to open `World.step?`:
`World.step?_iff` says that the list is complete and that nothing on it is idle.  What the shell finds where it waits is
listed in `World.PastStage` and `World.PastRelay`.

`World.Reaches` is any interleaving of steps, and `World.Reaches.of_run` finds the order in which the parties are
asked among them.
-/

namespace PipeShell

/-! ### What a stage asks for -/

section Requests

variable {ρ ρ' τ τ' : Type}

/-- The same request, with the results and the states named otherwise. -/
def Request.map (f : ρ → ρ') (g : τ → τ') : Request ρ τ → Request ρ' τ'
  | .done result => .done (f result)
  | .read limit next => .read limit fun data => g (next data)
  | .write stream data next => .write stream data fun fault => g (next fault)
  | .call change next => .call change fun host => g (next host)

/-- The same answer, with the results and the states named otherwise. -/
def Answer.map (f : ρ → ρ') (g : τ → τ') : Answer ρ τ → Answer ρ' τ'
  | .ended result => .ended (f result)
  | .goesOn state => .goesOn (g state)
  | .unsent rest => .unsent rest

end Requests

/-- How the program of a stage ends: a builtin with a reply, a process as the system tells. -/
inductive Finish
  | reply (r : Reply)
  | ending (e : Ending)

/-- What a stage asks for next, while its program runs. -/
def Actor.request? {σ : Type} (programs : Programs σ) : Actor σ → Option (Request Finish (Actor σ))
  | .builtin act => some (act.request.map .reply .builtin)
  | .process state => some ((programs.next state).map .ending .process)
  | .gone _ => none
  | .ended _ => none

/-- What a stage is while its program runs. -/
inductive Role
  | builtin
  | program
  /-- Its program does not run: it did not start, or it has ended. -/
  | idle
  deriving DecidableEq

def Actor.role {σ : Type} : Actor σ → Role
  | .builtin _ => .builtin
  | .process _ => .program
  | .gone _ | .ended _ => .idle

/-- All states in which a program can go on have this property. -/
def Request.Leads {ρ τ : Type} (P : τ → Prop) : Request ρ τ → Prop
  | .done _ => True
  | .read _ next => ∀ data, P (next data)
  | .write _ _ next => ∀ fault, P (next fault)
  | .call _ next => ∀ host, P (next host)

namespace World

variable {σ ρ ρ' τ τ' : Type} {programs : Programs σ} {w w' : World σ} {party : Party} {k : Nat} {s : Seat σ}
  {request : Request Finish (Actor σ)}

/-- Serving a request does not look at its results and states. -/
theorem serve_map (w : World σ) (k : Nat) (s : Seat σ) (f : ρ → ρ') (g : τ → τ') (request : Request ρ τ) :
    w.serve k s (request.map f g) = (w.serve k s request).map (Prod.map id (Answer.map f g)) := by
  cases request with
  | done result => rfl
  | read limit next => cases h : s.input.read? limit <;> simp [Request.map, serve, h, Answer.map]
  | write stream data next =>
    simp only [Request.map, serve, Option.map_map]
    congr 1
    funext written
    obtain ⟨w, outcome⟩ := written
    cases outcome with
    | error fault => rfl
    | ok rest => by_cases h : rest = [] <;> simp [h, Answer.map]
  | call change next => rfl

/-- What is left of a stage whose program has ended. -/
def finish (w : World σ) (k : Nat) (name : Text) : Finish → World σ
  | .reply r => w.finishBuiltin k name r
  | .ending e => w.setActor k (.gone e)

/-- A stage that asks for `request` takes a step. -/
def stepStage? (w : World σ) (k : Nat) (s : Seat σ) (request : Request Finish (Actor σ)) : Option (World σ) :=
  (w.serve k s request).map fun
    | (w, .ended result) => w.finish k s.name result
    | (w, .goesOn actor) => w.setActor k actor
    | (w, .unsent rest) => w.setUnsent k rest

theorem stepBuiltin?_eq (w : World σ) (k : Nat) (s : Seat σ) (act : Act Reply) :
    w.stepBuiltin? k s act = w.stepStage? k s (act.request.map .reply .builtin) := by
  simp only [stepBuiltin?, stepStage?, serve_map, Option.map_map]
  congr 1
  funext served
  obtain ⟨w, answer⟩ := served
  cases answer <;> rfl

theorem stepProcess?_eq {state : σ} (seat : w.seats[k]? = some s) (actor : s.actor = .process state) :
    w.stepProcess? programs k = w.stepStage? k s ((programs.next state).map .ending .process) := by
  simp only [stepProcess?, seat, actor, stepStage?, serve_map, Option.map_map]
  congr 1
  funext served
  obtain ⟨w, answer⟩ := served
  cases answer <;> rfl

/-- The builtin that is run next has its seat, and no builtin before it is still to be run. -/
theorem nextBuiltin?_eq_some {act : Act Reply} (h : w.nextBuiltin? = some (k, s, act)) :
    w.seats[k]? = some s ∧ s.actor = .builtin act ∧
      ∀ (i : Nat) (t : Seat σ) (a : Act Reply), i < k → w.seats[i]? = some t → t.actor ≠ .builtin a := by
  -- The search may start at any number, and what it finds is counted from there.
  suffices go : ∀ (seats : List (Seat σ)) (n : Nat), nextBuiltin?.go n seats = some (k, s, act) →
      n ≤ k ∧ seats[k - n]? = some s ∧ s.actor = .builtin act ∧
        ∀ (i : Nat) (t : Seat σ) (a : Act Reply), i < k - n → seats[i]? = some t → t.actor ≠ .builtin a by
    simpa using (go w.seats 0 h).2
  intro seats
  induction seats with
  | nil => intro n h; cases h
  | cons t rest ih =>
    intro n h
    cases ha : t.actor with
    | builtin a =>
      simp only [nextBuiltin?.go, ha, Option.some.injEq, Prod.mk.injEq] at h
      obtain ⟨rfl, rfl, rfl⟩ := h
      exact ⟨Nat.le_refl _, by simp, ha, fun i t a hi => by omega⟩
    | process _ | gone _ | ended _ =>
      simp only [nextBuiltin?.go, ha] at h
      obtain ⟨hle, hseat, hact, hbefore⟩ := ih (n + 1) h
      have hsucc : k - n = k - (n + 1) + 1 := by omega
      refine ⟨by omega, by rw [hsucc]; exact hseat, hact, fun i u b hi hu => ?_⟩
      cases i with
      | zero =>
        obtain rfl : t = u := by simpa using hu
        simp [ha]
      | succ i => exact hbefore i u b (by omega) (by simpa using hu)

/-- A party takes a step for stage `k`, whose program asks for `request`.  The shell acts for the builtins, one after
the other, and a process acts for itself. -/
inductive Acts (programs : Programs σ) (w : World σ) : Party → Nat → Seat σ → Request Finish (Actor σ) → Prop
  | builtin {k : Nat} {s : Seat σ} {act : Act Reply} (running : w.progress = .running)
      (next : w.nextBuiltin? = some (k, s, act)) : Acts programs w .shell k s (act.request.map .reply .builtin)
  | process {k : Nat} {s : Seat σ} {state : σ} (seat : w.seats[k]? = some s) (actor : s.actor = .process state) :
      Acts programs w (.process k) k s ((programs.next state).map .ending .process)

theorem Acts.seat (h : Acts programs w party k s request) : w.seats[k]? = some s := by
  cases h with
  | builtin _ next => exact (nextBuiltin?_eq_some next).1
  | process seat _ => exact seat

theorem Acts.request?_eq (h : Acts programs w party k s request) : s.actor.request? programs = some request := by
  cases h with
  | builtin _ next => rw [(nextBuiltin?_eq_some next).2.1]; rfl
  | process _ actor => rw [actor]; rfl

/-- Only a program that runs takes steps. -/
theorem Acts.role_ne_idle (h : Acts programs w party k s request) : s.actor.role ≠ .idle := by
  have hreq := h.request?_eq
  cases ha : s.actor with
  | builtin _ | process _ => simp [Actor.role]
  | gone _ | ended _ => simp [ha, Actor.request?] at hreq

/-- As long as it runs, a builtin stays one, and a program too. -/
theorem Acts.leads (h : Acts programs w party k s request) : request.Leads fun a => a.role = s.actor.role := by
  cases h with
  | @builtin k s act running next =>
    have hrole : s.actor.role = .builtin := by rw [(nextBuiltin?_eq_some next).2.1]; rfl
    rw [hrole]
    cases act with
    | done result => trivial
    | read | write | call => exact fun _ => rfl
  | @process k s state seat actor =>
    have hrole : s.actor.role = .program := by rw [actor]; rfl
    rw [hrole]
    cases programs.next state with
    | done result => trivial
    | read | write | call => exact fun _ => rfl

/-- A party acts for one stage at most. -/
theorem Acts.unique {i : Nat} {t : Seat σ} {other : Request Finish (Actor σ)} (h : Acts programs w party k s request)
    (g : Acts programs w party i t other) : i = k ∧ t = s ∧ other = request := by
  cases h with
  | builtin _ next =>
    cases g with
    | builtin _ next' =>
      rw [next] at next'
      cases next'
      exact ⟨rfl, rfl, rfl⟩
  | process seat actor =>
    cases g with
    | process seat' actor' =>
      rw [seat] at seat'
      cases seat'
      rw [actor] at actor'
      cases actor'
      exact ⟨rfl, rfl, rfl⟩

/-- The step of a party that acts for a stage. -/
theorem Acts.step?_eq (h : Acts programs w party k s request) :
    w.step? programs party = w.stepStage? k s request := by
  cases h with
  | builtin running next =>
    rw [← stepBuiltin?_eq]
    simp [step?, stepShell?, running, next]
  | process seat actor => exact stepProcess?_eq seat actor

/-! ### All that a step can be -/

/-- One step of a running pipeline, by what it does. -/
inductive Step (programs : Programs σ) (w : World σ) : Party → World σ → Prop
  /-- A program ends. -/
  | done {party : Party} {k : Nat} {s : Seat σ} {result : Finish} (acts : Acts programs w party k s (.done result)) :
      Step programs w party ((w.closeEnds k).finish k s.name result)
  /-- A program reads. -/
  | read {party : Party} {k : Nat} {s : Seat σ} {limit : Nat} {next : Bytes → Actor σ} {data : Bytes} {j : Join}
      (acts : Acts programs w party k s (.read limit next)) (given : s.input.read? limit = some (data, j)) :
      Step programs w party ((w.setInput k j).setActor k (next data))
  /-- A destination takes what a program writes. -/
  | wrote {party : Party} {k : Nat} {s : Seat σ} {stream : StdStream} {data : Bytes} {next : Option Fault → Actor σ}
      {d : Destination} {host : Host} (acts : Acts programs w party k s (.write stream data next))
      (target : s.output stream = .to d) (taken : w.host.write d (s.unsent.getD data) = .ok host) :
      Step programs w party ({ w with host }.setActor k (next none))
  /-- A destination refuses what a program writes. -/
  | refused {party : Party} {k : Nat} {s : Seat σ} {stream : StdStream} {data : Bytes} {next : Option Fault → Actor σ}
      {d : Destination} {fault : Fault} (acts : Acts programs w party k s (.write stream data next))
      (target : s.output stream = .to d) (failed : w.host.write d (s.unsent.getD data) = .error fault) :
      Step programs w party (w.setActor k (next (some fault)))
  /-- The next join takes what a program writes. -/
  | passed {party : Party} {k : Nat} {s : Seat σ} {stream : StdStream} {data : Bytes} {next : Option Fault → Actor σ}
      {j : Join} (acts : Acts programs w party k s (.write stream data next)) (target : s.output stream = .nextStage)
      (taken : (w.input (k + 1)).write? (s.unsent.getD data) = some (.ok ([], j))) :
      Step programs w party ((w.setInput (k + 1) j).setActor k (next none))
  /-- The next join takes a part of what a program writes. -/
  | passedPart {party : Party} {k : Nat} {s : Seat σ} {stream : StdStream} {data rest : Bytes}
      {next : Option Fault → Actor σ} {j : Join} (acts : Acts programs w party k s (.write stream data next))
      (target : s.output stream = .nextStage)
      (taken : (w.input (k + 1)).write? (s.unsent.getD data) = some (.ok (rest, j))) (more : rest ≠ []) :
      Step programs w party ((w.setInput (k + 1) j).setUnsent k rest)
  /-- The next join refuses what a program writes. -/
  | broken {party : Party} {k : Nat} {s : Seat σ} {stream : StdStream} {data : Bytes} {next : Option Fault → Actor σ}
      {fault : Fault} (acts : Acts programs w party k s (.write stream data next))
      (target : s.output stream = .nextStage)
      (failed : (w.input (k + 1)).write? (s.unsent.getD data) = some (.error fault)) :
      Step programs w party (w.setActor k (next (some fault)))
  /-- A program changes and sees the host. -/
  | called {party : Party} {k : Nat} {s : Seat σ} {change : Host → Host} {next : Host → Actor σ}
      (acts : Acts programs w party k s (.call change next)) :
      Step programs w party ({ w with host := change w.host }.setActor k (next w.host))
  /-- A relay copies. -/
  | relayed {k : Nat} {j : Join} (seat : k < w.seats.length) (copied : (w.input k).stepRelay? = some j) :
      Step programs w (.relay k) (w.setInput k j)
  /-- All builtins have ended. -/
  | turned (running : w.progress = .running) (last : w.nextBuiltin? = none) :
      Step programs w .shell { w with progress := .waiting 0 }
  /-- The shell goes past a stage. -/
  | awaited {k : Nat} {w' : World σ} (waiting : w.progress = .waiting k) (past : w.awaitStage? k = some w') :
      Step programs w .shell w'
  /-- The shell goes past a relay. -/
  | joined {k : Nat} {w' : World σ} (joining : w.progress = .joining k) (past : w.awaitRelay? k = some w') :
      Step programs w .shell w'

theorem input_eq (h : w.seats[k]? = some s) : w.input k = s.input := by simp [input, h]

/-- The step of a stage is on the list. -/
theorem Acts.step (acts : Acts programs w party k s request) (h : w.stepStage? k s request = some w') :
    Step programs w party w' := by
  cases request with
  | done result =>
    obtain rfl : (w.closeEnds k).finish k s.name result = w' := by simpa [stepStage?, serve] using h
    exact .done acts
  | read limit next =>
    simp only [stepStage?, serve, Option.map_map, Option.map_eq_some_iff] at h
    obtain ⟨⟨data, j⟩, given, rfl⟩ := h
    exact .read acts given
  | write stream data next =>
    rcases target : s.output stream with d | _
    · cases outcome : w.host.write d (s.unsent.getD data) with
      | ok host =>
        obtain rfl : { w with host }.setActor k (next none) = w' := by
          simpa [stepStage?, serve, serveWrite, target, outcome] using h
        exact .wrote acts target outcome
      | error fault =>
        obtain rfl : w.setActor k (next (some fault)) = w' := by
          simpa [stepStage?, serve, serveWrite, target, outcome] using h
        exact .refused acts target outcome
    · simp only [stepStage?, serve, serveWrite, target, Option.map_map] at h
      cases outcome : (w.input (k + 1)).write? (s.unsent.getD data) with
      | none => simp [outcome] at h
      | some result =>
        cases result with
        | error fault =>
          obtain rfl : w.setActor k (next (some fault)) = w' := by simpa [outcome] using h
          exact .broken acts target outcome
        | ok taken =>
          obtain ⟨rest, j⟩ := taken
          by_cases hrest : rest = []
          · subst hrest
            obtain rfl : (w.setInput (k + 1) j).setActor k (next none) = w' := by simpa [outcome] using h
            exact .passed acts target outcome
          · obtain rfl : (w.setInput (k + 1) j).setUnsent k rest = w' := by simpa [outcome, hrest] using h
            exact .passedPart acts target outcome hrest
  | call change next =>
    obtain rfl : { w with host := change w.host }.setActor k (next w.host) = w' := by
      simpa [stepStage?, serve] using h
    exact .called acts

/-- The list of steps is complete, and each step on it can be taken. -/
theorem step?_iff : w.step? programs party = some w' ↔ Step programs w party w' := by
  constructor
  · intro h
    cases party with
    | shell =>
      cases hp : w.progress with
      | running =>
        cases hn : w.nextBuiltin? with
        | none =>
          obtain rfl : { w with progress := .waiting 0 } = w' := by simpa [step?, stepShell?, hp, hn] using h
          exact .turned hp hn
        | some found =>
          obtain ⟨k, s, act⟩ := found
          have acts : Acts programs w .shell k s (act.request.map .reply .builtin) := .builtin hp hn
          exact acts.step (by rw [← acts.step?_eq]; exact h)
      | waiting k => exact .awaited hp (by simpa [step?, stepShell?, hp] using h)
      | joining k => exact .joined hp (by simpa [step?, stepShell?, hp] using h)
      | returned => simp [step?, stepShell?, hp] at h
    | relay k =>
      simp only [step?, stepRelay?] at h
      split at h
      · rename_i s hs
        obtain ⟨j, hj, rfl⟩ := Option.map_eq_some_iff.1 h
        obtain ⟨hk, -⟩ := List.getElem?_eq_some_iff.1 hs
        exact .relayed hk (by rw [input_eq hs]; exact hj)
      · cases h
    | process k =>
      cases hs : w.seats[k]? with
      | none => simp [step?, stepProcess?, hs] at h
      | some s =>
        cases ha : s.actor with
        | process state =>
          have acts : Acts programs w (.process k) k s _ := .process hs ha
          exact acts.step (by rw [← acts.step?_eq]; exact h)
        | builtin _ | gone _ | ended _ => simp [step?, stepProcess?, hs, ha] at h
  · intro h
    cases h with
    | done acts => rw [acts.step?_eq]; rfl
    | read acts given => rw [acts.step?_eq]; simp [stepStage?, serve, given]
    | wrote acts target taken => rw [acts.step?_eq]; simp [stepStage?, serve, serveWrite, target, taken]
    | refused acts target failed => rw [acts.step?_eq]; simp [stepStage?, serve, serveWrite, target, failed]
    | passed acts target taken => rw [acts.step?_eq]; simp [stepStage?, serve, serveWrite, target, taken]
    | passedPart acts target taken more =>
      rw [acts.step?_eq]; simp [stepStage?, serve, serveWrite, target, taken, more]
    | broken acts target failed => rw [acts.step?_eq]; simp [stepStage?, serve, serveWrite, target, failed]
    | called acts => rw [acts.step?_eq]; rfl
    | @relayed k j hk copied =>
      have hs : w.seats[k]? = some w.seats[k] := List.getElem?_eq_getElem hk
      rw [input_eq hs] at copied
      simp [step?, stepRelay?, hs, copied]
    | turned running last => simp [step?, stepShell?, running, last]
    | awaited waiting past => simpa [step?, stepShell?, waiting] using past
    | joined joining past => simpa [step?, stepShell?, joining] using past

/-! ### Where the shell waits -/

/-- The shell goes past stage `k`, by what it finds there. -/
inductive PastStage (w : World σ) (k : Nat) : World σ → Prop
  /-- All stages are behind it, and it goes on to the relays. -/
  | noMore (seat : w.seats[k]? = none) : PastStage w k { w with progress := .joining 0 }
  /-- A process is gone, and the shell puts down how it ended. -/
  | gone {s : Seat σ} {ending : Ending} (seat : w.seats[k]? = some s) (actor : s.actor = .gone ending) :
      PastStage w k (({ w with progress := .waiting (k + 1) }.setActor k (.ended (.exited ending.status))).note .debug
        ("stage ".toList ++ s.name ++ ": exited with ".toList ++ showInt ending.status))
  /-- A builtin has not been run. -/
  | neverRun {s : Seat σ} {act : Act Reply} (seat : w.seats[k]? = some s) (actor : s.actor = .builtin act) :
      PastStage w k (({ w with progress := .waiting (k + 1) }.setActor k (.ended (.exited 1))).note .warn
        ("builtin ".toList ++ s.name ++ " was never run".toList))
  /-- It is known how the stage ended. -/
  | ended {s : Seat σ} {fate : Fate} (seat : w.seats[k]? = some s) (actor : s.actor = .ended fate) :
      PastStage w k { w with progress := .waiting (k + 1) }

theorem pastStage_of_awaitStage? (past : w.awaitStage? k = some w') : w.PastStage k w' := by
  unfold awaitStage? at past
  split at past
  · rename_i seat
    cases past
    exact .noMore seat
  · rename_i s seat
    dsimp only at past
    cases actor : s.actor with
    | process state => simp [actor] at past
    | gone ending =>
      simp only [actor, Option.some.injEq] at past
      exact past ▸ .gone seat actor
    | builtin act =>
      simp only [actor, Option.some.injEq] at past
      exact past ▸ .neverRun seat actor
    | ended fate =>
      simp only [actor, Option.some.injEq] at past
      exact past ▸ .ended seat actor

/-- The shell goes past the relay in front of stage `k`, by what it finds there. -/
inductive PastRelay (w : World σ) (k : Nat) : World σ → Prop
  /-- All stages are behind it, and it returns. -/
  | noMore (seat : w.seats[k]? = none) : PastRelay w k { w with progress := .returned }
  /-- There is no relay. -/
  | unrelayed {s : Seat σ} (seat : w.seats[k]? = some s) (relay : s.input.relay? = none) :
      PastRelay w k { w with progress := .joining (k + 1) }
  /-- The relay has copied everything. -/
  | finished {s : Seat σ} {r : Relay} (seat : w.seats[k]? = some s) (relay : s.input.relay? = some r)
      (state : r.state = .finished) :
      PastRelay w k ({ w with progress := .joining (k + 1) }.note .trace
        ("relay ".toList ++ r.label ++ ": forwarded ".toList ++ showNat r.copied ++ " bytes".toList))
  /-- The relay has given up. -/
  | stopped {s : Seat σ} {r : Relay} {fault : Fault} (seat : w.seats[k]? = some s) (relay : s.input.relay? = some r)
      (state : r.state = .stopped fault) :
      PastRelay w k ({ w with progress := .joining (k + 1) }.note .debug
        ("relay ".toList ++ r.label ++ ": stopped early: ".toList ++ fault.message))

theorem pastRelay_of_awaitRelay? (past : w.awaitRelay? k = some w') : w.PastRelay k w' := by
  unfold awaitRelay? at past
  split at past
  · rename_i seat
    cases past
    exact .noMore seat
  · rename_i s seat
    dsimp only at past
    cases relay : s.input.relay? with
    | none =>
      simp only [relay, Option.some.injEq] at past
      exact past ▸ .unrelayed seat relay
    | some r =>
      cases state : r.state with
      | copying => simp [relay, state] at past
      | finished =>
        simp only [relay, state, Option.some.injEq] at past
        exact past ▸ .finished seat relay state
      | stopped fault =>
        simp only [relay, state, Option.some.injEq] at past
        exact past ▸ .stopped seat relay state

/-! ### Runs -/

/-- A world that comes about by any number of steps, taken by the parties in any order. -/
def Reaches (programs : Programs σ) : World σ → World σ → Prop :=
  Relation.ReflTransGen fun w w' => ∃ party, w.step? programs party = some w'

/-- What holds at first and is kept by every step holds all along. -/
theorem Reaches.invariant {I : World σ → Prop} (h : Reaches programs w w') (first : I w)
    (kept : ∀ {v v' : World σ} {party : Party}, I v → Step programs v party v' → I v') : I w' := by
  induction h with
  | refl => exact first
  | tail _ step ih =>
    obtain ⟨party, step⟩ := step
    exact kept ih (step?_iff.1 step)

/-- A run to the end is one order of steps. -/
theorem Reaches.of_run {steps : Nat} (h : World.run programs steps w = some w') :
    Reaches programs w w' ∧ w'.progress = .returned := by
  induction steps generalizing w with
  | zero =>
    simp only [World.run, Option.ite_none_right_eq_some, Option.some.injEq] at h
    obtain ⟨returned, rfl⟩ := h
    exact ⟨.refl, returned⟩
  | succ steps ih =>
    by_cases returned : w.progress = .returned
    · obtain rfl : w = w' := by simpa [World.run, returned] using h
      exact ⟨.refl, returned⟩
    · simp only [World.run, returned, if_false, Option.bind_eq_some_iff] at h
      obtain ⟨v, advance, rest⟩ := h
      obtain ⟨party, -, step⟩ := List.exists_of_findSome?_eq_some advance
      obtain ⟨reached, returned⟩ := ih rest
      exact ⟨.head ⟨party, step⟩ reached, returned⟩

end World

end PipeShell
