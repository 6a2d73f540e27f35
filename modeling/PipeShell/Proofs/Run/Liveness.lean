import PipeShell.Proofs.Run.Delivery

/-!
# A pipeline does not get stuck

Whoever has to wait at a join waits for somebody who is at work there: for its relay, or else for the stage at its
other end, which was started and has not ended (`Join.HeldBy.starved`, `Join.HeldBy.choked`).  Two facts about the
whole pipeline make an end of all waiting:

* If a stage has to wait for input and no relay or program before it can go on, then a builtin runs further to the left
  (`World.Fit.exists_builtin_of_starved`).  So the builtin whose turn it is never waits for another builtin, since it
  is the first one.
* When no builtins are left, the last program that runs does not wait for room, since the stage behind it has ended,
  and does not wait for input either.

`World.Live` says who can take a step when, and `Runner.live_of_reaches` that it holds all along.
-/

namespace PipeShell

/-! ### Who waits at a join -/

namespace Pipe

variable {p : Pipe} {data : Bytes} {limit : Nat}

/-- There is room in an empty pipe. -/
theorem write?_ne_none_of_empty (empty : p.buffer = []) (data : Bytes) : p.write? data ≠ none := by
  unfold write?
  split
  · simp
  · split
    · simp
    · simp [empty, pipeCapacity]

/-- A write waits only for a reader, and only when there is something to read. -/
theorem full_of_write?_none (h : p.write? data = none) : p.hasReader = true ∧ p.buffer ≠ [] := by
  refine ⟨?_, fun empty => write?_ne_none_of_empty empty data h⟩
  unfold write? at h
  split at h
  · cases h
  · split at h
    · cases h
    · rename_i reader
      simpa using reader

end Pipe

namespace Join

variable {j : Join} {writes reads : Bool} {limit : Nat} {data : Bytes}

/-- A relay with empty hands waits for input, and one with bytes in hand waits for room. -/
theorem feeding_waits {c : Channel} {r : Relay} {p : Pipe} (stuck : (feeding c r p).stepRelay? = none)
    (copying : r.state = .copying) :
    if r.held = [] then c.read? relayChunk = none else p.write? r.held = none := by
  simp only [stepRelay?, relay?, copying, ne_eq, not_true_eq_false, if_false, stepFeeding?] at stuck
  split
  · rename_i idle
    simpa [idle] using stuck
  · rename_i busy
    simpa [busy] using stuck

/-- A relay into a channel waits for input only. -/
theorem collecting_waits {p : Pipe} {r : Relay} {c : Channel} (stuck : (collecting p r c).stepRelay? = none)
    (copying : r.state = .copying) : r.held = [] ∧ p.read? relayChunk = none := by
  simp only [stepRelay?, relay?, copying, ne_eq, not_true_eq_false, if_false, stepCollecting?] at stuck
  by_cases idle : r.held = []
  · exact ⟨idle, by simpa [idle] using stuck⟩
  · simp [idle] at stuck

theorem draining_waits {c : Channel} {r : Relay} (stuck : (draining c r).stepRelay? = none)
    (copying : r.state = .copying) : c.read? relayChunk = none := by
  simpa [stepRelay?, relay?, copying, stepDraining?] using stuck

theorem copying_of_copies {r : Relay} (h : r.copies = true) : r.state = .copying := by simpa [Relay.copies] using h

/-- Whoever waits for input, though the relay cannot go on, waits for the earlier stage, and that could write. -/
theorem HeldBy.starved (held : j.HeldBy writes reads) (stuck : j.stepRelay? = none) (waits : j.read? limit = none) :
    writes = true ∧ ∀ data, j.write? data ≠ none := by
  cases j with
  | absent | draining => cases waits
  | channel c =>
    obtain ⟨-, writer⟩ := Channel.empty_of_read?_none (Option.map_eq_none_iff.1 waits)
    exact ⟨held.1.symm.trans writer, fun data => by simp [Join.write?]⟩
  | pipe p =>
    obtain ⟨empty, writer⟩ := Pipe.empty_of_read?_none (Option.map_eq_none_iff.1 waits)
    exact ⟨held.1.symm.trans writer, fun data => by simpa [Join.write?] using Pipe.write?_ne_none_of_empty empty data⟩
  | feeding c r p =>
    obtain ⟨empty, writer⟩ := Pipe.empty_of_read?_none (Option.map_eq_none_iff.1 waits)
    have relay := feeding_waits stuck (copying_of_copies (held.2.2.2.symm.trans writer))
    -- There is room in the pipe, so that the relay has nothing in hand.
    split at relay
    · obtain ⟨-, writer⟩ := Channel.empty_of_read?_none relay
      exact ⟨held.1.symm.trans writer, fun data => by simp [Join.write?]⟩
    · exact absurd relay (Pipe.write?_ne_none_of_empty empty _)
  | collecting p r c =>
    obtain ⟨-, writer⟩ := Channel.empty_of_read?_none (Option.map_eq_none_iff.1 waits)
    obtain ⟨-, relay⟩ := collecting_waits stuck (copying_of_copies (held.2.2.2.symm.trans writer))
    obtain ⟨empty, writer⟩ := Pipe.empty_of_read?_none relay
    exact ⟨held.1.symm.trans writer, fun data => by simpa [Join.write?] using Pipe.write?_ne_none_of_empty empty data⟩

/-- Whoever waits for room, though the relay cannot go on, waits for the later stage. -/
theorem HeldBy.choked (held : j.HeldBy writes reads) (stuck : j.stepRelay? = none) (waits : j.write? data = none) :
    reads = true := by
  cases j with
  | absent | channel c | feeding c r p | draining c r => cases waits
  | pipe p =>
    obtain ⟨reader, -⟩ := Pipe.full_of_write?_none (Option.map_eq_none_iff.1 waits)
    exact held.2.symm.trans reader
  | collecting p r c =>
    -- The relay reads what fills the pipe.
    obtain ⟨reader, full⟩ := Pipe.full_of_write?_none (Option.map_eq_none_iff.1 waits)
    obtain ⟨-, relay⟩ := collecting_waits stuck (copying_of_copies (held.2.2.1.symm.trans reader))
    exact absurd (Pipe.empty_of_read?_none relay).1 full

/-- A relay that cannot go on waits for the stage before it if it has nothing in hand, and else for the one behind. -/
theorem HeldBy.relay_waits {r : Relay} (held : j.HeldBy writes reads) (relay : j.relay? = some r)
    (copying : r.state = .copying) (stuck : j.stepRelay? = none) :
    if r.held = [] ∨ j.leadsOn = false then writes = true else reads = true := by
  cases j with
  | absent | channel c | pipe p => cases relay
  | feeding c r p =>
    cases relay
    have waits := feeding_waits stuck copying
    by_cases idle : r.held = []
    · rw [if_pos idle] at waits
      rw [if_pos (.inl idle)]
      exact held.1.symm.trans (Channel.empty_of_read?_none waits).2
    · rw [if_neg idle] at waits
      rw [if_neg (by simp [idle, leadsOn])]
      exact held.2.1.symm.trans (Pipe.full_of_write?_none waits).1
  | collecting p r c =>
    cases relay
    obtain ⟨idle, waits⟩ := collecting_waits stuck copying
    rw [if_pos (.inl idle)]
    exact held.1.symm.trans (Pipe.empty_of_read?_none waits).2
  | draining c r =>
    cases relay
    rw [if_pos (.inr rfl)]
    exact held.1.symm.trans (Channel.empty_of_read?_none (draining_waits stuck copying)).2

/-- The relay of a join, if it needs one, has not come to its end. -/
def copies (j : Join) : Bool := (j.relay?.map Relay.copies).getD false

/-- A join that a builtin writes to takes everything at once. -/
def isUnbounded : Join → Bool
  | .pipe _ | .collecting _ _ _ => false
  | _ => true

theorem isUnbounded_fresh (j : Join) : j.fresh.isUnbounded = j.isUnbounded := by cases j <;> rfl

theorem write?_ne_none_of_isUnbounded (h : j.isUnbounded = true) (data : Bytes) : j.write? data ≠ none := by
  cases j with
  | absent | channel | feeding | draining => simp [write?]
  | pipe | collecting => cases h

theorem isUnbounded_between (name : Text) (role : Role) : (between name .builtin role).isUnbounded = true := by
  cases role <;> rfl

end Join

/-- The shell has gone past stage `k`. -/
def Progress.past : Progress → Nat → Prop
  | .running, _ => False
  | .waiting n, k => k < n
  | .joining _, _ | .returned, _ => True

namespace World

variable {σ : Type} {programs : Programs σ} {w w' : World σ} {party : Party} {k i limit : Nat} {s : Seat σ}
  {request : Request Finish (Actor σ)}

/-- What keeps a pipeline from getting stuck: the first stage reads from no join, a builtin writes to one that takes
everything at once, and the shell has gone past no stage that runs. -/
structure Fit (w : World σ) : Prop where
  held : w.Held
  first : w.input 0 = .absent
  unbounded : ∀ k, w.role k = .builtin → (w.input (k + 1)).isUnbounded = true
  past : ∀ k, w.progress.past k → w.role k = .idle

/-! ### Every step keeps it -/

theorem awaitStage?_progress (h : w.awaitStage? k = some w') :
    w'.progress = .waiting (k + 1) ∧ k < w.seats.length ∧ w.role k ≠ .program ∨
      w'.progress = .joining 0 ∧ w.seats.length ≤ k := by
  cases pastStage_of_awaitStage? h with
  | noMore seat => exact .inr ⟨rfl, List.getElem?_eq_none_iff.1 seat⟩
  | gone seat actor | neverRun seat actor | ended seat actor =>
    exact .inl ⟨rfl, (List.getElem?_eq_some_iff.1 seat).1, by simp [role_eq seat, actor, Actor.role]⟩

theorem awaitRelay?_progress (h : w.awaitRelay? k = some w') :
    w'.progress = .joining (k + 1) ∧ k < w.seats.length ∧ (w.input k).copies = false ∨
      w'.progress = .returned ∧ w.seats.length ≤ k := by
  cases pastRelay_of_awaitRelay? h with
  | noMore seat => exact .inr ⟨rfl, List.getElem?_eq_none_iff.1 seat⟩
  | unrelayed seat relay =>
    exact .inl ⟨rfl, (List.getElem?_eq_some_iff.1 seat).1, by simp [input_eq seat, Join.copies, relay]⟩
  | finished seat relay state | stopped seat relay state =>
    refine .inl ⟨rfl, (List.getElem?_eq_some_iff.1 seat).1, ?_⟩
    simp [input_eq seat, Join.copies, relay, Relay.copies, state]

theorem Step.role_eq_idle (step : Step programs w party w') (idle : w.role k = .idle) : w'.role k = .idle :=
  (step.role_eq_or_idle k).elim (·.trans idle) id

/-- The shell goes past a stage when its program has ended. -/
theorem Step.past (step : Step programs w party w') (fit : w.Fit) : ∀ k, w'.progress.past k → w'.role k = .idle := by
  suffices past : ∀ k, w'.progress.past k → w.role k = .idle from fun k hk => step.role_eq_idle (past k hk)
  cases step with
  | done acts =>
    rw [progress_finish]
    exact fit.past
  | read | wrote | refused | passed | passedPart | broken | called | relayed => exact fit.past
  | turned running last => exact fun k hk => absurd hk (Nat.not_lt_zero k)
  | @awaited n _ waiting past =>
    have before : ∀ k, k < n → w.role k = .idle := fun k hk => fit.past k (by rw [waiting]; exact hk)
    rcases awaitStage?_progress past with ⟨progress, -, ended⟩ | ⟨-, all⟩
    · intro k hk
      rw [progress] at hk
      rcases Nat.lt_succ_iff_lt_or_eq.1 hk with hk | rfl
      · exact before k hk
      · cases role : w.role k with
        | idle => rfl
        | builtin => exact absurd role (fit.held.settled (by simp [waiting]) k)
        | program => exact absurd role ended
    · intro k _
      by_cases hk : k < n
      · exact before k hk
      · refine role_eq_idle_iff.2 (Bool.eq_false_iff.2 fun runs => ?_)
        have := lt_of_runs runs
        omega
  | @joined n _ joining past =>
    intro k _
    exact fit.past k (by rw [joining]; trivial)

theorem Step.fit (step : Step programs w party w') (fit : w.Fit) : w'.Fit where
  held := step.held fit.held
  first := input_eq_absent step.wiring_eq fit.first
  unbounded k builtin := by
    have before : w.role k = .builtin := by
      rcases step.role_eq_or_idle k with same | idle
      · rw [← same, builtin]
      · rw [idle] at builtin
        cases builtin
    rw [← Join.isUnbounded_fresh, input_fresh_eq step.wiring_eq, Join.isUnbounded_fresh]
    exact fit.unbounded k before
  past := step.past fit

theorem Fit.of_reaches (fit : w.Fit) (reached : Reaches programs w w') : w'.Fit :=
  reached.invariant fit fun fit step => step.fit fit

/-! ### Whoever waits, waits for somebody who is at work -/

/-- A party can take a step. -/
def CanStep (programs : Programs σ) (w : World σ) (party : Party) : Prop := (w.step? programs party).isSome = true

theorem stepRelay?_eq_none (stuck : ¬ w.CanStep programs (.relay k)) : (w.input k).stepRelay? = none := by
  simp only [CanStep, Option.not_isSome_iff_eq_none, step?, stepRelay?] at stuck
  split at stuck
  · rename_i s seat
    rw [input_eq seat]
    exact Option.map_eq_none_iff.1 stuck
  · rename_i none
    rw [input_of_le (List.getElem?_eq_none_iff.1 none)]
    rfl

/-- A stage waits only to read its input and to write to the next stage. -/
theorem Acts.blocked (acts : Acts programs w party k s request) (stuck : ¬ w.CanStep programs party) :
    (∃ limit, (w.input k).read? limit = none) ∨ ∃ data, (w.input (k + 1)).write? data = none := by
  rw [CanStep, Option.not_isSome_iff_eq_none, acts.step?_eq] at stuck
  simp only [stepStage?, Option.map_eq_none_iff] at stuck
  cases request with
  | done | call => cases stuck
  | read limit next =>
    rw [input_eq acts.seat]
    exact .inl ⟨limit, Option.map_eq_none_iff.1 stuck⟩
  | write stream data next =>
    have stuck := Option.map_eq_none_iff.1 stuck
    unfold serveWrite at stuck
    split at stuck
    · split at stuck <;> cases stuck
    · split at stuck
      · rename_i waits
        exact .inr ⟨_, waits⟩
      all_goals cases stuck

theorem exists_acts_of_program (programs : Programs σ) (program : w.role k = .program) :
    ∃ s request, Acts programs w (.process k) k s request := by
  have hk : k < w.seats.length := lt_of_runs (by simp [runs, program])
  have seat := List.getElem?_eq_getElem hk
  rw [role_eq seat] at program
  cases actor : w.seats[k].actor with
  | process state => exact ⟨_, _, .process seat actor⟩
  | builtin | gone | ended => simp [actor, Actor.role] at program

theorem exists_of_role_eq_builtin (builtin : w.role k = .builtin) :
    ∃ s act, w.seats[k]? = some s ∧ s.actor = .builtin act := by
  have hk : k < w.seats.length := lt_of_runs (by simp [runs, builtin])
  have seat := List.getElem?_eq_getElem hk
  rw [role_eq seat] at builtin
  cases actor : w.seats[k].actor with
  | builtin act => exact ⟨_, act, seat, actor⟩
  | process | gone | ended => simp [actor, Actor.role] at builtin

/-- Whoever has to wait for input, while no relay or process before it can go on, waits for a builtin. -/
theorem Fit.exists_builtin_of_starved (fit : w.Fit) (relays : ∀ i, i ≤ k → ¬ w.CanStep programs (.relay i))
    (processes : ∀ i, i < k → ¬ w.CanStep programs (.process i)) (waits : (w.input k).read? limit = none) :
    ∃ i, i < k ∧ w.role i = .builtin := by
  induction k generalizing limit with
  | zero =>
    rw [fit.first] at waits
    cases waits
  | succ k ih =>
    obtain ⟨runs, room⟩ := (fit.held.joins k).starved (stepRelay?_eq_none (relays _ (Nat.le_refl _))) waits
    cases role : w.role k with
    | idle => simp [World.runs, role] at runs
    | builtin => exact ⟨k, Nat.lt_succ_self k, role⟩
    | program =>
      -- It could write, so it waits for input itself.
      obtain ⟨s, request, acts⟩ := exists_acts_of_program programs role
      rcases acts.blocked (processes k (Nat.lt_succ_self k)) with ⟨limit, waits⟩ | ⟨data, waits⟩
      · obtain ⟨i, hi, builtin⟩ := ih (fun i hi => relays i (by omega)) (fun i hi => processes i (by omega)) waits
        exact ⟨i, by omega, builtin⟩
      · exact absurd waits (room data)

/-- If the builtin whose turn it is has to wait, then a relay or a process before it can go on. -/
theorem Fit.exists_canStep_before (fit : w.Fit) {act : Act Reply} (running : w.progress = .running)
    (next : w.nextBuiltin? = some (k, s, act)) (stuck : ¬ w.CanStep programs .shell) :
    ∃ i, i ≤ k ∧ w.CanStep programs (.relay i) ∨ i < k ∧ w.CanStep programs (.process i) := by
  apply Classical.byContradiction
  intro none
  have acts : Acts programs w .shell k s _ := .builtin running next
  obtain ⟨seat, actor, isFirst⟩ := nextBuiltin?_eq_some next
  rcases acts.blocked stuck with ⟨limit, waits⟩ | ⟨data, waits⟩
  · obtain ⟨i, hi, builtin⟩ := fit.exists_builtin_of_starved (fun i hi step => none ⟨i, .inl ⟨hi, step⟩⟩)
      (fun i hi step => none ⟨i, .inr ⟨hi, step⟩⟩) waits
    obtain ⟨t, a, seat', actor'⟩ := exists_of_role_eq_builtin builtin
    exact isFirst i t a hi seat' actor'
  · have unbounded := fit.unbounded k (by rw [role_eq seat, actor]; rfl)
    exact Join.write?_ne_none_of_isUnbounded unbounded data waits

/-- When all builtins have ended and nobody can go on, no program is left. -/
theorem Fit.runs_eq_false_of_stuck (fit : w.Fit) (settled : w.progress ≠ .running)
    (stuck : ∀ party, ¬ w.CanStep programs party) (k : Nat) : w.runs k = false := by
  -- The induction is from the last stage to the first, since a program that waits for room waits for the next one.
  suffices last : ∀ n k, w.seats.length ≤ k + n → w.runs k = false from last w.seats.length k (by omega)
  intro n
  induction n with
  | zero => exact fun k hk => Bool.eq_false_iff.2 fun runs => by have := lt_of_runs runs; omega
  | succ n ih =>
    intro k hk
    rw [← role_eq_idle_iff]
    cases role : w.role k with
    | idle => rfl
    | builtin => exact absurd role (fit.held.settled settled k)
    | program =>
      obtain ⟨s, request, acts⟩ := exists_acts_of_program programs role
      rcases acts.blocked (stuck _) with ⟨limit, waits⟩ | ⟨data, waits⟩
      · obtain ⟨i, -, builtin⟩ := fit.exists_builtin_of_starved (fun i _ => stuck (.relay i))
          (fun i _ => stuck (.process i)) waits
        exact absurd builtin (fit.held.settled settled i)
      · have next := (fit.held.joins k).choked (stepRelay?_eq_none (stuck _)) waits
        rw [ih (k + 1) (by omega)] at next
        cases next

/-- A relay that copies can go on, or it waits for a stage that runs. -/
theorem Fit.relay_waits (fit : w.Fit) {r : Relay} (relay : (w.input k).relay? = some r) (copying : r.state = .copying)
    (stuck : ¬ w.CanStep programs (.relay k)) :
    if r.held = [] ∨ (w.input k).leadsOn = false then ∃ i, k = i + 1 ∧ w.runs i = true else w.runs k = true := by
  cases k with
  | zero =>
    rw [fit.first] at relay
    cases relay
  | succ i =>
    have waits := (fit.held.joins i).relay_waits relay copying (stepRelay?_eq_none stuck)
    split at waits
    · rename_i h
      rw [if_pos h]
      exact ⟨i, rfl, waits⟩
    · rename_i h
      rw [if_neg h]
      exact waits

/-- **Somebody can go on** until the shell has returned. -/
theorem Fit.exists_canStep (fit : w.Fit) (programs : Programs σ) (going : w.progress ≠ .returned) :
    ∃ party, w.CanStep programs party := by
  apply Classical.byContradiction
  intro none
  have stuck : ∀ party, ¬ w.CanStep programs party := fun party step => none ⟨party, step⟩
  have shell := stuck .shell
  simp only [CanStep, Option.not_isSome_iff_eq_none, step?, stepShell?] at shell
  cases progress : w.progress with
  | returned => exact going progress
  | running =>
    cases next : w.nextBuiltin? with
    | none => simp [progress, next] at shell
    | some found =>
      obtain ⟨i, ⟨-, step⟩ | ⟨-, step⟩⟩ := fit.exists_canStep_before progress next (stuck .shell)
      · exact stuck _ step
      · exact stuck _ step
  | waiting k =>
    have ended := fit.runs_eq_false_of_stuck (by simp [progress]) stuck k
    rw [← role_eq_idle_iff] at ended
    simp only [progress, awaitStage?] at shell
    split at shell
    · cases shell
    · rename_i s seat
      rw [role_eq seat] at ended
      split at shell
      · rename_i actor
        simp [actor, Actor.role] at ended
      all_goals cases shell
  | joining k =>
    have idle : ∀ i, w.runs i = false := fun i => role_eq_idle_iff.1 (fit.past i (by rw [progress]; trivial))
    simp only [progress, awaitRelay?] at shell
    split at shell
    · cases shell
    · rename_i s seat
      split at shell
      · cases shell
      · rename_i r relay
        split at shell
        · rename_i copying
          rw [← input_eq seat] at relay
          have waits := fit.relay_waits relay copying (stuck _)
          simp only [idle] at waits
          simp at waits
        all_goals cases shell

/-- Who can take a step, and for whom the others wait. -/
structure Live (programs : Programs σ) (w : World σ) : Prop where
  /-- Until the shell has returned, somebody can take a step. -/
  advances : w.progress ≠ .returned → ∃ party w', w.step? programs party = some w'
  /-- A builtin does not wait for a later one: if the one whose turn it is has to wait, a relay or a process before it
  can take a step. -/
  builtin : ∀ {k : Nat} {s : Seat σ} {act : Act Reply}, w.progress = .running → w.nextBuiltin? = some (k, s, act) →
    w.step? programs .shell = none →
      ∃ i, i ≤ k ∧ w.CanStep programs (.relay i) ∨ i < k ∧ w.CanStep programs (.process i)
  /-- A stage waits for input only from a relay that can take a step, or from the stage before it, which runs. -/
  reader : ∀ {k limit : Nat}, (w.input k).read? limit = none →
    w.CanStep programs (.relay k) ∨ ∃ i, k = i + 1 ∧ w.runs i = true
  /-- A stage waits for room only until a relay that can take a step makes some, or the next stage, which runs. -/
  writer : ∀ {k : Nat} {data : Bytes}, (w.input (k + 1)).write? data = none →
    w.CanStep programs (.relay (k + 1)) ∨ w.runs (k + 1) = true
  /-- A relay that has not come to its end waits only for a stage that runs. -/
  relay : ∀ {k : Nat} {r : Relay}, (w.input k).relay? = some r → r.state = .copying →
    w.CanStep programs (.relay k) ∨ ∃ i, (k = i ∨ k = i + 1) ∧ w.runs i = true

theorem Fit.live (fit : w.Fit) (programs : Programs σ) : w.Live programs where
  advances going := by
    obtain ⟨party, step⟩ := fit.exists_canStep programs going
    obtain ⟨w', step⟩ := Option.isSome_iff_exists.1 step
    exact ⟨party, w', step⟩
  builtin running next stuck := fit.exists_canStep_before running next (by simp [CanStep, stuck])
  reader {k limit} waits := by
    by_cases step : w.CanStep programs (.relay k)
    · exact .inl step
    · cases k with
      | zero =>
        rw [fit.first] at waits
        cases waits
      | succ i => exact .inr ⟨i, rfl, ((fit.held.joins i).starved (stepRelay?_eq_none step) waits).1⟩
  writer {k data} waits := by
    by_cases step : w.CanStep programs (.relay (k + 1))
    · exact .inl step
    · exact .inr ((fit.held.joins k).choked (stepRelay?_eq_none step) waits)
  relay {k r} relay copying := by
    by_cases step : w.CanStep programs (.relay k)
    · exact .inl step
    · have waits := fit.relay_waits relay copying step
      split at waits
      · obtain ⟨i, rfl, runs⟩ := waits
        exact .inr ⟨i, .inr rfl, runs⟩
      · exact .inr ⟨k, .inl rfl, waits⟩

end World

namespace Runner

variable {σ : Type} {r : Runner σ} {p : Pipeline} {ctx : Context} {h : Host} {w : World σ}

/-- A builtin that writes to the next stage finds room there from the start. -/
theorem isUnbounded_start {k : Nat} (builtin : (r.start p ctx h).role k = .builtin) :
    ((r.start p ctx h).input (k + 1)).isUnbounded = true := by
  cases hs' : p.stages[k + 1]? with
  | none =>
    rw [World.input_of_le]
    · rfl
    · rw [(wired r p ctx h).seats.1]
      exact List.getElem?_eq_none_iff.1 hs'
  | some s' =>
    have hk : k < p.stages.length := by
      have := (List.getElem?_eq_some_iff.1 hs').1
      omega
    obtain ⟨host, seat, at_k, hseat⟩ := exists_at r ctx h (List.getElem?_eq_getElem hk)
    obtain ⟨host', seat', at_succ, hseat'⟩ := exists_at r ctx h hs'
    rw [World.role_eq hseat] at builtin
    rw [World.input_eq hseat', at_k.input_succ at_succ, builtin]
    split
    · exact Join.isUnbounded_between _ _
    · rfl

theorem fit_start (r : Runner σ) (p : Pipeline) (ctx : Context) (h : Host) : (r.start p ctx h).Fit where
  held := held_start r p ctx h
  first := start_input_of_not_fed fun ⟨_, _, _, _, zero, _⟩ => by cases zero
  unbounded _ builtin := isUnbounded_start builtin
  past _ past := past.elim

theorem fit_of_reaches (reached : World.Reaches r.programs (r.start p ctx h) w) : w.Fit :=
  (fit_start r p ctx h).of_reaches reached

/-- **A pipeline does not get stuck**, whatever its stages are, and in whatever order the parties have taken their
steps.  A stage that runs, and for which somebody may wait, is one that was started. -/
theorem live_of_reaches (reached : World.Reaches r.programs (r.start p ctx h) w) :
    w.Live r.programs ∧ ∀ k, w.runs k = true → (r.start p ctx h).runs k = true := by
  refine ⟨(fit_of_reaches reached).live r.programs, fun k runs => ?_⟩
  cases started : (r.start p ctx h).runs k with
  | true => rfl
  | false =>
    have ended : w.runs k = false :=
      reached.invariant (I := fun v => v.runs k = false) started fun ended step => step.runs_eq_false ended
    rw [runs] at ended
    cases ended

/-- The builtin has written and ended, and the shell waits for the program, which waits for the relay. -/
theorem live_of_reaches_copied :
    ∃ w, World.Reaches copying.programs (copying.start copied {} copyingHost) w ∧
      w.step? copying.programs .shell = none ∧ w.step? copying.programs (.process 1) = none ∧
      w.Live copying.programs ∧ ∀ k, w.runs k = true → (copying.start copied {} copyingHost).runs k = true := by
  obtain ⟨trace, w, replayed, shell, process⟩ :
      ∃ trace w, (copying.start copied {} copyingHost).replay copying.programs
          [.shell, .shell, .shell, .shell] = some (trace, w) ∧
        w.step? copying.programs .shell = none ∧ w.step? copying.programs (.process 1) = none := by
    rw [start_copied]
    exact ⟨_, _, rfl, rfl, rfl⟩
  have reached := (World.Runs.of_replay replayed).reaches
  exact ⟨w, reached, shell, process, live_of_reaches reached⟩

end Runner

end PipeShell
