import PipeShell.Proofs.Run.Ownership
import PipeShell.Proofs.Run.Turn

/-!
# How the stages of a pipeline are connected

`Runner.Wired` says how the stages of a pipeline stand to each other when all have been started: what each of them is
doing, where its two streams go, and what join it reads from.  A stage is connected to the one before it if that one
was started and its standard output is not redirected (`Runner.Fed`), and the join between the two is fixed by what
they are (`Join.between`); in every other case a stage has no join in front of it, and its input is at its end.

`Runner.Connected` adds what holds while the pipeline runs, in whatever order the parties take their steps: all of this
stays as it is, a stage that did not start does nothing, each end of a join is touched by the one stage that holds it,
and it is open exactly as long as that stage runs.  The main statement is `Runner.connected_of_reaches`.
-/

namespace PipeShell

/-- Between two stages that were both started, the later one waits for input at first. -/
theorem Join.between_closed_iff (name : Text) (before : Role) {role : Role} (started : role ≠ .idle) :
    (∀ limit, (Join.between name before role).read? limit = some ([], Join.between name before role)) ↔
      before = .idle := by
  constructor
  · intro closed
    have hread := closed 1
    cases before <;> cases role <;> first | rfl | exact absurd rfl started | cases hread
  · rintro rfl limit
    cases role <;> rfl

/-- A new join has an end for either stage that was started, and no other. -/
theorem Join.heldBy_between (name : Text) (before role : Role) :
    (Join.between name before role).HeldBy (before != .idle) (role != .idle) := by
  cases before <;> cases role <;> simp [Join.between, Join.HeldBy, Relay.copies, Pipe.dropReader]

namespace Runner

variable {σ : Type} {r : Runner σ} {p : Pipeline} {ctx : Context} {h host host' : Host} {s s' : Stage} {isLast : Bool}
  {a : Actor σ} {out : Output} {err : Destination} {seat seat' : Seat σ} {i : Nat}

/-! ### What the end of a turn says about the streams -/

theorem Turn.opens (turn : Turn r ctx h s isLast a out err) (started : a.role ≠ .idle) :
    ∃ h₂, Opens r ctx h s isLast h₂ out err := by
  cases turn with
  | errRefused | outRefused | notStarted | notFound => exact absurd rfl started
  | builtin opens | program opens => exact ⟨_, opens⟩

theorem Turn.of_idle (turn : Turn r ctx h s isLast a out err) (idle : a.role = .idle) :
    out = .to .nowhere ∧ err = .nowhere := by
  cases turn with
  | errRefused | outRefused | notStarted | notFound => exact ⟨rfl, rfl⟩
  | builtin opens | program opens => cases idle

/-- The stages that write to the next one. -/
theorem Turn.out_eq_nextStage_iff (turn : Turn r ctx h s isLast a out err) :
    out = .nextStage ↔ a.role ≠ .idle ∧ s.redirections.out = none ∧ isLast = false := by
  by_cases idle : a.role = .idle
  · simp [idle, (turn.of_idle idle).1]
  · obtain ⟨h₂, opens⟩ := turn.opens idle
    have hout := opens.out_eq
    cases ht : s.redirections.out with
    | some target =>
      rw [ht] at hout
      obtain ⟨d, -, rfl⟩ := hout
      simp
    | none =>
      rw [ht] at hout
      simp only at hout
      subst hout
      cases isLast <;> simp [idle]

/-! ### The rules of connection -/

/-- Stage `i` of a pipeline is `s`, its turn came on `host`, and `seat` is its seat when all stages are started. -/
structure At (r : Runner σ) (p : Pipeline) (ctx : Context) (h : Host) (i : Nat) (s : Stage) (host : Host)
    (seat : Seat σ) : Prop where
  stage : p.stages[i]? = some s
  turn : ∃ t, (r.turns ctx h .absent p.stages)[i]? = some (host, t) ∧ t.seat = seat

/-- Stage `i` is connected to the one before it: that one was started, and its output is not redirected. -/
def Fed (r : Runner σ) (p : Pipeline) (ctx : Context) (h : Host) (i : Nat) : Prop :=
  ∃ k s host seat, i = k + 1 ∧ r.At p ctx h k s host seat ∧ seat.actor.role ≠ .idle ∧ s.redirections.out = none

/-- How the stages of a pipeline are connected when all have been started. -/
structure Wired (r : Runner σ) (p : Pipeline) (ctx : Context) (h : Host) : Prop where
  /-- Each stage has one seat. -/
  seats : (r.start p ctx h).seats.length = p.stages.length ∧
    ∀ {i s}, p.stages[i]? = some s → ∃ host seat, r.At p ctx h i s host seat ∧ (r.start p ctx h).seats[i]? = some seat
  /-- What a stage is doing, or why it did not start. -/
  turn : ∀ {i s host seat}, r.At p ctx h i s host seat →
    seat.name = s.name ∧ r.Turn ctx host s (decide (i + 1 = p.stages.length)) seat.actor seat.out seat.err
  /-- A stage writes to its own target, to the terminal if it is the last one, or else to the next stage. -/
  out : ∀ {i s host seat}, r.At p ctx h i s host seat → seat.actor.role ≠ .idle →
    match s.redirections.out with
    | some target =>
      ∃ d, target.Opened ctx.cwd (openAny host ctx.cwd s.redirections.err).1 d ∧ seat.out = .to d
    | none => seat.out = if i + 1 = p.stages.length then .to r.out else .nextStage
  /-- Diagnostics go to their own target or to the terminal, from all stages. -/
  err : ∀ {i s host seat}, r.At p ctx h i s host seat → seat.actor.role ≠ .idle →
    match s.redirections.err with
    | some target => target.Opened ctx.cwd host seat.err
    | none => seat.err = r.err
  /-- A stage that did not start writes nothing anywhere. -/
  idle : ∀ {i s host seat}, r.At p ctx h i s host seat → seat.actor.role = .idle →
    seat.out = .to .nowhere ∧ seat.err = .nowhere
  /-- The first stage has no join in front of it. -/
  first : ∀ {s host seat}, r.At p ctx h 0 s host seat → seat.input = .absent
  /-- Any other stage has a join in front of it if the stage before was started and is not redirected.  It is handed
  on as it is, it has one relay, or nobody reads it: then a relay drains it or it has lost its reader. -/
  next : ∀ {i s host seat s' host' seat'}, r.At p ctx h i s host seat → r.At p ctx h (i + 1) s' host' seat' →
    seat'.input =
      if s.redirections.out = none then .between s'.name seat.actor.role seat'.actor.role else .absent
  /-- A stage that was started is at the end of its input at once, unless it reads from the stage before. -/
  closed_iff : ∀ {i s host seat}, r.At p ctx h i s host seat → seat.actor.role ≠ .idle →
    ((∀ limit, seat.input.read? limit = some ([], seat.input)) ↔ ¬ r.Fed p ctx h i)

/-- How the stages of a pipeline are connected in a later world. -/
structure Connected (r : Runner σ) (p : Pipeline) (ctx : Context) (h : Host) (w : World σ) : Prop where
  wired : r.Wired p ctx h
  /-- All streams go where they went, and no join has come, gone or moved. -/
  wiring : w.wiring = (r.start p ctx h).wiring
  /-- A stage that did not start does nothing. -/
  idle : ∀ {i fate}, (r.start p ctx h).actor? i = some (.ended fate) → w.actor? i = some (.ended fate)
  /-- A stage that does not read from the one before it is at the end of its input. -/
  closed : ∀ {i}, ¬ r.Fed p ctx h i → ∀ limit, (w.input i).read? limit = some ([], w.input i)
  /-- The ends of the joins are open as long as the stages that hold them run. -/
  held : w.Held
  /-- Everyone keeps to the ends that they hold. -/
  orderly : ∀ {party w'}, w.step? r.programs party = some w' → w.Orderly r.programs party w'

/-! ### The rules hold from the start -/

theorem At.outcome (at_i : r.At p ctx h i s host seat) :
    ∃ t, (r.turns ctx h .absent p.stages)[i]? = some (host, t) ∧ t.seat = seat ∧
      Outcome r ctx host s (decide (i + 1 = p.stages.length)) (r.offeredTo ctx h .absent p.stages i) t := by
  obtain ⟨hs, t, ht, hseat⟩ := at_i
  exact ⟨t, ht, hseat, turns_outcome hs ht⟩

/-- A stage has one turn and one seat. -/
theorem At.unique (at_i : r.At p ctx h i s host seat) (at_i' : r.At p ctx h i s' host' seat') :
    s' = s ∧ host' = host ∧ seat' = seat := by
  obtain ⟨hs, t, ht, rfl⟩ := at_i
  obtain ⟨hs', t', ht', rfl⟩ := at_i'
  rw [hs] at hs'
  rw [ht] at ht'
  cases hs'
  cases ht'
  exact ⟨rfl, rfl, rfl⟩

/-- A stage that is seated has had its turn. -/
theorem exists_at (r : Runner σ) (ctx : Context) (h : Host) (hs : p.stages[i]? = some s) :
    ∃ host seat, r.At p ctx h i s host seat ∧ (r.start p ctx h).seats[i]? = some seat := by
  have hi : i < (r.turns ctx h .absent p.stages).length := by
    rw [length_turns]
    exact (List.getElem?_eq_some_iff.1 hs).1
  have ht := List.getElem?_eq_getElem hi
  generalize (r.turns ctx h .absent p.stages)[i] = turn at ht
  obtain ⟨host, t⟩ := turn
  refine ⟨host, t.seat, ⟨hs, t, ht, rfl⟩, ?_⟩
  simp [start, startStages_seats, ht]

theorem At.turn_eq (at_i : r.At p ctx h i s host seat) :
    seat.name = s.name ∧ r.Turn ctx host s (decide (i + 1 = p.stages.length)) seat.actor seat.out seat.err := by
  obtain ⟨t, -, rfl, outcome⟩ := at_i.outcome
  exact ⟨outcome.name, outcome.turn⟩

/-- The first stage is offered nothing. -/
theorem At.input_zero (at_zero : r.At p ctx h 0 s host seat) : seat.input = .absent := by
  obtain ⟨t, -, rfl, outcome⟩ := at_zero.outcome
  rw [outcome.input]
  exact Join.handedTo_absent _ _

/-- The join behind a stage, once the next one has had its turn. -/
theorem At.input_succ (before : r.At p ctx h i s host seat) (after : r.At p ctx h (i + 1) s' host' seat') :
    seat'.input = if s.redirections.out = none then .between s'.name seat.actor.role seat'.actor.role else .absent := by
  have hlast : decide (i + 1 = p.stages.length) = false := by
    have := (List.getElem?_eq_some_iff.1 after.stage).1
    exact decide_eq_false (by omega)
  obtain ⟨t, ht, rfl, outcome⟩ := before.outcome
  obtain ⟨t', -, rfl, outcome'⟩ := after.outcome
  have hoffer : r.offeredTo ctx h .absent p.stages (i + 1) = t.offer := by simp [offeredTo, ht]
  have hnext := outcome.turn.out_eq_nextStage_iff
  simp only [outcome'.input, hoffer, outcome.offer, hnext, hlast]
  by_cases hout : s.redirections.out = none
  · by_cases idle : t.seat.actor.role = .idle
    · -- No offer is made, and none is due.
      simp [hout, idle, Join.handedTo_absent, Join.between]
    · simp [hout, idle, Join.handedTo_offeredBy]
  · simp [hout, Join.handedTo_absent]

theorem fed_succ_iff (at_i : r.At p ctx h i s host seat) :
    r.Fed p ctx h (i + 1) ↔ seat.actor.role ≠ .idle ∧ s.redirections.out = none := by
  constructor
  · rintro ⟨k, s', host', seat', hk, at_k, started, out⟩
    obtain rfl : i = k := by omega
    obtain ⟨rfl, rfl, rfl⟩ := at_i.unique at_k
    exact ⟨started, out⟩
  · rintro ⟨started, out⟩
    exact ⟨i, s, host, seat, rfl, at_i, started, out⟩

/-- There is no join in front of a stage that is not connected to the one before it. -/
theorem At.input_of_not_fed (at_i : r.At p ctx h i s host seat) (unfed : ¬ r.Fed p ctx h i) :
    seat.input = .absent := by
  cases i with
  | zero => exact at_i.input_zero
  | succ k =>
    have hk : k < p.stages.length := by
      have := (List.getElem?_eq_some_iff.1 at_i.stage).1
      omega
    obtain ⟨host₀, seat₀, at_k, -⟩ := exists_at r ctx h (List.getElem?_eq_getElem hk)
    rw [fed_succ_iff at_k] at unfed
    rw [at_k.input_succ at_i]
    by_cases out : p.stages[k].redirections.out = none
    · by_cases idle : seat₀.actor.role = .idle
      · rw [if_pos out, idle]
        rfl
      · exact absurd ⟨idle, out⟩ unfed
    · exact if_neg out

/-- A stage that was started and is connected to the one before it has to wait for its input. -/
theorem At.not_closed_of_fed (at_i : r.At p ctx h i s host seat) (started : seat.actor.role ≠ .idle)
    (fed : r.Fed p ctx h i) : ¬ ∀ limit, seat.input.read? limit = some ([], seat.input) := by
  obtain ⟨k, s₀, host₀, seat₀, rfl, at_k, started₀, out⟩ := fed
  rw [at_k.input_succ at_i, if_pos out, Join.between_closed_iff _ _ started]
  exact started₀

theorem wired (r : Runner σ) (p : Pipeline) (ctx : Context) (h : Host) : r.Wired p ctx h where
  seats := ⟨by simp [start, startStages_seats, length_turns], fun hs => exists_at r ctx h hs⟩
  turn at_i := at_i.turn_eq
  out at_i started := by
    obtain ⟨h₂, opens⟩ := at_i.turn_eq.2.opens started
    have hout := opens.out_eq
    simp only [decide_eq_true_eq] at hout
    exact hout
  err at_i started := by
    obtain ⟨h₂, opens⟩ := at_i.turn_eq.2.opens started
    exact opens.err_eq
  idle at_i idle := at_i.turn_eq.2.of_idle idle
  first at_zero := at_zero.input_zero
  next before after := before.input_succ after
  closed_iff at_i started := by
    constructor
    · intro closed fed
      exact at_i.not_closed_of_fed started fed closed
    · intro unfed limit
      rw [at_i.input_of_not_fed unfed]
      rfl

/-! ### The rules hold all along -/

theorem start_input_of_not_fed (unfed : ¬ r.Fed p ctx h i) : (r.start p ctx h).input i = .absent := by
  cases hs : p.stages[i]? with
  | none =>
    have hi : p.stages.length ≤ i := List.getElem?_eq_none_iff.1 hs
    exact World.input_of_le (by rw [(wired r p ctx h).seats.1]; exact hi)
  | some s =>
    obtain ⟨host, seat, at_i, hseat⟩ := exists_at r ctx h hs
    rw [World.input_eq hseat]
    exact at_i.input_of_not_fed unfed

theorem apart_start (r : Runner σ) (p : Pipeline) (ctx : Context) (h : Host) : (r.start p ctx h).Apart := by
  intro k seat hseat out
  have hk : k < p.stages.length := by
    rw [← (wired r p ctx h).seats.1]
    exact (List.getElem?_eq_some_iff.1 hseat).1
  obtain ⟨host, seat', at_k, hseat'⟩ := exists_at r ctx h (List.getElem?_eq_getElem hk)
  rw [hseat] at hseat'
  cases hseat'
  have hnext := at_k.turn_eq.2.out_eq_nextStage_iff
  by_cases last : k + 1 = p.stages.length
  · exact World.input_of_le (by rw [(wired r p ctx h).seats.1]; omega)
  · apply start_input_of_not_fed
    rw [fed_succ_iff at_k]
    rintro ⟨started, unredirected⟩
    exact out (hnext.2 ⟨started, unredirected, decide_eq_false last⟩)

theorem held_start (r : Runner σ) (p : Pipeline) (ctx : Context) (h : Host) : (r.start p ctx h).Held where
  joins k := by
    cases hs' : p.stages[k + 1]? with
    | none =>
      have hk : p.stages.length ≤ k + 1 := List.getElem?_eq_none_iff.1 hs'
      rw [World.input_of_le (by rw [(wired r p ctx h).seats.1]; exact hk)]
      trivial
    | some s' =>
      have hk : k < p.stages.length := by
        have := (List.getElem?_eq_some_iff.1 hs').1
        omega
      obtain ⟨host, seat, at_k, hseat⟩ := exists_at r ctx h (List.getElem?_eq_getElem hk)
      obtain ⟨host', seat', at_succ, hseat'⟩ := exists_at r ctx h hs'
      rw [World.input_eq hseat', at_k.input_succ at_succ]
      simp only [World.runs, World.role_eq hseat, World.role_eq hseat']
      split
      · exact Join.heldBy_between _ _ _
      · trivial
  settled waits := absurd rfl waits

theorem wiring_of_reaches {w : World σ} (reached : World.Reaches r.programs (r.start p ctx h) w) :
    w.wiring = (r.start p ctx h).wiring :=
  World.wiring_of_reaches reached

theorem held_of_reaches {w : World σ} (reached : World.Reaches r.programs (r.start p ctx h) w) : w.Held :=
  reached.invariant (held_start r p ctx h) fun held step => step.held held

/-- **The stages of a pipeline are connected by its rules**, from the moment when all of them have been started to the
end, and in whatever order the parties take their steps. -/
theorem connected_of_reaches (r : Runner σ) (p : Pipeline) (ctx : Context) (h : Host) {w : World σ}
    (reached : World.Reaches r.programs (r.start p ctx h) w) : r.Connected p ctx h w := by
  have wiring : w.wiring = (r.start p ctx h).wiring := wiring_of_reaches reached
  have apart : w.Apart := (apart_start r p ctx h).of_wiring_eq wiring
  exact
    { wired := wired r p ctx h
      wiring := wiring
      idle := fun {i fate} ended =>
        reached.invariant (I := fun v => v.actor? i = some (.ended fate)) ended fun ended step =>
          step.actor?_of_ended ended
      closed := fun {i} unfed limit => by
        rw [World.input_eq_absent wiring (start_input_of_not_fed unfed)]
        rfl
      held := held_of_reaches reached
      orderly := fun step => (World.step?_iff.1 step).orderly apart }

/-- A shell with one builtin, which writes a byte, and without programs. -/
def lettered : Runner Unit where
  registry := ⟨[⟨['a'], fun _ => .write .out [65] fun _ => .done {}⟩]⟩
  programs := ⟨fun _ _ => .error .brokenPipe, fun _ => .done (.exited 0)⟩

/-- The builtin in front of a stage that does not start, and behind it. -/
def lettersApart : Pipeline := ⟨[⟨[['a']], {}⟩, ⟨[['b']], {}⟩, ⟨[['a']], {}⟩]⟩

/-- The first builtin has written, and its byte waits to be drained. -/
theorem connected_of_reaches_drained :
    ∃ w, World.Reaches lettered.programs (lettered.start lettersApart {} {}) w ∧
      w.input 1 = .draining { chunks := [[65]] } { label := "drain b".toList } ∧
      lettered.Connected lettersApart {} {} w := by
  obtain ⟨w, step, drained⟩ :
      ∃ w, (lettered.start lettersApart {} {}).step? lettered.programs .shell = some w ∧
        w.input 1 = .draining { chunks := [[65]] } { label := "drain b".toList } := ⟨_, rfl, rfl⟩
  have reached : World.Reaches lettered.programs (lettered.start lettersApart {} {}) w := .single ⟨.shell, step⟩
  exact ⟨w, reached, drained, connected_of_reaches _ _ _ _ reached⟩

/-- A run of a pipeline is one of the orders in which the parties can take their steps. -/
theorem reaches_of_run {summary : Summary} (ran : r.run p ctx h = some (summary, host)) :
    ∃ w, World.Reaches r.programs (r.start p ctx h) w ∧ w.progress = .returned ∧ host = w.host ∧
      summary = ⟨w.fates, w.request.directory, w.request.exit⟩ := by
  simp only [run, Option.map_eq_some_iff, Prod.mk.injEq] at ran
  obtain ⟨w, ran, rfl, rfl⟩ := ran
  obtain ⟨reached, returned⟩ := World.Reaches.of_run ran
  exact ⟨w, reached, returned, rfl, rfl⟩

end Runner

end PipeShell
