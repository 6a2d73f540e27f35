import PipeShell.Builtin.Standard
import PipeShell.Proofs.Run.Course

/-!
# What a builtin meets behind it

A builtin that passes its output on writes it into a channel, so it never waits.  Behind the channel may be a builtin,
whose turn comes only later, so that it still holds its end; a stage that did not start, for which a relay drains the
channel to its end; or a program, which a relay feeds.  If the program ends before it has read everything, the relay
gives up, and with it goes the reading end of the channel (`Join.IsCutOff`).

This is the only way in which a builtin can come to know who is behind it: everything it writes to the next stage is
taken at once and in full, except that after its relay has given up nothing is taken any more
(`Runner.fares_of_reaches`).  Whether that happens before a builtin has written everything depends on the order in
which the parties take their steps, so the same `echo` may succeed and fail (`Runner.echo_depends_on_order`).
-/

namespace PipeShell

/-! ### Relays behind a builtin -/

namespace Join

/-- The relay to a program has given up. -/
def IsCutOff : Join → Prop
  | .feeding _ r _ => ∃ fault, r.state = .stopped fault
  | _ => False

/-- A relay that reads what a builtin writes comes to its end when the builtin has ended, or gives up because the
program behind it is gone. -/
def EndsInTime : Join → Prop
  | .feeding c r p =>
    (r.state = .finished → c.hasWriter = false) ∧ ((∃ fault, r.state = .stopped fault) → p.hasReader = false)
  | .draining c r => r.state = .copying ∨ c.hasWriter = false
  | _ => True

variable {j j' : Join} {given taken data : Bytes} {writes reads : Bool}

theorem EndsInTime.of_stepRelay? (inTime : j.EndsInTime) (copied : j.stepRelay? = some j') : j'.EndsInTime := by
  cases relays_of_stepRelay? copied with
  | feedRead copying | feedWrite copying => simp [EndsInTime, copying]
  | feedEnd copying idle read =>
    have gone := (Channel.empty_of_read? read (by decide)).2
    refine ⟨fun _ => (Channel.ends_of_read? read).1.trans gone, ?_⟩
    rintro ⟨fault, stopped⟩
    cases stopped
  | feedBroken copying busy failed =>
    have gone := Pipe.hasReader_of_write?_error failed
    refine ⟨fun finished => ?_, fun _ => gone⟩
    cases finished
  | drainRead copying => exact .inl copying
  | drainEnd copying read =>
    have gone := (Channel.empty_of_read? read (by decide)).2
    exact .inr ((Channel.ends_of_read? read).1.trans gone)
  | collectRead | collectEnd | collectWrite | collectBroken => trivial

theorem EndsInTime.moves (inTime : j.EndsInTime) (moves : j.Moves given taken j') : j'.EndsInTime := by
  cases moves with
  | same => exact inTime
  | relay copied => exact inTime.of_stepRelay? copied
  | read read =>
    cases j with
    | absent | draining =>
      cases read
      exact inTime
    | channel =>
      obtain ⟨c, -, rfl⟩ := Channel.of_map_read? read
      trivial
    | pipe =>
      obtain ⟨p, -, rfl⟩ := Pipe.of_map_read? read
      trivial
    | feeding =>
      obtain ⟨p, took, rfl⟩ := Pipe.of_map_read? read
      exact ⟨inTime.1, fun stopped => (Pipe.ends_of_read? took).2.trans (inTime.2 stopped)⟩
    | collecting =>
      obtain ⟨c, -, rfl⟩ := Channel.of_map_read? read
      trivial
  | write accepted =>
    cases j with
    | absent =>
      cases accepted
      trivial
    | channel =>
      obtain ⟨c, -, -, rfl⟩ := Channel.of_map_write accepted
      trivial
    | pipe =>
      obtain ⟨p, -, rfl⟩ := Pipe.of_map_write? accepted
      trivial
    | feeding =>
      obtain ⟨c, wrote, -, rfl⟩ := Channel.of_map_write accepted
      exact ⟨fun finished => (Channel.ends_of_write wrote).1.trans (inTime.1 finished), inTime.2⟩
    | collecting _ r c =>
      obtain ⟨p, -, rfl⟩ := Pipe.of_map_write? (f := fun p => .collecting p r c) accepted
      trivial
    | draining =>
      obtain ⟨c, wrote, -, rfl⟩ := Channel.of_map_write accepted
      exact inTime.imp_right (Channel.ends_of_write wrote).1.trans
  | closeReader =>
    cases j with
    | feeding => exact ⟨inTime.1, fun _ => rfl⟩
    | draining => exact inTime
    | absent | channel | pipe | collecting => trivial
  | closeWriter =>
    cases j with
    | feeding => exact ⟨fun _ => rfl, inTime.2⟩
    | draining => exact .inr rfl
    | absent | channel | pipe | collecting => trivial

/-- A relay that has given up does not start again. -/
theorem IsCutOff.moves (cut : j.IsCutOff) (moves : j.Moves given taken j') : j'.IsCutOff := by
  cases j with
  | feeding c r p =>
    obtain ⟨fault, stopped⟩ := cut
    cases moves with
    | same => exact ⟨fault, stopped⟩
    | relay copied => simp [stepRelay?, relay?, stopped] at copied
    | read read =>
      obtain ⟨p, -, rfl⟩ := Pipe.of_map_read? read
      exact ⟨fault, stopped⟩
    | write accepted =>
      obtain ⟨c, -, -, rfl⟩ := Channel.of_map_write accepted
      exact ⟨fault, stopped⟩
    | closeReader | closeWriter => exact ⟨fault, stopped⟩
  | absent | channel | pipe | collecting | draining => exact cut.elim

/-- Where a builtin writes, everything is taken at once, unless the relay has given up. -/
theorem exists_write? (unbounded : j.isUnbounded = true) (held : j.HeldBy true reads) (inTime : j.EndsInTime)
    (reader : ∀ c, j = .channel c → reads = true) (uncut : ¬ j.IsCutOff) (data : Bytes) :
    ∃ j', j.write? data = some (.ok ([], j')) := by
  -- It is enough that the channel has its reader.
  have taken : ∀ {c : Channel} {f : Channel → Join}, c.hasReader = true →
      ∃ j', some ((c.write data).map fun c => ([], f c)) = some (.ok (([] : Bytes), j')) := by
    intro c f there
    cases wrote : c.write data with
    | error fault =>
      have gone := Channel.hasReader_of_write_error wrote
      rw [there] at gone
      cases gone
    | ok c' => exact ⟨f c', rfl⟩
  cases j with
  | absent => exact ⟨.absent, rfl⟩
  | channel c => exact taken (held.2.trans (reader c rfl))
  | feeding c r p =>
    refine taken (held.2.2.1.trans ?_)
    cases state : r.state with
    | copying => simp [Relay.copies, state]
    | finished =>
      have gone := (inTime.1 state).symm.trans held.1
      cases gone
    | stopped fault => exact absurd ⟨fault, state⟩ uncut
  | draining c r =>
    refine taken (held.2.trans ?_)
    rcases inTime with copying | gone
    · simp [Relay.copies, copying]
    · have gone := gone.symm.trans held.1
      cases gone
  | pipe | collecting => cases unbounded

/-- Where the relay has given up, nothing is taken any more. -/
theorem IsCutOff.write? (cut : j.IsCutOff) (held : j.HeldBy writes reads) (some_data : data ≠ []) :
    j.write? data = some (.error .brokenPipe) := by
  cases j with
  | feeding c r p =>
    obtain ⟨fault, stopped⟩ := cut
    have gone : c.hasReader = false := held.2.2.1.trans (by simp [Relay.copies, stopped])
    simp [Join.write?, Channel.write, some_data, gone, Except.map]
  | absent | channel | pipe | collecting | draining => exact cut.elim

end Join

namespace World

variable {σ : Type} {programs : Programs σ} {w₀ w w' : World σ} {party : Party} {i k : Nat} {s : Seat σ}
  {act : Act Reply} {answers : List Answered}

/-! ### Builtins run one after the other -/

/-- Nobody acts for a builtin behind another one that runs. -/
theorem Acts.isFirst {request : Request Finish (Actor σ)} (acts : Acts programs w party i s request)
    (builtin : w.role i = .builtin) (t : Seat σ) (a : Act Reply) (hk : k < i) (seat : w.seats[k]? = some t) :
    t.actor ≠ .builtin a := by
  cases acts with
  | builtin running next => exact (nextBuiltin?_eq_some next).2.2 k t a hk seat
  | process own actor =>
    rw [World.role_eq own, actor] at builtin
    cases builtin

/-- As long as a builtin runs, those behind it have not ended. -/
def InTurn (w₀ w : World σ) : Prop :=
  ∀ k i, k < i → w.role k = .builtin → w₀.role i = .builtin → w.role i = .builtin

theorem Step.inTurn (step : Step programs w party w') (held : w.Held) (inTurn : InTurn w₀ w) : InTurn w₀ w' := by
  intro k i hi builtin first
  have before : w.role k = .builtin := by
    rcases step.role_eq_or_idle k with same | idle
    · exact same.symm.trans builtin
    · rw [idle] at builtin
      cases builtin
  have later := inTurn k i hi before first
  rcases step.role_eq_or_done i with same | ⟨-, waits | ⟨s, result, acts⟩⟩
  · exact same.trans later
  · exact absurd before (held.settled waits k)
  · -- Builtin `i` would end while builtin `k` runs, but the first one is run first.
    obtain ⟨t, a, seat, actor⟩ := exists_of_role_eq_builtin before
    exact absurd actor (acts.isFirst later t a hi seat)

/-! ### The join behind a builtin -/

/-- What keeps the join behind stage `k` in order. -/
structure Backed (w₀ w : World σ) (k : Nat) : Prop where
  fit : w.Fit
  inTurn : InTurn w₀ w
  inTime : (w.input (k + 1)).EndsInTime

theorem Step.backed (step : Step programs w party w') (backed : Backed w₀ w k) : Backed w₀ w' k where
  fit := step.fit backed.fit
  inTurn := step.inTurn backed.fit.held backed.inTurn
  inTime := backed.inTime.moves (step.moves backed.fit.held k)

/-- Unless its relay has given up, the join behind a builtin takes everything at once. -/
theorem Backed.exists_write? (backed : Backed w₀ w k) (builtin : w.role k = .builtin)
    (channel : ∀ c, w.input (k + 1) = .channel c → w₀.role (k + 1) = .builtin)
    (uncut : ¬ (w.input (k + 1)).IsCutOff) (data : Bytes) :
    ∃ j, (w.input (k + 1)).write? data = some (.ok ([], j)) := by
  have held := backed.fit.held.joins k
  have runs : w.runs k = true := by simp [World.runs, builtin]
  rw [runs] at held
  refine Join.exists_write? (backed.fit.unbounded k builtin) held backed.inTime (fun c join => ?_) uncut data
  have later := backed.inTurn k (k + 1) (Nat.lt_succ_self k) builtin (channel c join)
  simp [World.runs, later]

/-- How stage `k` fares, a builtin that began as `act` in `w₀` on the seat `s`. -/
structure Fares (w₀ w : World σ) (k : Nat) (s : Seat σ) (act : Act Reply) : Prop where
  /-- It goes through its course, in which everything that it passes on is taken, unless its relay has given up. -/
  course : ∃ answers, w.Follows k act answers ∧
    ∀ {stream : StdStream} {data : Bytes} {fault : Fault}, s.output stream = .nextStage →
      .wrote stream data (some fault) ∈ answers → (w.input (k + 1)).IsCutOff
  /-- As long as it runs, it can pass on anything, at once and in full. -/
  taken : w.role k = .builtin → ¬ (w.input (k + 1)).IsCutOff → ∀ data,
    ∃ j, (w.input (k + 1)).write? data = some (.ok ([], j))
  /-- After the relay has given up, nothing is taken any more. -/
  refused : (w.input (k + 1)).IsCutOff → ∀ data, data ≠ [] →
    (w.input (k + 1)).write? data = some (.error .brokenPipe)
  /-- That happens only to a builtin with a program behind it, and only when that has ended. -/
  behind : (w.input (k + 1)).IsCutOff → w₀.role (k + 1) = .program ∧ w.runs (k + 1) = false

/-- In a step, what a builtin passes on is taken, or its relay has given up. -/
theorem Step.fares (step : Step programs w party w') (backed : Backed w₀ w k) (seats : w.wiring = w₀.wiring)
    (seat : w₀.seats[k]? = some s) (channel : ∀ c, w.input (k + 1) = .channel c → w₀.role (k + 1) = .builtin)
    (course : ∃ answers, w.Follows k act answers ∧
      ∀ {stream : StdStream} {data : Bytes} {fault : Fault}, s.output stream = .nextStage →
        .wrote stream data (some fault) ∈ answers → (w.input (k + 1)).IsCutOff) :
    ∃ answers, w'.Follows k act answers ∧
      ∀ {stream : StdStream} {data : Bytes} {fault : Fault}, s.output stream = .nextStage →
        .wrote stream data (some fault) ∈ answers → (w'.input (k + 1)).IsCutOff := by
  obtain ⟨answers, follows, quiet⟩ := course
  have moves := step.moves backed.fit.held k
  rcases step.follows backed.fit follows with follows | ⟨t, answer, seat', builtin, answered, follows⟩
  · exact ⟨answers, follows, fun out refused => (quiet out refused).moves moves⟩
  · refine ⟨_, follows, fun {stream data fault} out refused => ?_⟩
    rcases List.mem_append.1 refused with earlier | now
    · exact (quiet out earlier).moves moves
    · obtain rfl := List.mem_singleton.1 now
      refine Join.IsCutOff.moves (Classical.byContradiction fun uncut => ?_) moves
      obtain ⟨j, taken⟩ := backed.exists_write? ((role_eq seat').trans builtin) channel uncut data
      have same : t.output stream = .nextStage := by
        have wired := congrArg (·[k]?) seats
        simp only [wiring_getElem?, seat, seat', Option.map_some, Option.some.injEq, Prod.mk.injEq] at wired
        obtain ⟨s_out, rfl⟩ := out_of_output out
        exact wired.2.1.trans s_out
      obtain ⟨v, failed⟩ := answered
      simp [serveWrite, same, taken] at failed

end World

namespace Runner

variable {σ : Type} {r : Runner σ} {p : Pipeline} {ctx : Context} {h : Host} {w : World σ} {k : Nat} {s : Seat σ}
  {act : Act Reply}

/-- The join behind a stage is made for the two stages beside it. -/
theorem input_start_eq (r : Runner σ) (p : Pipeline) (ctx : Context) (h : Host) (k : Nat) :
    (r.start p ctx h).input (k + 1) = .absent ∨ ∃ name, (r.start p ctx h).input (k + 1) =
      .between name ((r.start p ctx h).role k) ((r.start p ctx h).role (k + 1)) := by
  by_cases last : k + 1 < p.stages.length
  · obtain ⟨host, seat, at_k, hseat⟩ := exists_at r ctx h (List.getElem?_eq_getElem (Nat.lt_of_succ_lt last))
    obtain ⟨host', seat', at_succ, hseat'⟩ := exists_at r ctx h (List.getElem?_eq_getElem last)
    rw [World.input_eq hseat', World.role_eq hseat, World.role_eq hseat', at_k.input_succ at_succ]
    split
    · exact .inr ⟨_, rfl⟩
    · exact .inl rfl
  · exact .inl (World.input_of_le (by rw [(wired r p ctx h).seats.1]; omega))

/-- A join that is a channel has a builtin behind it, and one with a relay from a channel to a pipe has a program. -/
theorem role_behind (reached : World.Reaches r.programs (r.start p ctx h) w) :
    (∀ c, w.input (k + 1) = .channel c → (r.start p ctx h).role (k + 1) = .builtin) ∧
      ∀ c relay pipe, w.input (k + 1) = .feeding c relay pipe → (r.start p ctx h).role (k + 1) = .program := by
  have fresh := World.input_fresh_eq (wiring_of_reaches reached) (k + 1)
  have first := input_start_eq r p ctx h k
  constructor
  · intro c join
    rcases first with none | ⟨name, made⟩
    · rw [join, none] at fresh
      cases fresh
    · rw [join, made] at fresh
      cases before : (r.start p ctx h).role k <;> cases role : (r.start p ctx h).role (k + 1) <;>
        simp [before, role, Join.between, Join.fresh] at fresh ⊢
  · intro c relay pipe join
    rcases first with none | ⟨name, made⟩
    · rw [join, none] at fresh
      cases fresh
    · rw [join, made] at fresh
      cases before : (r.start p ctx h).role k <;> cases role : (r.start p ctx h).role (k + 1) <;>
        simp [before, role, Join.between, Join.fresh] at fresh ⊢

theorem backed_start (r : Runner σ) (p : Pipeline) (ctx : Context) (h : Host) (k : Nat) :
    World.Backed (r.start p ctx h) (r.start p ctx h) k where
  fit := fit_start r p ctx h
  inTurn _ _ _ _ builtin := builtin
  inTime := by
    rcases input_start_eq r p ctx h k with none | ⟨name, made⟩
    · rw [none]
      trivial
    · rw [made]
      cases (r.start p ctx h).role k <;> cases (r.start p ctx h).role (k + 1) <;>
        simp [Join.between, Join.EndsInTime]

/-- **What a builtin passes on is taken**, at once and in full, whatever the stage behind it is, and in whatever order
the parties take their steps, unless that stage is a program that has ended and the relay to it has given up. -/
theorem fares_of_reaches (reached : World.Reaches r.programs (r.start p ctx h) w)
    (seat : (r.start p ctx h).seats[k]? = some s) (actor : s.actor = .builtin act) :
    World.Fares (r.start p ctx h) w k s act := by
  have kept : World.Backed (r.start p ctx h) w k ∧ ∃ answers, w.Follows k act answers ∧
      ∀ {stream : StdStream} {data : Bytes} {fault : Fault}, s.output stream = .nextStage →
        .wrote stream data (some fault) ∈ answers → (w.input (k + 1)).IsCutOff := by
    induction reached with
    | refl =>
      have doing : (r.start p ctx h).doing? k = some (.builtin act, none) := by
        simp [World.doing?, seat, actor, unsent_start (List.mem_of_getElem? seat)]
      exact ⟨backed_start r p ctx h k, [], .goesOn doing .start, fun _ refused => by cases refused⟩
    | tail before step ih =>
      obtain ⟨party, step⟩ := step
      have step := World.step?_iff.1 step
      exact ⟨step.backed ih.1, step.fares ih.1 (wiring_of_reaches before) seat (role_behind before).1 ih.2⟩
  obtain ⟨backed, course⟩ := kept
  refine
    { course := course
      taken := fun builtin uncut => backed.exists_write? builtin (role_behind reached).1 uncut
      refused := fun cut data => cut.write? (backed.fit.held.joins k)
      behind := fun cut => ?_ }
  cases join : w.input (k + 1) with
  | feeding c relay pipe =>
    have inTime := backed.inTime
    have held := backed.fit.held.joins k
    rw [join] at cut inTime held
    exact ⟨(role_behind reached).2 c relay pipe join, held.2.1.symm.trans (inTime.2 cut)⟩
  | absent | channel | pipe | collecting | draining =>
    rw [join] at cut
    exact cut.elim

/-- A standard shell on a host with a program that ends at once. -/
def heedless : Runner Unit where
  registry := Registry.standard
  programs := ⟨fun _ _ => .ok (), fun _ => .done (.exited 0)⟩

/-- `echo a | /c` -/
def echoed : Pipeline := ⟨[⟨["echo".toList, ['a']], {}⟩, ⟨[['/', 'c']], {}⟩]⟩

theorem exists_start_echoed :
    ∃ host : Host, host.terminalErr = [] ∧ host.logger = {} ∧ heedless.start echoed {} copyingHost =
      { host
        seats := [
          { name := "echo".toList, actor := .builtin (Builtin.print [['a'], ['\n']]), out := .nextStage
            err := .terminal .err },
          { name := ['/', 'c'], actor := .process (), out := .to (.terminal .out), err := .terminal .err
            input := .feeding {} { label := "into /c".toList } {} }] } := by
  rw [start, echoed, startStages, startStages, startStage_of_program rfl (copyingHost_program? rfl rfl)]
  exact ⟨_, rfl, rfl, rfl⟩

/-- After the first of two writes the program has ended, and the relay has given up. -/
theorem fares_of_reaches_echoed :
    ∃ w s, World.Reaches heedless.programs (heedless.start echoed {} copyingHost) w ∧
      (heedless.start echoed {} copyingHost).seats[0]? = some s ∧
      s.actor = .builtin (Builtin.print [['a'], ['\n']]) ∧ (w.input 1).IsCutOff ∧
      World.Fares (heedless.start echoed {} copyingHost) w 0 s (Builtin.print [['a'], ['\n']]) := by
  obtain ⟨host, -, -, start⟩ := exists_start_echoed
  obtain ⟨trace, w, replayed, cut⟩ :
      ∃ trace w, (heedless.start echoed {} copyingHost).replay heedless.programs
          [.shell, .process 1, .relay 1, .relay 1] = some (trace, w) ∧ (w.input 1).IsCutOff := by
    rw [start]
    exact ⟨_, _, rfl, _, rfl⟩
  obtain ⟨s, seat, actor⟩ : ∃ s, (heedless.start echoed {} copyingHost).seats[0]? = some s ∧
      s.actor = .builtin (Builtin.print [['a'], ['\n']]) := by
    rw [start]
    exact ⟨_, rfl, rfl⟩
  have reached := (World.Runs.of_replay replayed).reaches
  exact ⟨w, s, reached, seat, actor, cut, fares_of_reaches reached seat actor⟩

/-- The shell goes past both stages and both joins, and returns. -/
def homeward : List Party := List.replicate 7 .shell

/-- **The same `echo` may succeed and fail**: it succeeds if it has written everything before the relay finds that the
program is gone, and fails with a diagnostic if the relay finds that between its two writes. -/
theorem echo_depends_on_order :
    ∃ w w', World.Reaches heedless.programs (heedless.start echoed {} copyingHost) w ∧
      World.Reaches heedless.programs (heedless.start echoed {} copyingHost) w' ∧
      w.progress = .returned ∧ w.fates = [.exited 0, .exited 0] ∧ w.host.terminalErr = [] ∧
      w'.progress = .returned ∧ w'.fates = [.exited 1, .exited 0] ∧
      w'.host.terminalErr = utf8 "broken pipe\n".toList := by
  obtain ⟨host, err, logger, start⟩ := exists_start_echoed
  cases host
  cases err
  cases logger
  obtain ⟨trace, w, replayed, returned, fates, err⟩ :
      ∃ trace w, (heedless.start echoed {} copyingHost).replay heedless.programs
          ([.shell, .shell, .shell, .process 1, .relay 1, .relay 1] ++ homeward) = some (trace, w) ∧
        w.progress = .returned ∧ w.fates = [.exited 0, .exited 0] ∧ w.host.terminalErr = [] := by
    rw [start]
    exact ⟨_, _, rfl, rfl, rfl, rfl⟩
  obtain ⟨trace', w', replayed', returned', fates', err'⟩ :
      ∃ trace w, (heedless.start echoed {} copyingHost).replay heedless.programs
          ([.shell, .process 1, .relay 1, .relay 1, .shell, .shell, .shell, .shell] ++ homeward) = some (trace, w) ∧
        w.progress = .returned ∧ w.fates = [.exited 1, .exited 0] ∧
        w.host.terminalErr = utf8 "broken pipe\n".toList := by
    rw [start]
    exact ⟨_, _, rfl, rfl, rfl, rfl⟩
  exact ⟨w, w', (World.Runs.of_replay replayed).reaches, (World.Runs.of_replay replayed').reaches,
    returned, fates, err, returned', fates', err'⟩

end Runner

end PipeShell
