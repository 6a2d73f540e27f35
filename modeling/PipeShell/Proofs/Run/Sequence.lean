import PipeShell.Proofs.Run.Outlook
import PipeShell.Proofs.Run.Liveness

/-!
# Any order of steps comes out as in order

In a pipeline without programs no step changes what will become of it (`World.Step.upshot_eq`), neither one of the shell
nor one of a relay, and every step takes away from the work that is left, so that every order of steps comes to an end.
At the start what will become of the pipeline is what running it in order gives, and when the shell has returned it is
what has come of it: `Runner.exists_comesOut`.
-/

namespace PipeShell

/-! ### Pipelines without programs -/

/-- A builtin, or a stage that has ended.  What it writes is taken in full. -/
structure Seat.IsSimple {σ : Type} (s : Seat σ) : Prop where
  actor : (∃ act, s.actor = .builtin act) ∨ ∃ fate, s.actor = .ended fate
  unsent : s.unsent = none

namespace Host

variable {h h' : Host} {d : Destination} {data : Bytes}

/-- What is on the terminal stays there when something is written. -/
theorem terminalErr_write (written : h.write d data = .ok h') : h.terminalErr <+: h'.terminalErr := by
  cases d with
  | nowhere =>
    cases written
    exact List.prefix_rfl
  | terminal stream =>
    cases stream with
    | out =>
      cases written
      exact List.prefix_rfl
    | err =>
      cases written
      exact List.prefix_append _ _
  | file handle =>
    simp only [write, writeHandle] at written
    split at written
    · cases written
      exact List.prefix_rfl
    · split at written
      · cases written
      · split at written
        · cases written
        · cases written
        · cases written
          exact List.prefix_rfl
        · split at written <;> cases written
          exact List.prefix_rfl
        · cases written
          exact List.prefix_rfl

theorem terminalErr_note (h : Host) (level : Level) (text : Text) : h.terminalErr <+: (h.note level text).terminalErr := by
  simp only [note]
  split
  · unfold tryWrite
    split
    · rename_i written
      have added := terminalErr_write written
      exact added
    · exact List.prefix_rfl
  · exact List.prefix_rfl

end Host

namespace World

variable {σ : Type}

/-- What will become of a pipeline. -/
def outlook (w : World σ) : Outlook := .of (w.seats.length == 1) ⟨w.host, w.request⟩ [] w.seats

/-- The number of relays that the shell has waited for. -/
def joined (w : World σ) : Nat :=
  match w.progress with
  | .running | .waiting _ => 0
  | .joining k => k
  | .returned => w.seats.length

/-- What the pipeline will leave behind. -/
def upshot (w : World σ) : Summary × Host :=
  let o := w.outlook
  (⟨o.results.map (·.fate), o.tally.request.directory, o.tally.request.exit⟩,
    (o.results.drop w.joined).foldl Result.note o.tally.host)

/-- The number of steps in which the shell waits. -/
def waits (w : World σ) : Nat :=
  let n := w.seats.length
  match w.progress with
  | .running => 2 * n + 4
  | .waiting k => (n - k) + n + 3
  | .joining k => (n - k) + 1
  | .returned => 0

/-- The number of steps that are left at most. -/
def work (w : World σ) : Nat := w.outlook.work + w.waits

end World

namespace World

variable {σ : Type} {programs : Programs σ} {w w' : World σ} {party : Party} {k : Nat} {s : Seat σ}
  {request : Request Finish (Actor σ)}

/-- What holds of a pipeline without programs while it runs. -/
structure Simple (w : World σ) : Prop where
  fit : w.Fit
  seats : ∀ s ∈ w.seats, s.IsSimple
  joins : ∀ k, (w.input k).IsPlain
  /-- A stage whose join is drained has ended. -/
  drains : ∀ k, (w.input k).relay?.isSome = true → w.role k = .idle
  /-- A stage that reads from a builtin has not ended before it. -/
  order : ∀ k c, w.input (k + 1) = .channel c → w.role k = .builtin → w.role (k + 1) = .builtin

/-- The shell acts for the first builtin, and nobody else acts. -/
theorem Simple.exists_builtin (simple : w.Simple) (acts : Acts programs w party k s request) :
    ∃ act, party = .shell ∧ w.progress = .running ∧ w.nextBuiltin? = some (k, s, act) ∧ s.actor = .builtin act ∧
      request = act.request.map .reply .builtin := by
  cases acts with
  | builtin running next => exact ⟨_, rfl, running, next, (nextBuiltin?_eq_some next).2.1, rfl⟩
  | process seat actor =>
    rcases (simple.seats s (List.mem_of_getElem? seat)).actor with ⟨act, builtin⟩ | ⟨fate, ended⟩
    · rw [actor] at builtin
      cases builtin
    · rw [actor] at ended
      cases ended

/-- All stages before the first builtin have ended. -/
theorem Simple.exists_split (simple : w.Simple) {act : Act Reply} (next : w.nextBuiltin? = some (k, s, act)) :
    ∃ before rest, w.seats = before ++ s :: rest ∧ before.length = k ∧
      ∀ t ∈ before, ∃ fate, t.actor = .ended fate := by
  obtain ⟨seat, -, isFirst⟩ := nextBuiltin?_eq_some next
  obtain ⟨hk, hs⟩ := List.getElem?_eq_some_iff.1 seat
  have length : (w.seats.take k).length = k := by
    rw [List.length_take]
    omega
  refine ⟨w.seats.take k, w.seats.drop (k + 1), ?_, length, fun t ht => ?_⟩
  · rw [← hs, List.getElem_cons_drop, List.take_append_drop]
  · obtain ⟨i, hi, rfl⟩ := List.getElem_of_mem ht
    rw [length] at hi
    rw [List.getElem_take]
    have seat : w.seats[i]? = some w.seats[i] := List.getElem?_eq_getElem (by omega)
    refine (simple.seats _ (List.getElem_mem _)).actor.resolve_left ?_
    rintro ⟨a, builtin⟩
    exact isFirst i _ a hi seat builtin

/-- A shell that waits has ended all builtins. -/
theorem Simple.ended_of_waiting (simple : w.Simple) (waits : w.progress ≠ .running) :
    ∀ s ∈ w.seats, ∃ fate, s.actor = .ended fate := by
  intro s hs
  obtain ⟨i, hi, rfl⟩ := List.getElem_of_mem hs
  refine (simple.seats _ hs).actor.resolve_left ?_
  rintro ⟨act, builtin⟩
  refine simple.fit.held.settled waits i ?_
  rw [role_eq (List.getElem?_eq_getElem hi), builtin]
  rfl

/-- Changing one seat in the middle. -/
theorem modify_append {α : Type} (before rest : List α) (i : Nat) (f : α → α) :
    (before ++ rest).modify (before.length + i) f = before ++ rest.modify i f := by
  induction before with
  | nil => simp
  | cons x before ih => simp [Nat.succ_add, ih]

theorem forall_mem_modify {α : Type} {P : α → Prop} {l : List α} (all : ∀ x ∈ l, P x) (k : Nat) {f : α → α}
    (kept : ∀ x, P x → P (f x)) : ∀ x ∈ l.modify k f, P x := by
  intro x hx
  obtain ⟨i, hi, rfl⟩ := List.getElem_of_mem hx
  rw [List.getElem_modify]
  rw [List.length_modify] at hi
  split
  · exact kept _ (all _ (List.getElem_mem _))
  · exact all _ (List.getElem_mem _)

/-- What a builtin writes to the next stage is taken in full. -/
theorem Simple.exists_write? (simple : w.Simple) (acts : Acts programs w party k s request) (data : Bytes) :
    ∃ j, (w.input (k + 1)).write? data = some (.ok ([], j)) := by
  have held := simple.fit.held.joins k
  rw [acts.runs] at held
  refine (simple.joins (k + 1)).exists_write? held (fun leads => ?_) data
  have plain := simple.joins (k + 1)
  cases input : w.input (k + 1) with
  | absent | draining =>
    rw [input] at leads
    cases leads
  | pipe | feeding | collecting =>
    rw [input] at plain
    cases plain
  | channel c =>
    obtain ⟨act, -, -, -, actor, -⟩ := simple.exists_builtin acts
    have reader := simple.order k c input (by rw [acts.role_eq, actor]; rfl)
    simp [runs, reader]

/-- Each stage goes on as a builtin, or it ends. -/
theorem Step.seats_simple (step : Step programs w party w') (simple : w.Simple) : ∀ s ∈ w'.seats, s.IsSimple := by
  have goesOn : ∀ {w : World σ}, (∀ s ∈ w.seats, s.IsSimple) → ∀ (k : Nat) (a : Actor σ),
      ((∃ act, a = .builtin act) ∨ ∃ fate, a = .ended fate) → ∀ s ∈ (w.setActor k a).seats, s.IsSimple :=
    fun all k a known => forall_mem_modify all k fun _ _ => ⟨known, rfl⟩
  have changed : ∀ {w : World σ}, (∀ s ∈ w.seats, s.IsSimple) → ∀ (k : Nat) (f : Join → Join),
      ∀ s ∈ (w.modifyInput k f).seats, s.IsSimple :=
    fun all k f => forall_mem_modify all k fun _ h => ⟨h.actor, h.unsent⟩
  cases step with
  | done acts =>
    obtain ⟨act, -, -, -, -, same⟩ := simple.exists_builtin acts
    cases act with
    | read | write | call => cases same
    | done reply =>
      cases same
      rw [finish, finishBuiltin_seats]
      exact goesOn (changed (changed simple.seats _ _) _ _) _ _ (.inr ⟨_, rfl⟩)
  | read acts given =>
    obtain ⟨act, -, -, -, -, same⟩ := simple.exists_builtin acts
    cases act with
    | done | write | call => cases same
    | read limit next =>
      cases same
      exact goesOn (changed simple.seats _ _) _ _ (.inl ⟨_, rfl⟩)
  | wrote acts | refused acts =>
    obtain ⟨act, -, -, -, -, same⟩ := simple.exists_builtin acts
    cases act with
    | done | read | call => cases same
    | write stream data next =>
      cases same
      exact goesOn simple.seats _ _ (.inl ⟨_, rfl⟩)
  | passed acts target taken =>
    obtain ⟨act, -, -, -, -, same⟩ := simple.exists_builtin acts
    cases act with
    | done | read | call => cases same
    | write stream data next =>
      cases same
      exact goesOn (changed simple.seats _ _) _ _ (.inl ⟨_, rfl⟩)
  | passedPart acts target taken more =>
    obtain ⟨j, all⟩ := simple.exists_write? acts _
    rw [taken] at all
    cases all
    exact absurd rfl more
  | broken acts target failed =>
    obtain ⟨j, all⟩ := simple.exists_write? acts _
    rw [failed] at all
    cases all
  | called acts =>
    obtain ⟨act, -, -, -, -, same⟩ := simple.exists_builtin acts
    cases act with
    | done | read | write => cases same
    | call change next =>
      cases same
      exact goesOn simple.seats _ _ (.inl ⟨_, rfl⟩)
  | relayed hk copied => exact changed simple.seats _ _
  | turned running last => exact simple.seats
  | @awaited k _ waiting past =>
    rcases awaitStage?_seats past with h | ⟨fate, h, -⟩
    · rw [h]
      exact simple.seats
    · rw [h]
      exact goesOn simple.seats _ _ (.inr ⟨fate, rfl⟩)
  | joined joining past =>
    rw [awaitRelay?_seats past]
    exact simple.seats

theorem Step.simple (step : Step programs w party w') (simple : w.Simple) : w'.Simple where
  fit := step.fit simple.fit
  seats := step.seats_simple simple
  joins k := by
    cases k with
    | zero =>
      rw [(step.fit simple.fit).first]
      trivial
    | succ k => exact (simple.joins (k + 1)).moves (simple.fit.held.joins k) (step.moves simple.fit.held k)
  drains k relay := by
    apply step.role_eq_idle
    apply simple.drains k
    rw [← Join.isSome_relay?_fresh, ← input_fresh_eq step.wiring_eq, Join.isSome_relay?_fresh]
    exact relay
  order k c channel builtin := by
    have before : w.role k = .builtin := by
      rcases step.role_eq_or_idle k with same | idle
      · rw [← same, builtin]
      · rw [idle] at builtin
        cases builtin
    have fresh := input_fresh_eq step.wiring_eq (k + 1)
    rw [channel] at fresh
    obtain ⟨c', channel'⟩ := Join.exists_channel_of_fresh fresh.symm
    have reader := simple.order k c' channel' before
    rcases step.role_eq_or_done (k + 1) with same | ⟨-, waits | ⟨s, result, acts⟩⟩
    · rw [same, reader]
    · exact absurd before (simple.fit.held.settled waits k)
    · -- It is not its turn yet.
      obtain ⟨act, -, -, next, -⟩ := simple.exists_builtin acts
      obtain ⟨t, a, seat, actor⟩ := exists_of_role_eq_builtin before
      exact absurd actor ((nextBuiltin?_eq_some next).2.2 k t a (Nat.lt_succ_self k) seat)

end World

namespace World

variable {σ : Type} {programs : Programs σ} {w w' : World σ} {party : Party} {k : Nat} {s : Seat σ}
  {request : Request Finish (Actor σ)} {before rest : List (Seat σ)}

theorem tally_finishBuiltin (w : World σ) (k : Nat) (name : Text) (reply : Reply) :
    (⟨(w.finishBuiltin k name reply).host, (w.finishBuiltin k name reply).request⟩ : Tally) =
      (Tally.mk w.host w.request).conclude (w.seats.length == 1) name reply := by
  have length : ((w.setActor k (.ended (.exited reply.status))).note .debug
      ("builtin ".toList ++ name ++ " exited with ".toList ++ showInt reply.status)).seats.length = w.seats.length :=
    List.length_modify ..
  simp only [finishBuiltin, Tally.conclude, length, beq_iff_eq]
  split
  · rfl
  · split <;> rfl

theorem outlook_eq (seats : w.seats = before ++ rest) (ended : ∀ t ∈ before, ∃ fate, t.actor = .ended fate) :
    w.outlook = (Outlook.of (w.seats.length == 1) ⟨w.host, w.request⟩ [] rest).after before := by
  rw [outlook, seats, Outlook.of_append ended]

theorem seats_setActor (seats : w.seats = before ++ s :: rest) (a : Actor σ) :
    (w.setActor before.length a).seats = before ++ { s with actor := a, unsent := none } :: rest := by
  simpa [setActor, seats] using modify_append before (s :: rest) 0 _

theorem seats_modifyInput (seats : w.seats = before ++ s :: rest) (f : Join → Join) :
    (w.modifyInput before.length f).seats = before ++ { s with input := f s.input } :: rest := by
  simpa [modifyInput, seats] using modify_append before (s :: rest) 0 _

/-- Changing the join behind a stage. -/
theorem seats_modifyInput_succ (seats : w.seats = before ++ s :: rest) (f : Join → Join) :
    (w.modifyInput (before.length + 1) f).seats =
      before ++ s :: rest.modify 0 fun s => { s with input := f s.input } := by
  simpa [modifyInput, seats] using modify_append before (s :: rest) 1 _

/-- The join in front of the first builtin has no writer, and it leads to it directly. -/
theorem Simple.input_of_acts (simple : w.Simple) (acts : Acts programs w party k s request) :
    (w.input k).HeldBy false true ∧ (w.input k).relay?.isSome = false := by
  obtain ⟨act, -, -, next, actor, -⟩ := simple.exists_builtin acts
  constructor
  · cases k with
    | zero =>
      rw [simple.fit.first]
      trivial
    | succ i =>
      have held := simple.fit.held.joins i
      rw [acts.runs] at held
      have ended : w.runs i = false := by
        rw [← role_eq_idle_iff]
        cases role : w.role i with
        | idle => rfl
        | builtin =>
          obtain ⟨t, a, seat, actor⟩ := exists_of_role_eq_builtin role
          exact absurd actor ((nextBuiltin?_eq_some next).2.2 i t a (Nat.lt_succ_self i) seat)
        | program =>
          obtain ⟨t, request, acts⟩ := exists_acts_of_program programs role
          obtain ⟨_, shell, -⟩ := simple.exists_builtin acts
          cases shell
      rw [ended] at held
      exact held
  · refine Bool.eq_false_iff.2 fun relay => ?_
    have idle := simple.drains k relay
    rw [acts.role_eq, actor] at idle
    cases idle

theorem input_succ_eq (seats : w.seats = before ++ s :: rest) :
    w.input (before.length + 1) = (rest.head?.map (·.input)).getD .absent := by
  have seat : w.seats[before.length + 1]? = rest.head? := by
    rw [seats, List.getElem?_append_right (by omega)]
    simp [List.head?_eq_getElem?]
  rw [input, seat]

/-- What is written to the next join need not be written any more. -/
theorem Simple.of_setInput (simple : w.Simple) (seats : w.seats = before ++ s :: rest) {j : Join} {data : Bytes}
    (accepted : (w.input (before.length + 1)).write? data = some (.ok ([], j))) (isOnly : Bool) (t : Tally)
    (late : List Bytes) :
    Outlook.of isOnly t late (rest.modify 0 fun s => { s with input := j }) =
      Outlook.of isOnly t (Channel.chunk data ++ late) rest := by
  have plain := simple.joins (before.length + 1)
  rw [input_succ_eq seats] at accepted plain
  cases rest with
  | nil => rfl
  | cons n rest => exact Outlook.of_write plain accepted

/-- A builtin that takes a step brings the pipeline nearer to what will become of it. -/
theorem Step.outlook_falls (step : Step programs w party w') (simple : w.Simple)
    (acts : Acts programs w party k s request) : w'.outlook.Falls w.outlook := by
  obtain ⟨act, rfl, running, next, actor, rfl⟩ := simple.exists_builtin acts
  obtain ⟨before, rest, seats, rfl, ended⟩ := simple.exists_split next
  have unsent := (simple.seats s (by simp [seats])).unsent
  obtain ⟨held, direct⟩ := simple.input_of_acts acts
  have plain := simple.joins before.length
  rw [input_eq acts.seat] at held direct plain
  have step := step?_iff.2 step
  rw [acts.step?_eq] at step
  have finish : ∀ {s' : Seat σ} {rest' : List (Seat σ)}, w'.seats = before ++ s' :: rest' → rest'.length = rest.length →
      (Outlook.of (w.seats.length == 1) ⟨w'.host, w'.request⟩ [] (s' :: rest')).Falls
        (Outlook.of (w.seats.length == 1) ⟨w.host, w.request⟩ [] (s :: rest)) → w'.outlook.Falls w.outlook := by
    intro s' rest' seats' length falls
    have same : w'.seats.length = w.seats.length := by simp [seats, seats', length]
    rw [outlook_eq seats ended, outlook_eq seats' ended, same]
    exact falls.after before
  cases act with
  | done reply =>
    obtain rfl : (w.closeEnds before.length).finishBuiltin before.length s.name reply = w' := by
      simpa [stepStage?, serve, Act.request, Request.map, World.finish] using step
    have seats' := seats_setActor (seats_modifyInput_succ (seats_modifyInput seats Join.closeReader) Join.closeWriter)
      (.ended (.exited reply.status))
    refine finish ((finishBuiltin_seats _ _ _ _).trans seats') (List.length_modify ..) ?_
    rw [tally_finishBuiltin]
    have length : (w.closeEnds before.length).seats.length = w.seats.length := by simp [closeEnds, modifyInput]
    rw [length]
    exact Outlook.falls_of_done actor direct
  | read limit goOn =>
    obtain ⟨data, j, given, rfl⟩ : ∃ data j, s.input.read? limit = some (data, j) ∧
        (w.setInput before.length j).setActor before.length (.builtin (goOn data)) = w' := by
      simpa [stepStage?, serve, Act.request, Request.map] using step
    refine finish (seats_setActor (seats_modifyInput seats _) _) rfl ?_
    have read := plain.toRead_of_read? held direct given
    exact Outlook.falls_of_quiet actor rfl rfl rfl (Act.runAlone_read (w := s.surroundings w.host []) read goOn)
  | write stream data goOn =>
    rcases target : s.output stream with d | _
    · have write : (s.surroundings w.host []).write stream data = _ := Seat.write_to target w.host []
      cases taken : w.host.write d data with
      | ok host =>
        obtain rfl : { w with host }.setActor before.length (.builtin (goOn none)) = w' := by
          simpa [stepStage?, serve, serveWrite, Act.request, Request.map, target, unsent, taken] using step
        rw [taken] at write
        refine finish (seats_setActor (w := { w with host }) seats _) rfl ?_
        exact Outlook.falls_of_quiet actor rfl rfl rfl (Act.runAlone_write write goOn)
      | error fault =>
        obtain rfl : w.setActor before.length (.builtin (goOn (some fault))) = w' := by
          simpa [stepStage?, serve, serveWrite, Act.request, Request.map, target, unsent, taken] using step
        rw [taken] at write
        refine finish (seats_setActor seats _) rfl ?_
        exact Outlook.falls_of_quiet actor rfl rfl rfl (Act.runAlone_refused write goOn)
    · obtain ⟨j, taken⟩ := simple.exists_write? acts data
      obtain rfl : (w.setInput (before.length + 1) j).setActor before.length (.builtin (goOn none)) = w' := by
        simpa [stepStage?, serve, serveWrite, Act.request, Request.map, target, unsent, taken] using step
      have write : (s.surroundings w.host []).write stream data = _ := Seat.write_nextStage target w.host []
      refine finish (seats_setActor (seats_modifyInput_succ seats _) _) (List.length_modify ..) ?_
      exact Outlook.falls_of_goesOn (Channel.chunk data) actor rfl rfl rfl (Act.runAlone_write write goOn)
        (.inr (out_of_output target).1) fun t late => simple.of_setInput seats taken _ t late
  | call change goOn =>
    obtain rfl : { w with host := change w.host }.setActor before.length (.builtin (goOn w.host)) = w' := by
      simpa [stepStage?, serve, Act.request, Request.map] using step
    refine finish (seats_setActor (w := { w with host := change w.host }) seats _) rfl ?_
    exact Outlook.falls_of_quiet actor rfl rfl rfl ⟨rfl, rfl⟩

theorem Step.length_seats (step : Step programs w party w') : w'.seats.length = w.seats.length := by
  simpa [wiring] using congrArg List.length step.wiring_eq

/-- What holds of a pipeline as long as the shell waits. -/
theorem Simple.outlook_of_waiting (simple : w.Simple) (waits : w.progress ≠ .running) :
    w.outlook = (⟨⟨w.host, w.request⟩, [], 0⟩ : Outlook).after w.seats := by
  rw [outlook_eq (List.append_nil _).symm (simple.ended_of_waiting waits)]
  rfl

/-- What the shell notes when it has waited for a relay. -/
theorem Simple.host_of_awaitRelay? (simple : w.Simple) (seat : w.seats[k]? = some s) (past : w.awaitRelay? k = some w') :
    w' = { w with
      progress := .joining (k + 1)
      host := Result.note w.host ⟨s.actor.fate, s.input.drained? []⟩ } := by
  have plain := simple.joins k
  rw [input_eq seat] at plain
  simp only [awaitRelay?, seat] at past
  cases input : s.input with
  | pipe | feeding | collecting =>
    rw [input] at plain
    cases plain
  | absent | channel =>
    simp only [input, Join.relay?, Option.some.injEq] at past
    rw [← past]
    rfl
  | draining c r =>
    rw [input] at plain
    rcases plain with copying | ⟨finished, empty, -⟩
    · simp [input, Join.relay?, copying] at past
    · simp only [input, Join.relay?, finished, Option.some.injEq] at past
      rw [← past]
      simp [Join.drained?, Result.note, empty, World.note]

/-- **No step changes what will become of a pipeline without programs**, and every step brings it nearer. -/
theorem Step.upshot_eq (step : Step programs w party w') (simple : w.Simple) :
    w'.upshot = w.upshot ∧ w'.work < w.work := by
  have length := step.length_seats
  -- As long as the shell does not wait, all is in the outlook.
  have of_falls : w'.outlook.Falls w.outlook → w'.progress = w.progress → w'.upshot = w.upshot ∧ w'.work < w.work := by
    intro falls progress
    have joined : w'.joined = w.joined := by simp only [World.joined, progress, length]
    have waits : w'.waits = w.waits := by simp only [World.waits, progress, length]
    constructor
    · simp only [upshot, falls.tally, falls.results, joined]
    · have := falls.work
      simp only [work, waits]
      omega
  cases step with
  | done acts => exact of_falls ((Step.done acts).outlook_falls simple acts) (progress_finish _ _ _ _)
  | read acts given => exact of_falls ((Step.read acts given).outlook_falls simple acts) rfl
  | wrote acts target taken => exact of_falls ((Step.wrote acts target taken).outlook_falls simple acts) rfl
  | refused acts target failed => exact of_falls ((Step.refused acts target failed).outlook_falls simple acts) rfl
  | passed acts target taken => exact of_falls ((Step.passed acts target taken).outlook_falls simple acts) rfl
  | passedPart acts target taken more =>
    exact of_falls ((Step.passedPart acts target taken more).outlook_falls simple acts) rfl
  | broken acts target failed => exact of_falls ((Step.broken acts target failed).outlook_falls simple acts) rfl
  | called acts => exact of_falls ((Step.called acts).outlook_falls simple acts) rfl
  | @relayed k j hk copied =>
    refine of_falls ?_ rfl
    have seat := List.getElem?_eq_getElem hk
    have relays := Join.relays_of_stepRelay? copied
    obtain ⟨-, drains⟩ := Join.IsPlain.of_relays relays (simple.joins k)
    rw [input_eq seat] at drains
    have idle := simple.drains k (Join.isSome_relay?_of_stepRelay? copied)
    rw [role_eq seat] at idle
    rcases (simple.seats _ (List.mem_of_getElem? seat)).actor with ⟨act, actor⟩ | ⟨fate, actor⟩
    · rw [actor] at idle
      cases idle
    · rw [outlook, length]
      exact Outlook.of_modify seat actor (fun late => (drains late).1) fun late => (drains late).2
  | turned running last =>
    refine ⟨by simp [upshot, outlook, World.joined, running], ?_⟩
    simp only [work, outlook, World.waits, running]
    omega
  | @awaited k _ waiting past =>
    have ended := simple.ended_of_waiting (by simp [waiting])
    cases pastStage_of_awaitStage? past with
    | noMore seat =>
      refine ⟨by simp [upshot, outlook, World.joined, waiting], ?_⟩
      simp only [work, outlook, World.waits, waiting]
      omega
    | gone seat actor | neverRun seat actor =>
      obtain ⟨fate, known⟩ := ended _ (List.mem_of_getElem? seat)
      rw [actor] at known
      cases known
    | ended seat actor =>
      have hk := (List.getElem?_eq_some_iff.1 seat).1
      refine ⟨by simp [upshot, outlook, World.joined, waiting], ?_⟩
      simp only [work, outlook, World.waits, waiting]
      omega
  | @joined k _ joining past =>
    have outlook := simple.outlook_of_waiting (by simp [joining])
    have simple' := (Step.joined joining past : Step programs w .shell w').simple simple
    cases seat : w.seats[k]? with
    | none =>
      have hk := List.getElem?_eq_none_iff.1 seat
      obtain rfl : { w with progress := .returned } = w' := by simpa [awaitRelay?, seat] using past
      have outlook' := simple'.outlook_of_waiting (by simp)
      constructor
      · simp only [upshot, outlook, outlook', World.joined, joining, Outlook.after]
        rw [List.drop_eq_nil_of_le (by simp), List.drop_eq_nil_of_le (by simpa using hk)]
      · simp only [work, outlook, outlook', World.waits, joining, Outlook.after]
        omega
    | some s =>
      obtain ⟨hk, hs⟩ := List.getElem?_eq_some_iff.1 seat
      obtain rfl := simple.host_of_awaitRelay? seat past
      have outlook' := simple'.outlook_of_waiting (by simp)
      constructor
      · simp only [upshot, outlook, outlook', World.joined, joining, Outlook.after, List.append_nil]
        rw [List.drop_eq_getElem_cons (i := k) (by simpa using hk), List.foldl_cons, List.getElem_map, hs]
      · simp only [work, outlook, outlook', World.waits, joining, Outlook.after]
        omega

/-- When the shell has returned, all has become of the pipeline. -/
theorem Simple.upshot_of_returned (simple : w.Simple) (returned : w.progress = .returned) :
    w.upshot = (⟨w.fates, w.request.directory, w.request.exit⟩, w.host) := by
  have fates : (w.seats.map fun s => s.actor.fate) = w.fates := by
    refine List.map_congr_left fun s hs => ?_
    obtain ⟨fate, actor⟩ := simple.ended_of_waiting (by simp [returned]) s hs
    rw [actor]
    rfl
  simp only [upshot, simple.outlook_of_waiting (by simp [returned]), Outlook.after, World.joined, returned,
    List.append_nil, List.map_map]
  rw [List.drop_eq_nil_of_le (by simp), ← fates]
  rfl

/-- One of the parties that are asked can take a step if anyone can. -/
theorem exists_advance? (step : w.CanStep programs party) : ∃ w', w.advance? programs = some w' := by
  obtain ⟨w', step⟩ := Option.isSome_iff_exists.1 step
  have asked : party ∈ w.parties := by
    simp only [parties, List.mem_append, List.mem_cons, List.mem_map, List.mem_reverse, List.mem_range]
    cases party with
    | shell => exact .inr (.inl rfl)
    | relay k =>
      refine .inl ⟨k, ?_, rfl⟩
      simp only [step?, stepRelay?] at step
      split at step
      · rename_i seat
        exact (List.getElem?_eq_some_iff.1 seat).1
      · cases step
    | process k =>
      refine .inr (.inr ⟨k, ?_, rfl⟩)
      simp only [step?, stepProcess?] at step
      split at step
      · rename_i seat
        exact (List.getElem?_eq_some_iff.1 seat).1
      · cases step
  rw [advance?, ← Option.isSome_iff_exists, List.findSome?_isSome_iff]
  exact ⟨party, asked, by rw [step]; rfl⟩

/-- As many steps as there is work are enough. -/
theorem Simple.exists_run (simple : w.Simple) (programs : Programs σ) {steps : Nat} (enough : w.work ≤ steps) :
    ∃ w', World.run programs steps w = some w' := by
  induction steps generalizing w with
  | zero =>
    by_cases returned : w.progress = .returned
    · exact ⟨w, by simp [World.run, returned]⟩
    · obtain ⟨party, step⟩ := simple.fit.exists_canStep programs returned
      obtain ⟨w', step⟩ := Option.isSome_iff_exists.1 step
      have := ((step?_iff.1 step).upshot_eq simple).2
      omega
  | succ steps ih =>
    by_cases returned : w.progress = .returned
    · exact ⟨w, by simp [World.run, returned]⟩
    · obtain ⟨party, canStep⟩ := simple.fit.exists_canStep programs returned
      obtain ⟨v, advance⟩ := exists_advance? canStep
      obtain ⟨party, -, step⟩ := List.exists_of_findSome?_eq_some advance
      have step := step?_iff.1 step
      have less := (step.upshot_eq simple).2
      obtain ⟨w', run⟩ := ih (step.simple simple) (by omega)
      exact ⟨w', by simp [World.run, returned, advance, run]⟩

/-- Whatever the order of steps, the same will become of the pipeline. -/
theorem Simple.of_reaches (simple : w.Simple) (reached : Reaches programs w w') : w'.Simple ∧ w'.upshot = w.upshot :=
  reached.invariant (I := fun v => v.Simple ∧ v.upshot = w.upshot) ⟨simple, rfl⟩
    fun ⟨simple, same⟩ step => ⟨step.simple simple, (step.upshot_eq simple).1.trans same⟩

/-- No order of steps goes on for ever. -/
theorem Simple.acc (simple : w.Simple) : Acc (fun w' w => ∃ party, w.step? programs party = some w') w := by
  generalize bound : w.work = n
  induction n using Nat.strongRecOn generalizing w with
  | _ n ih =>
    subst bound
    refine ⟨w, fun w' ⟨party, step⟩ => ?_⟩
    have step := step?_iff.1 step
    exact ih _ (step.upshot_eq simple).2 (step.simple simple) rfl

/-- A step adds to the terminal, unless it changes the host in another way. -/
theorem Step.terminalErr_prefix (step : Step programs w party w')
    (adds : ∀ {k : Nat} {s : Seat σ} {change : Host → Host} {next : Host → Actor σ},
      Acts programs w party k s (.call change next) → w.host.terminalErr <+: (change w.host).terminalErr) :
    w.host.terminalErr <+: w'.host.terminalErr := by
  cases step with
  | read | refused | passed | passedPart | broken | relayed | turned => exact List.prefix_rfl
  | wrote acts target taken => exact Host.terminalErr_write taken
  | called acts => exact adds acts
  | @done _ k s result acts =>
    cases result with
    | ending e => exact List.prefix_rfl
    | reply reply =>
      have noted := Host.terminalErr_note w.host .debug
        ("builtin ".toList ++ s.name ++ " exited with ".toList ++ showInt reply.status)
      simp only [finish, finishBuiltin]
      split
      · exact noted
      · split
        · exact noted.trans (Host.terminalErr_note _ _ _)
        · exact noted
  | @awaited k _ waiting past =>
    cases pastStage_of_awaitStage? past with
    | noMore | ended => exact List.prefix_rfl
    | gone | neverRun => exact Host.terminalErr_note _ _ _
  | @joined k _ joining past =>
    cases pastRelay_of_awaitRelay? past with
    | noMore | unrelayed => exact List.prefix_rfl
    | finished | stopped => exact Host.terminalErr_note _ _ _

end World

/-! ### From the start to the end -/

/-- The seat of a stage that has been prepared. -/
theorem Prepared.exists_eq_seat {σ : Type} {isFed : Bool} {prepared : List Prepared} {s : Seat σ}
    (hs : s ∈ Prepared.seats isFed prepared) : ∃ (p : Prepared) (isFed : Bool), s = p.seat isFed := by
  induction prepared generalizing isFed with
  | nil => cases hs
  | cons p rest ih =>
    rcases List.mem_cons.1 hs with rfl | hs
    · exact ⟨p, isFed, rfl⟩
    · exact ih hs

/-- What will become of the stages is what running them in order gives. -/
theorem Outlook.of_seats {σ : Type} (isOnly : Bool) (t : Tally) (passed : Option (List Bytes)) (prepared : List Prepared) :
    let o := Outlook.of (σ := σ) isOnly t (passed.getD []) (Prepared.seats passed.isSome prepared)
    (o.tally, o.results) = performAll isOnly t passed prepared := by
  induction prepared generalizing t passed with
  | nil => rfl
  | cons p rest ih =>
    obtain ⟨name, fate | task⟩ := p
    · have ih := ih t none
      simp only [Option.getD_none, Option.isSome_none] at ih
      simp only [Prepared.seats, performAll, ← ih]
      cases passed with
      | none => rfl
      | some chunks => simp [of, Prepared.seat, Actor.fate, cons, Join.drained?, Channel.unread, Prepared.isConnected]
    · have surroundings : (Prepared.seat (σ := σ) ⟨name, .ok task⟩ passed.isSome).surroundings t.host (passed.getD []) =
          { host := t.host, input := { chunks := passed.getD [], hasWriter := false }, out := task.out.outlet
            err := .to task.err } := by
        cases passed <;> rfl
      have connected : Prepared.isConnected ⟨name, .ok task⟩ =
          (task.perform t.host passed).2.out.passed.isSome := by
        rw [Task.perform, Act.isSome_passed_runAlone]
        cases h : task.out <;> simp [Prepared.isConnected, h, Output.outlet, Outlet.passed]
      have ih := ih ({ t with host := (task.perform t.host passed).2.host }.conclude isOnly name
        (task.perform t.host passed).1) (task.perform t.host passed).2.out.passed
      simp only [Prepared.seats, performAll, ← ih, connected]
      rw [of_builtin (show _ = Actor.builtin task.act from rfl), surroundings]
      rfl

namespace Runner

variable {σ : Type} {r : Runner σ} {p : Pipeline} {ctx : Context} {h h' : Host} {prepared : List Prepared}

theorem simple_start (ready : r.prepareAll ctx h false p.stages = some (h', prepared)) : (r.start p ctx h).Simple := by
  have fit := fit_start r p ctx h
  have start := start_eq ready
  have seat : ∀ s ∈ (r.start p ctx h).seats, ∃ (p : Prepared) (isFed : Bool), s = p.seat isFed := by
    rw [start]
    exact fun s hs => Prepared.exists_eq_seat hs
  have at_k : ∀ k, (r.start p ctx h).input k = .absent ∧ (r.start p ctx h).role k = .idle ∨
      ∃ (p' : Prepared) (isFed : Bool), (r.start p ctx h).input k = (p'.seat (σ := σ) isFed).input ∧
        (r.start p ctx h).role k = (p'.seat (σ := σ) isFed).actor.role := by
    intro k
    cases hk : (r.start p ctx h).seats[k]? with
    | none =>
      refine .inl ⟨World.input_of_le (List.getElem?_eq_none_iff.1 hk), ?_⟩
      simp [World.role, World.actor?, hk]
    | some s =>
      obtain ⟨p', isFed, rfl⟩ := seat s (List.mem_of_getElem? hk)
      exact .inr ⟨p', isFed, World.input_eq hk, World.role_eq hk⟩
  refine ⟨fit, fun s hs => ?_, fun k => ?_, fun k relay => ?_, fun k c channel _ => ?_⟩
  · obtain ⟨⟨name, fate | task⟩, isFed, rfl⟩ := seat s hs
    · exact ⟨.inr ⟨fate, rfl⟩, rfl⟩
    · exact ⟨.inl ⟨task.act, rfl⟩, rfl⟩
  · rcases at_k k with ⟨input, -⟩ | ⟨⟨name, fate | task⟩, isFed, input, -⟩
    · rw [input]
      trivial
    · rw [input]
      cases isFed
      · trivial
      · exact .inl rfl
    · rw [input]
      cases isFed <;> trivial
  · rcases at_k k with ⟨-, role⟩ | ⟨⟨name, fate | task⟩, isFed, input, role⟩
    · exact role
    · exact role
    · rw [input] at relay
      cases isFed <;> cases relay
  · rcases at_k (k + 1) with ⟨input, -⟩ | ⟨⟨name, fate | task⟩, isFed, input, role⟩
    · rw [input] at channel
      cases channel
    · rw [input] at channel
      cases isFed <;> cases channel
    · exact role

theorem inOrder_eq (ready : r.prepareAll ctx h false p.stages = some (h', prepared)) :
    r.inOrder p ctx h = some (r.start p ctx h).upshot := by
  have start := start_eq ready
  have length : (r.start p ctx h).seats.length = p.stages.length := (wired r p ctx h).seats.1
  have outlook := Outlook.of_seats (σ := σ) p.isSimple ⟨h', {}⟩ none prepared
  simp only [Option.getD_none, Option.isSome_none] at outlook
  rw [start] at length
  simp only [inOrder, ready, Option.map_some, ← outlook]
  rw [start]
  simp only [World.upshot, World.outlook, World.joined, length, List.drop_zero, Pipeline.isSimple]

/-- A pipeline without programs can be prepared. -/
theorem exists_prepareAll_of_roles (builtins : ∀ k, (r.start p ctx h).role k ≠ .program) :
    ∃ h' prepared, r.prepareAll ctx h false p.stages = some (h', prepared) := by
  refine exists_prepareAll fun seat hseat => ?_
  obtain ⟨k, hk, rfl⟩ := List.getElem_of_mem hseat
  have seat : (r.start p ctx h).seats[k]? = some _ := List.getElem?_eq_getElem hk
  rw [← World.role_eq seat]
  exact builtins k

/-- How long a runner waits does not matter to the start. -/
theorem start_with_patience (r : Runner σ) (patience : Nat) (p : Pipeline) (ctx : Context) (h : Host) :
    { r with patience }.start p ctx h = r.start p ctx h := by
  suffices same : ∀ (stages : List Stage) (h : Host) (input : Join),
      { r with patience }.startStages ctx h input stages = r.startStages ctx h input stages by
    simp only [start, same]
  intro stages
  induction stages with
  | nil => exact fun _ _ => rfl
  | cons s rest ih =>
    intro h input
    have first : { r with patience }.startStage h ctx s input rest.isEmpty = r.startStage h ctx s input rest.isEmpty :=
      rfl
    simp only [startStages, first, ih]

/-- How a pipeline comes out, whatever the order of its steps. -/
structure ComesOut (r : Runner σ) (p : Pipeline) (ctx : Context) (h : Host) (result : Summary × Host) : Prop where
  /-- Running it gives this result, unless it is given up too early. -/
  run : ∃ steps, ∀ patience, steps ≤ patience → { r with patience }.run p ctx h = some result
  /-- Any other order of steps gives the same. -/
  order : ∀ {w : World σ}, World.Reaches r.programs (r.start p ctx h) w → w.progress = .returned →
    (⟨w.fates, w.request.directory, w.request.exit⟩, w.host) = result
  /-- No order of steps goes on for ever. -/
  ends : Acc (fun w' w => ∃ party, w.step? r.programs party = some w') (r.start p ctx h)
  /-- Whatever a builtin may write to the next stage is taken in full. -/
  taken : ∀ {w : World σ} {party : Party} {k : Nat} {s : Seat σ} {request : Request Finish (Actor σ)},
    World.Reaches r.programs (r.start p ctx h) w → World.Acts r.programs w party k s request →
      ∀ data, ∃ j, (w.input (k + 1)).write? data = some (.ok ([], j))
  /-- What is reported while the stages are prepared comes first on the terminal, as long as the builtins do not take
  back what is there. -/
  reported : ∀ {w : World σ}, World.Reaches r.programs (r.start p ctx h) w →
    (∀ {v : World σ} {party : Party} {k : Nat} {s : Seat σ} {change : Host → Host} {next : Host → Actor σ},
      World.Acts r.programs v party k s (.call change next) → v.host.terminalErr <+: (change v.host).terminalErr) →
    (r.start p ctx h).host.terminalErr <+: w.host.terminalErr

/-- **A pipeline of builtins comes out as if they were run one after the other**, each on what the one before has
passed to it.  Stages that do not start may be among them. -/
theorem exists_comesOut (r : Runner σ) (p : Pipeline) (ctx : Context) (h : Host)
    (builtins : ∀ k, (r.start p ctx h).role k ≠ .program) :
    ∃ result, r.inOrder p ctx h = some result ∧ r.ComesOut p ctx h result := by
  obtain ⟨h', prepared, ready⟩ := exists_prepareAll_of_roles builtins
  have simple := simple_start ready
  have order : ∀ {w : World σ}, World.Reaches r.programs (r.start p ctx h) w → w.progress = .returned →
      (⟨w.fates, w.request.directory, w.request.exit⟩, w.host) = (r.start p ctx h).upshot := fun reached returned => by
    obtain ⟨simple, same⟩ := simple.of_reaches reached
    rw [← simple.upshot_of_returned returned, same]
  refine ⟨_, inOrder_eq ready, ⟨(r.start p ctx h).work, fun patience enough => ?_⟩, order, simple.acc,
    fun reached acts => (simple.of_reaches reached).1.exists_write? acts, fun reached adds =>
      reached.invariant (I := fun w => (r.start p ctx h).host.terminalErr <+: w.host.terminalErr) List.prefix_rfl
        fun before step => before.trans (step.terminalErr_prefix adds)⟩
  obtain ⟨w, ran⟩ := simple.exists_run r.programs enough
  obtain ⟨reached, returned⟩ := World.Reaches.of_run ran
  rw [← order reached returned]
  simp only [Runner.run, start_with_patience, Option.map_eq_some_iff]
  exact ⟨w, ran, rfl⟩

/-- The stage between the two builtins does not start, so the last one has nothing to read. -/
theorem exists_comesOut_lettersApart :
    ∃ result, lettered.inOrder lettersApart {} {} = some result ∧
      result.1.stages = [.exited 0, .notFound, .exited 0] ∧ result.2.terminalOut = [65] ∧
      result.2.terminalErr = utf8 "b: command not found\n".toList ∧
      lettered.ComesOut lettersApart {} {} result := by
  have roles : ∀ k, (lettered.start lettersApart {} {}).role k ≠ .program := by
    intro k
    match k with
    | 0 | 1 | 2 => decide
    | k + 3 => exact fun h => by cases h
  obtain ⟨result, inOrder, comesOut⟩ := exists_comesOut lettered lettersApart {} {} roles
  obtain ⟨result', inOrder', stages, out, err⟩ :
      ∃ result, lettered.inOrder lettersApart {} {} = some result ∧
        result.1.stages = [.exited 0, .notFound, .exited 0] ∧ result.2.terminalOut = [65] ∧
        result.2.terminalErr = utf8 "b: command not found\n".toList := ⟨_, rfl, rfl, rfl, rfl⟩
  rw [inOrder] at inOrder'
  cases inOrder'
  exact ⟨result, inOrder, stages, out, err, comesOut⟩

end Runner

end PipeShell
