import PipeShell.Proofs.Run.Ends

/-!
# How long the ends of a join are held

An end of a join is open exactly as long as the stage that holds it runs its program, and the ends inside a join are
open as long as its relay copies: `Join.HeldBy`.  `World.Held` says so of all joins between two stages, together with
the fact that makes it last, that no builtin is left when the shell has begun to wait.  Every step keeps it
(`World.Step.held`).
-/

namespace PipeShell

namespace Pipe

variable {p p' : Pipe}

theorem ends_of_read? {limit : Nat} {data : Bytes} (h : p.read? limit = some (data, p')) :
    p'.hasWriter = p.hasWriter ∧ p'.hasReader = p.hasReader := by
  unfold read? at h
  split at h
  · cases h; exact ⟨rfl, rfl⟩
  · split at h
    · cases h
    · cases h; exact ⟨rfl, rfl⟩

theorem ends_of_write? {data rest : Bytes} (h : p.write? data = some (.ok (rest, p'))) :
    p'.hasWriter = p.hasWriter ∧ p'.hasReader = p.hasReader := by
  unfold write? at h
  split at h
  · cases h; exact ⟨rfl, rfl⟩
  · split at h
    · cases h
    · dsimp only at h
      split at h
      · cases h
      · cases h; exact ⟨rfl, rfl⟩

end Pipe

namespace Channel

variable {c c' : Channel}

theorem ends_of_read? {limit : Nat} {data : Bytes} (h : c.read? limit = some (data, c')) :
    c'.hasWriter = c.hasWriter ∧ c'.hasReader = c.hasReader := by
  unfold read? at h
  split at h
  · cases h; exact ⟨rfl, rfl⟩
  · dsimp only at h
    split at h
    · cases h
    · cases h; exact ⟨rfl, rfl⟩

theorem ends_of_write {data : Bytes} (h : c.write data = .ok c') :
    c'.hasWriter = c.hasWriter ∧ c'.hasReader = c.hasReader := by
  unfold write at h
  split at h
  · cases h; exact ⟨rfl, rfl⟩
  · split at h
    · cases h; exact ⟨rfl, rfl⟩
    · cases h

end Channel

/-- The relay has not come to its end. -/
def Relay.copies (r : Relay) : Bool := r.state == .copying

namespace Join

/-- The ends of a join are open as they should be: the outer ones if the stage that writes and the stage that reads
are running, and the ones that its relay holds if the relay copies. -/
def HeldBy (writes reads : Bool) : Join → Prop
  | .absent => True
  | .channel c => c.hasWriter = writes ∧ c.hasReader = reads
  | .pipe p => p.hasWriter = writes ∧ p.hasReader = reads
  | .feeding c r p =>
    c.hasWriter = writes ∧ p.hasReader = reads ∧ c.hasReader = r.copies ∧ p.hasWriter = r.copies
  | .collecting p r c =>
    p.hasWriter = writes ∧ c.hasReader = reads ∧ p.hasReader = r.copies ∧ c.hasWriter = r.copies
  | .draining c r => c.hasWriter = writes ∧ c.hasReader = r.copies

variable {j j' : Join} {writes reads : Bool}

theorem HeldBy.read? {limit : Nat} {data : Bytes} (held : j.HeldBy writes reads)
    (h : j.read? limit = some (data, j')) : j'.HeldBy writes reads := by
  cases j with
  | absent | draining =>
    simp only [Join.read?, Option.some.injEq, Prod.mk.injEq] at h
    rw [← h.2]; exact held
  | channel c =>
    simp only [Join.read?, Option.map_eq_some_iff, Prod.mk.injEq] at h
    obtain ⟨⟨data, c'⟩, hc, -, rfl⟩ := h
    obtain ⟨hw, hr⟩ := Channel.ends_of_read? hc
    exact ⟨hw.trans held.1, hr.trans held.2⟩
  | pipe p =>
    simp only [Join.read?, Option.map_eq_some_iff, Prod.mk.injEq] at h
    obtain ⟨⟨data, p'⟩, hp, -, rfl⟩ := h
    obtain ⟨hw, hr⟩ := Pipe.ends_of_read? hp
    exact ⟨hw.trans held.1, hr.trans held.2⟩
  | feeding c r p =>
    simp only [Join.read?, Option.map_eq_some_iff, Prod.mk.injEq] at h
    obtain ⟨⟨data, p'⟩, hp, -, rfl⟩ := h
    obtain ⟨hw, hr⟩ := Pipe.ends_of_read? hp
    exact ⟨held.1, hr.trans held.2.1, held.2.2.1, hw.trans held.2.2.2⟩
  | collecting p r c =>
    simp only [Join.read?, Option.map_eq_some_iff, Prod.mk.injEq] at h
    obtain ⟨⟨data, c'⟩, hc, -, rfl⟩ := h
    obtain ⟨hw, hr⟩ := Channel.ends_of_read? hc
    exact ⟨held.1, hr.trans held.2.1, held.2.2.1, hw.trans held.2.2.2⟩

theorem HeldBy.write? {data rest : Bytes} (held : j.HeldBy writes reads)
    (h : j.write? data = some (.ok (rest, j'))) : j'.HeldBy writes reads := by
  cases j with
  | absent =>
    simp only [Join.write?, Option.some.injEq, Except.ok.injEq, Prod.mk.injEq] at h
    rw [← h.2]; exact held
  | channel c | feeding c r p | draining c r =>
    cases hc : c.write data with
    | error fault => simp [Join.write?, hc, Except.map] at h
    | ok c' =>
      simp only [Join.write?, hc, Except.map, Option.some.injEq, Except.ok.injEq, Prod.mk.injEq] at h
      obtain ⟨hw, hr⟩ := Channel.ends_of_write hc
      rw [← h.2]
      simpa only [HeldBy, hw, hr] using held
  | pipe p | collecting p r c =>
    simp only [Join.write?, Option.map_eq_some_iff] at h
    obtain ⟨outcome, hp, h⟩ := h
    cases outcome with
    | error fault => cases h
    | ok result =>
      simp only [Except.map, Except.ok.injEq, Prod.mk.injEq] at h
      obtain ⟨hw, hr⟩ := Pipe.ends_of_write? hp
      rw [← h.2]
      simpa only [HeldBy, hw, hr] using held

theorem HeldBy.closeReader (held : j.HeldBy writes reads) : j.closeReader.HeldBy writes false := by
  cases j with
  | absent => trivial
  | channel c | pipe p => exact ⟨held.1, rfl⟩
  | feeding c r p | collecting p r c => exact ⟨held.1, rfl, held.2.2⟩
  | draining c r => exact held

theorem HeldBy.closeWriter (held : j.HeldBy writes reads) : j.closeWriter.HeldBy false reads := by
  cases j with
  | absent => trivial
  | channel c | pipe p | feeding c r p | collecting p r c | draining c r => exact ⟨rfl, held.2⟩

/-- A relay lets go of its ends when it comes to its end, and not before. -/
theorem HeldBy.stepRelay? (held : j.HeldBy writes reads) (h : j.stepRelay? = some j') : j'.HeldBy writes reads := by
  cases relays_of_stepRelay? h with
  | feedRead copying idle given more =>
    obtain ⟨hw, hr⟩ := Channel.ends_of_read? given
    exact ⟨hw.trans held.1, held.2.1, hr.trans held.2.2.1, held.2.2.2⟩
  | feedEnd copying idle given =>
    exact ⟨(Channel.ends_of_read? given).1.trans held.1, held.2.1, rfl, rfl⟩
  | feedWrite copying busy taken =>
    obtain ⟨hw, hr⟩ := Pipe.ends_of_write? taken
    exact ⟨held.1, hr.trans held.2.1, held.2.2.1, hw.trans held.2.2.2⟩
  | feedBroken | collectBroken => exact ⟨held.1, held.2.1, rfl, rfl⟩
  | collectRead copying idle given more =>
    obtain ⟨hw, hr⟩ := Pipe.ends_of_read? given
    exact ⟨hw.trans held.1, held.2.1, hr.trans held.2.2.1, held.2.2.2⟩
  | collectEnd copying idle given =>
    exact ⟨(Pipe.ends_of_read? given).1.trans held.1, held.2.1, rfl, rfl⟩
  | collectWrite copying busy taken =>
    obtain ⟨hw, hr⟩ := Channel.ends_of_write taken
    exact ⟨held.1, hr.trans held.2.1, held.2.2.1, hw.trans held.2.2.2⟩
  | drainRead copying given more =>
    obtain ⟨hw, hr⟩ := Channel.ends_of_read? given
    exact ⟨hw.trans held.1, hr.trans held.2⟩
  | drainEnd copying given => exact ⟨(Channel.ends_of_read? given).1.trans held.1, rfl⟩

end Join

namespace World

variable {σ : Type} {programs : Programs σ} {w w' v : World σ} {party : Party} {k i : Nat} {s : Seat σ}
  {request : Request Finish (Actor σ)}

/-- What a stage is at this moment. -/
def role (w : World σ) (k : Nat) : Role := ((w.actor? k).map Actor.role).getD .idle

/-- The program of a stage runs. -/
def runs (w : World σ) (k : Nat) : Bool := w.role k != .idle

theorem role_eq (h : w.seats[k]? = some s) : w.role k = s.actor.role := by simp [role, actor?, h]

theorem role_congr (h : w'.seats = w.seats) (i : Nat) : w'.role i = w.role i := by simp only [role, actor?_congr h]

@[simp] theorem role_modifyInput (w : World σ) (k : Nat) (f : Join → Join) (i : Nat) :
    (w.modifyInput k f).role i = w.role i := by simp only [role, actor?_modifyInput]

@[simp] theorem role_setUnsent (w : World σ) (k : Nat) (rest : Bytes) (i : Nat) :
    (w.setUnsent k rest).role i = w.role i := by simp only [role, actor?_setUnsent]

theorem role_setActor (w : World σ) (h : k < w.seats.length) (a : Actor σ) (i : Nat) :
    (w.setActor k a).role i = if i = k then a.role else w.role i := by
  by_cases hi : i = k
  · subst hi
    simp [role, actor?_setActor_self w h]
  · simp [role, hi, actor?_setActor_of_ne w hi]

/-- A stage that goes on is what it was. -/
theorem role_setActor_of_eq (w : World σ) {a : Actor σ} (same : a.role = w.role k) (i : Nat) :
    (w.setActor k a).role i = w.role i := by
  by_cases hk : k < w.seats.length
  · rw [role_setActor w hk]
    split
    · rename_i h
      rw [h, same]
    · rfl
  · have hseats : (w.setActor k a).seats = w.seats := List.modify_eq_self (by omega)
    exact role_congr hseats i

/-- A stage that has ended is idle. -/
theorem role_finish (w : World σ) (h : k < w.seats.length) (name : Text) (result : Finish) (i : Nat) :
    (w.finish k name result).role i = if i = k then .idle else w.role i := by
  obtain ⟨a, idle, hseats⟩ := w.finish_seats k name result
  rw [role_congr hseats, role_setActor w h, idle]

theorem progress_finish (w : World σ) (k : Nat) (name : Text) (result : Finish) :
    (w.finish k name result).progress = w.progress := by
  cases result with
  | reply r =>
    simp only [finish, finishBuiltin]
    split
    · rfl
    · split <;> rfl
  | ending e => rfl

/-- When no builtin is left to be run, no stage is one. -/
theorem role_of_nextBuiltin?_eq_none (h : w.nextBuiltin? = none) (i : Nat) : w.role i ≠ .builtin := by
  suffices go : ∀ (seats : List (Seat σ)) (n : Nat), nextBuiltin?.go n seats = none →
      ∀ t ∈ seats, t.actor.role ≠ .builtin by
    cases hs : w.seats[i]? with
    | none => simp [role, actor?, hs]
    | some t =>
      rw [role_eq hs]
      exact go w.seats 0 h t (List.mem_of_getElem? hs)
  intro seats
  induction seats with
  | nil => simp
  | cons t rest ih =>
    intro n h
    cases ha : t.actor with
    | builtin act => simp [nextBuiltin?.go, ha] at h
    | process _ | gone _ | ended _ =>
      simp only [nextBuiltin?.go, ha] at h
      intro u hu
      rcases List.mem_cons.1 hu with rfl | hu
      · simp [ha, Actor.role]
      · exact ih _ h u hu

theorem Acts.role_eq (acts : Acts programs w party k s request) : w.role k = s.actor.role := World.role_eq acts.seat

theorem lt_of_actor? {a : Actor σ} (h : w.actor? k = some a) : k < w.seats.length := by
  obtain ⟨s, seat, -⟩ := Option.map_eq_some_iff.1 h
  exact (List.getElem?_eq_some_iff.1 seat).1

theorem Acts.runs (acts : Acts programs w party k s request) : w.runs k = true := by
  have role := acts.role_ne_idle
  rw [← acts.role_eq] at role
  simpa [World.runs] using role

theorem lt_of_runs (h : w.runs k = true) : k < w.seats.length := by
  cases ha : w.actor? k with
  | none => simp [runs, role, ha] at h
  | some a => exact lt_of_actor? ha

theorem role_eq_idle_iff : w.role k = .idle ↔ w.runs k = false := by simp [runs]

/-- A stage goes on as what it is, unless its program ends, or the shell ends it while it waits. -/
theorem Step.role_eq_or_done (step : Step programs w party w') (i : Nat) :
    w'.role i = w.role i ∨
      w'.role i = .idle ∧ (w.progress ≠ .running ∨ ∃ s result, Acts programs w party i s (.done result)) := by
  cases step with
  | @done _ k s result acts =>
    have hk : k < (w.closeEnds k).seats.length := by
      simpa [closeEnds, modifyInput] using (List.getElem?_eq_some_iff.1 acts.seat).1
    rw [role_finish _ hk, closeEnds, role_modifyInput, role_modifyInput]
    by_cases h : i = k
    · subst h
      exact .inr ⟨if_pos rfl, .inr ⟨s, result, acts⟩⟩
    · exact .inl (if_neg h)
  | read acts given =>
    rw [role_setActor_of_eq _ (by rw [setInput, role_modifyInput, acts.role_eq]; exact acts.leads _)]
    exact .inl (role_modifyInput _ _ _ _)
  | wrote acts | refused acts | broken acts | called acts =>
    exact .inl (role_setActor_of_eq _ ((acts.leads _).trans acts.role_eq.symm) i)
  | passed acts target taken =>
    rw [role_setActor_of_eq _ (by rw [setInput, role_modifyInput, acts.role_eq]; exact acts.leads none)]
    exact .inl (role_modifyInput _ _ _ _)
  | passedPart => exact .inl ((role_setUnsent _ _ _ _).trans (role_modifyInput _ _ _ _))
  | relayed hk copied => exact .inl (role_modifyInput _ _ _ _)
  | turned running last => exact .inl rfl
  | @awaited k _ waiting past =>
    rcases awaitStage?_seats past with h | ⟨fate, h, live⟩
    · exact .inl (role_congr h i)
    · have hk : k < w.seats.length := by
        rcases live with ⟨ending, live⟩ | ⟨act, live⟩ <;> exact lt_of_actor? live
      rw [role_congr h, role_setActor w hk]
      by_cases hi : i = k
      · exact .inr ⟨if_pos hi, .inl (by simp [waiting])⟩
      · exact .inl (if_neg hi)
  | joined joining past => exact .inl (role_congr (awaitRelay?_seats past) i)

theorem Step.role_eq_or_idle (step : Step programs w party w') (i : Nat) :
    w'.role i = w.role i ∨ w'.role i = .idle :=
  (step.role_eq_or_done i).imp_right And.left

/-- A stage that has ended does not start again. -/
theorem Step.runs_eq_false (step : Step programs w party w') (ended : w.runs k = false) : w'.runs k = false := by
  rw [← role_eq_idle_iff] at ended ⊢
  rcases step.role_eq_or_idle k with same | idle
  · rw [same, ended]
  · exact idle

/-- Each end of a join between two stages is open as long as the stage that holds it runs.  When the shell has begun
to wait, there are no builtins left, so that waiting ends no program. -/
structure Held (w : World σ) : Prop where
  joins : ∀ k, (w.input (k + 1)).HeldBy (w.runs k) (w.runs (k + 1))
  settled : w.progress ≠ .running → ∀ k, w.role k ≠ .builtin

/-- A step in which no stage starts or ends has to leave the ends of the joins as they are. -/
theorem Held.of_role_eq (held : w.Held) (roles : ∀ i, w'.role i = w.role i)
    (progress : w'.progress ≠ .running → w.progress ≠ .running)
    (joins : ∀ (k : Nat) (writes reads : Bool), (w.input (k + 1)).HeldBy writes reads →
      (w'.input (k + 1)).HeldBy writes reads) : w'.Held where
  joins k := by
    simp only [runs, roles]
    exact joins k _ _ (held.joins k)
  settled waits k := by
    rw [roles]
    exact held.settled (progress waits) k

/-- A stage that reads, or whose relay copies, changes the join in front of it only. -/
theorem Held.setInput (held : w.Held) {j : Join} (seat : k < w.seats.length ∨ j = .absent)
    (kept : ∀ writes reads, (w.input k).HeldBy writes reads → j.HeldBy writes reads) : (w.setInput k j).Held := by
  refine held.of_role_eq (role_modifyInput w k _) id ?_
  intro i writes reads hi
  rw [input_setInput w k seat]
  split
  · rename_i h
    rw [h] at hi
    exact kept _ _ hi
  · exact hi

theorem Held.setActor (held : w.Held) {a : Actor σ} (same : a.role = w.role k) : (w.setActor k a).Held :=
  held.of_role_eq (role_setActor_of_eq w same) id fun i _ _ hi => by rw [input_setActor]; exact hi

theorem Held.setUnsent (held : w.Held) (rest : Bytes) : (w.setUnsent k rest).Held :=
  held.of_role_eq (role_setUnsent w k rest) id fun i _ _ hi => by rw [input_setUnsent]; exact hi

theorem Held.with_host (held : w.Held) (host : Host) : { w with host }.Held := ⟨held.joins, held.settled⟩

/-- A program that ends lets go of two ends, and of no others. -/
theorem Held.done {name : Text} {result : Finish} (held : w.Held) (hk : k < w.seats.length) :
    ((w.closeEnds k).finish k name result).Held := by
  have hlen : k < (w.closeEnds k).seats.length := by simpa [closeEnds, modifyInput] using hk
  have hrole : ∀ i, ((w.closeEnds k).finish k name result).role i = if i = k then .idle else w.role i := by
    intro i
    rw [role_finish _ hlen, closeEnds, role_modifyInput, role_modifyInput]
  constructor
  · intro i
    have hi := held.joins i
    rw [input_finish, input_closeEnds]
    simp only [runs, hrole] at hi ⊢
    by_cases writer : i = k
    · subst writer
      simpa using hi.closeWriter
    · by_cases reader : i + 1 = k
      · simpa [writer, reader] using hi.closeReader
      · simpa [writer, reader] using hi
  · intro waits i
    rw [progress_finish] at waits
    rw [hrole]
    split
    · simp
    · exact held.settled waits i

/-- Every step keeps the ends of the joins in the right hands. -/
theorem Step.held (step : Step programs w party w') (held : w.Held) : w'.Held := by
  cases step with
  | done acts => exact held.done (List.getElem?_eq_some_iff.1 acts.seat).1
  | @read _ k s limit next data j acts given =>
    have hk : k < w.seats.length := (List.getElem?_eq_some_iff.1 acts.seat).1
    have hset : (w.setInput k j).Held := held.setInput (.inl hk) fun _ _ hj => by
      rw [input_eq acts.seat] at hj
      exact hj.read? given
    exact hset.setActor (by rw [World.setInput, role_modifyInput, acts.role_eq]; exact acts.leads data)
  | wrote acts target taken =>
    exact (held.with_host _).setActor ((acts.leads none).trans acts.role_eq.symm)
  | refused acts target failed =>
    exact held.setActor ((acts.leads _).trans acts.role_eq.symm)
  | passed acts target taken =>
    have hset := held.setInput (seat_or_absent taken) fun _ _ hj => hj.write? taken
    exact hset.setActor (by rw [World.setInput, role_modifyInput, acts.role_eq]; exact acts.leads none)
  | passedPart acts target taken more =>
    exact (held.setInput (seat_or_absent taken) fun _ _ hj => hj.write? taken).setUnsent _
  | broken acts target failed =>
    exact held.setActor ((acts.leads _).trans acts.role_eq.symm)
  | called acts =>
    exact (held.with_host _).setActor ((acts.leads _).trans acts.role_eq.symm)
  | relayed hk copied => exact held.setInput (.inl hk) fun _ _ hj => hj.stepRelay? copied
  | turned running last => exact ⟨held.joins, fun _ => role_of_nextBuiltin?_eq_none last⟩
  | @awaited k _ waiting past =>
    have waits : w.progress ≠ .running := by simp [waiting]
    rcases awaitStage?_seats past with h | ⟨fate, h, live⟩
    · refine held.of_role_eq (role_congr h) (fun _ => waits) fun i _ _ hi => ?_
      rw [input_congr h]
      exact hi
    · -- A builtin would be ended here with its joins open, but none is left.
      have same : (Actor.ended fate : Actor σ).role = w.role k := by
        rcases live with ⟨ending, hgone⟩ | ⟨act, hact⟩
        · simp [role, hgone, Actor.role]
        · exact absurd (by simp [role, hact, Actor.role]) (held.settled waits k)
      refine held.of_role_eq (fun i => ?_) (fun _ => waits) fun i _ _ hi => ?_
      · rw [role_congr h, role_setActor_of_eq w same]
      · rw [input_congr h, input_setActor]
        exact hi
  | joined joining past =>
    have waits : w.progress ≠ .running := by simp [joining]
    have h := awaitRelay?_seats past
    refine held.of_role_eq (role_congr h) (fun _ => waits) fun i _ _ hi => ?_
    rw [input_congr h]
    exact hi

end World

end PipeShell
