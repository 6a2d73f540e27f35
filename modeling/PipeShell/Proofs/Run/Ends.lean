import PipeShell.Proofs.Run.Step

/-!
# Who holds the ends of a join

A join has a reading end, which the stage behind it holds, and a writing end, which the stage before it holds; its
relay stands between them.  `World.Handled` lists what can happen to a join in one step, and who does it.

Nothing about how the stages are connected changes in a step: `World.wiring` leaves out what goes through the joins
and what the stages are doing, and `World.Step.wiring_eq` keeps the rest.  As long as a stage whose output goes
elsewhere has no join behind it, every step is `World.Orderly`: each end of a join is touched by the stage that holds
it, a stage reads from the join in front of it only, and what it writes goes where its stream goes and to no other
place.
-/

namespace PipeShell

namespace Join

/-- The join as it was made. -/
def fresh : Join → Join
  | .absent => .absent
  | .channel _ => .channel {}
  | .pipe _ => .pipe {}
  | .feeding _ r _ => .feeding {} { label := r.label } {}
  | .collecting _ r _ => .collecting {} { label := r.label } {}
  | .draining _ r => .draining {} { label := r.label }

theorem fresh_eq_absent_iff {j : Join} : j.fresh = .absent ↔ j = .absent := by
  cases j <;> simp [fresh]

variable {j j' : Join}

theorem fresh_of_read? {limit : Nat} {data : Bytes} (h : j.read? limit = some (data, j')) : j'.fresh = j.fresh := by
  cases j <;> simp only [read?, Option.map_eq_some_iff, Option.some.injEq, Prod.mk.injEq] at h
  case absent | draining => rw [← h.2]
  all_goals
    obtain ⟨⟨data, half⟩, -, -, rfl⟩ := h
    rfl

theorem fresh_of_write? {data rest : Bytes} (h : j.write? data = some (.ok (rest, j'))) : j'.fresh = j.fresh := by
  cases j with
  | absent =>
    simp only [write?, Option.some.injEq, Except.ok.injEq, Prod.mk.injEq] at h
    rw [← h.2]
  | channel c | feeding c r p | draining c r =>
    cases hw : c.write data with
    | error fault => simp [write?, hw, Except.map] at h
    | ok c' =>
      simp only [write?, hw, Except.map, Option.some.injEq, Except.ok.injEq, Prod.mk.injEq] at h
      rw [← h.2]; rfl
  | pipe p | collecting p r c =>
    simp only [write?, Option.map_eq_some_iff] at h
    obtain ⟨outcome, -, h⟩ := h
    cases outcome with
    | error fault => cases h
    | ok result =>
      simp only [Except.map, Except.ok.injEq, Prod.mk.injEq] at h
      rw [← h.2]; rfl

@[simp] theorem fresh_closeReader (j : Join) : j.closeReader.fresh = j.fresh := by cases j <;> rfl

@[simp] theorem fresh_closeWriter (j : Join) : j.closeWriter.fresh = j.fresh := by cases j <;> rfl

/-- One step of a relay, by what it does. -/
inductive Relays : Join → Join → Prop
  | feedRead {c c' : Channel} {r : Relay} {p : Pipe} {b : Bytes} (copying : r.state = .copying) (idle : r.held = [])
      (given : c.read? relayChunk = some (b, c')) (more : b ≠ []) :
      Relays (.feeding c r p) (.feeding c' { r with held := b } p)
  | feedEnd {c c' : Channel} {r : Relay} {p : Pipe} (copying : r.state = .copying) (idle : r.held = [])
      (given : c.read? relayChunk = some ([], c')) :
      Relays (.feeding c r p) (.feeding c'.dropReader { r with state := .finished } p.dropWriter)
  | feedWrite {c : Channel} {r : Relay} {p p' : Pipe} {rest : Bytes} (copying : r.state = .copying)
      (busy : r.held ≠ []) (taken : p.write? r.held = some (.ok (rest, p'))) :
      Relays (.feeding c r p)
        (.feeding c { r with held := rest, copied := r.copied + (r.held.length - rest.length) } p')
  | feedBroken {c : Channel} {r : Relay} {p : Pipe} {fault : Fault} (copying : r.state = .copying)
      (busy : r.held ≠ []) (failed : p.write? r.held = some (.error fault)) :
      Relays (.feeding c r p) (.feeding c.dropReader { r with held := [], state := .stopped fault } p.dropWriter)
  | collectRead {p p' : Pipe} {r : Relay} {c : Channel} {b : Bytes} (copying : r.state = .copying) (idle : r.held = [])
      (given : p.read? relayChunk = some (b, p')) (more : b ≠ []) :
      Relays (.collecting p r c) (.collecting p' { r with held := b } c)
  | collectEnd {p p' : Pipe} {r : Relay} {c : Channel} (copying : r.state = .copying) (idle : r.held = [])
      (given : p.read? relayChunk = some ([], p')) :
      Relays (.collecting p r c) (.collecting p'.dropReader { r with state := .finished } c.dropWriter)
  | collectWrite {p : Pipe} {r : Relay} {c c' : Channel} (copying : r.state = .copying) (busy : r.held ≠ [])
      (taken : c.write r.held = .ok c') :
      Relays (.collecting p r c) (.collecting p { r with held := [], copied := r.copied + r.held.length } c')
  | collectBroken {p : Pipe} {r : Relay} {c : Channel} {fault : Fault} (copying : r.state = .copying)
      (busy : r.held ≠ []) (failed : c.write r.held = .error fault) :
      Relays (.collecting p r c) (.collecting p.dropReader { r with held := [], state := .stopped fault } c.dropWriter)
  | drainRead {c c' : Channel} {r : Relay} {b : Bytes} (copying : r.state = .copying)
      (given : c.read? relayChunk = some (b, c')) (more : b ≠ []) :
      Relays (.draining c r) (.draining c' { r with copied := r.copied + b.length })
  | drainEnd {c c' : Channel} {r : Relay} (copying : r.state = .copying)
      (given : c.read? relayChunk = some ([], c')) :
      Relays (.draining c r) (.draining c'.dropReader { r with state := .finished })

/-- The list of a relay's steps is complete. -/
theorem relays_of_stepRelay? (h : j.stepRelay? = some j') : j.Relays j' := by
  cases j with
  | absent | channel c | pipe p => simp [stepRelay?, relay?] at h
  | feeding c r p =>
    simp only [stepRelay?, relay?, Option.ite_none_left_eq_some, Decidable.not_not] at h
    obtain ⟨copying, h⟩ := h
    unfold stepFeeding? at h
    split at h
    · rename_i idle
      obtain ⟨⟨b, c'⟩, given, rfl⟩ := Option.map_eq_some_iff.1 h
      by_cases hb : b = []
      · subst hb
        exact .feedEnd copying idle given
      · simp only [if_neg hb]
        exact .feedRead copying idle given hb
    · rename_i busy
      obtain ⟨outcome, hp, rfl⟩ := Option.map_eq_some_iff.1 h
      cases outcome with
      | ok result => exact .feedWrite copying busy hp
      | error fault => exact .feedBroken copying busy hp
  | collecting p r c =>
    simp only [stepRelay?, relay?, Option.ite_none_left_eq_some, Decidable.not_not] at h
    obtain ⟨copying, h⟩ := h
    unfold stepCollecting? at h
    split at h
    · rename_i idle
      obtain ⟨⟨b, p'⟩, given, rfl⟩ := Option.map_eq_some_iff.1 h
      by_cases hb : b = []
      · subst hb
        exact .collectEnd copying idle given
      · simp only [if_neg hb]
        exact .collectRead copying idle given hb
    · rename_i busy
      obtain rfl := Option.some.inj h
      split
      · rename_i taken
        exact .collectWrite copying busy taken
      · rename_i failed
        exact .collectBroken copying busy failed
  | draining c r =>
    simp only [stepRelay?, relay?, Option.ite_none_left_eq_some, Decidable.not_not] at h
    obtain ⟨copying, h⟩ := h
    obtain ⟨⟨b, c'⟩, given, rfl⟩ := Option.map_eq_some_iff.1 h
    by_cases hb : b = []
    · subst hb
      exact .drainEnd copying given
    · simp only [if_neg hb]
      exact .drainRead copying given hb

theorem fresh_of_stepRelay? (h : j.stepRelay? = some j') : j'.fresh = j.fresh := by
  cases relays_of_stepRelay? h <;> rfl

end Join

namespace World

variable {σ : Type} {programs : Programs σ} {w w' : World σ} {party : Party} {k i : Nat} {s : Seat σ}
  {request : Request Finish (Actor σ)}

/-! ### What the parts of a step do to the seats -/

/-- What a stage is doing. -/
def actor? (w : World σ) (k : Nat) : Option (Actor σ) := w.seats[k]?.map (·.actor)

/-- How the stages are connected: the name of each, where its two streams go, and the join that it reads from, as it
was made. -/
def wiring (w : World σ) : List (Text × Output × Destination × Join) :=
  w.seats.map fun s => (s.name, s.out, s.err, s.input.fresh)

theorem input_congr (h : w'.seats = w.seats) (i : Nat) : w'.input i = w.input i := by simp only [input, h]

theorem actor?_congr (h : w'.seats = w.seats) (i : Nat) : w'.actor? i = w.actor? i := by simp only [actor?, h]

theorem wiring_congr (h : w'.seats = w.seats) : w'.wiring = w.wiring := by simp only [wiring, h]

/-- What does not look at the part of a seat that is changed gives the same everywhere. -/
theorem map_modify_of_eq {α β : Type} (l : List α) (k : Nat) {f : α → α} {g : α → β} (same : ∀ x, g (f x) = g x) :
    (l.modify k f).map g = l.map g := by
  apply List.ext_getElem?
  intro i
  rw [List.getElem?_map, List.getElem?_map, List.getElem?_modify]
  cases l[i]? with
  | none => rfl
  | some x => by_cases h : k = i <;> simp [h, same]

theorem input_eq_map (w : World σ) (i : Nat) : w.input i = ((w.seats.map (·.input))[i]?).getD .absent := by
  rw [List.getElem?_map]
  rfl

theorem actor?_eq_map (w : World σ) (i : Nat) : w.actor? i = (w.seats.map (·.actor))[i]? := List.getElem?_map.symm

@[simp] theorem input_setActor (w : World σ) (k : Nat) (a : Actor σ) (i : Nat) :
    (w.setActor k a).input i = w.input i := by
  have same : (w.setActor k a).seats.map (·.input) = w.seats.map (·.input) := map_modify_of_eq _ _ fun _ => rfl
  rw [input_eq_map, input_eq_map, same]

@[simp] theorem input_setUnsent (w : World σ) (k : Nat) (rest : Bytes) (i : Nat) :
    (w.setUnsent k rest).input i = w.input i := by
  have same : (w.setUnsent k rest).seats.map (·.input) = w.seats.map (·.input) := map_modify_of_eq _ _ fun _ => rfl
  rw [input_eq_map, input_eq_map, same]

/-- A join is changed at its own place only.  The other premise is that nothing is put where there is no seat. -/
theorem input_modifyInput (w : World σ) (k : Nat) {f : Join → Join} (seat : k < w.seats.length ∨ f .absent = .absent)
    (i : Nat) : (w.modifyInput k f).input i = if i = k then f (w.input i) else w.input i := by
  simp only [input, modifyInput, List.getElem?_modify]
  cases hi : w.seats[i]? with
  | none =>
    have : w.seats.length ≤ i := List.getElem?_eq_none_iff.1 hi
    by_cases h : i = k
    · subst h
      rcases seat with seat | seat
      · omega
      · simp [seat]
    · simp [h]
  | some s => by_cases h : k = i <;> simp [h, eq_comm]

theorem input_setInput (w : World σ) (k : Nat) {j : Join} (seat : k < w.seats.length ∨ j = .absent) (i : Nat) :
    (w.setInput k j).input i = if i = k then j else w.input i :=
  input_modifyInput w k seat i

@[simp] theorem wiring_setActor (w : World σ) (k : Nat) (a : Actor σ) : (w.setActor k a).wiring = w.wiring :=
  map_modify_of_eq _ _ fun _ => rfl

@[simp] theorem wiring_setUnsent (w : World σ) (k : Nat) (rest : Bytes) : (w.setUnsent k rest).wiring = w.wiring :=
  map_modify_of_eq _ _ fun _ => rfl

theorem wiring_modifyInput (w : World σ) (k : Nat) {f : Join → Join} (same : (f (w.input k)).fresh = (w.input k).fresh) :
    (w.modifyInput k f).wiring = w.wiring := by
  apply List.ext_getElem?
  intro i
  simp only [wiring, modifyInput, List.getElem?_map, List.getElem?_modify]
  cases hs : w.seats[i]? with
  | none => rfl
  | some s =>
    by_cases h : k = i
    · subst h
      rw [input_eq hs] at same
      simp [same]
    · simp [h]

theorem wiring_setInput (w : World σ) (k : Nat) {j : Join} (same : j.fresh = (w.input k).fresh) :
    (w.setInput k j).wiring = w.wiring :=
  wiring_modifyInput w k same

@[simp] theorem actor?_modifyInput (w : World σ) (k : Nat) (f : Join → Join) (i : Nat) :
    (w.modifyInput k f).actor? i = w.actor? i := by
  have same : (w.modifyInput k f).seats.map (·.actor) = w.seats.map (·.actor) := map_modify_of_eq _ _ fun _ => rfl
  rw [actor?_eq_map, actor?_eq_map, same]

@[simp] theorem actor?_setUnsent (w : World σ) (k : Nat) (rest : Bytes) (i : Nat) :
    (w.setUnsent k rest).actor? i = w.actor? i := by
  have same : (w.setUnsent k rest).seats.map (·.actor) = w.seats.map (·.actor) := map_modify_of_eq _ _ fun _ => rfl
  rw [actor?_eq_map, actor?_eq_map, same]

theorem actor?_setActor_of_ne (w : World σ) {k i : Nat} (h : i ≠ k) (a : Actor σ) :
    (w.setActor k a).actor? i = w.actor? i := by
  simp only [actor?, setActor, List.getElem?_modify, if_neg (Ne.symm h)]
  cases w.seats[i]? <;> rfl

theorem finishBuiltin_seats (w : World σ) (k : Nat) (name : Text) (reply : Reply) :
    (w.finishBuiltin k name reply).seats = (w.setActor k (.ended (.exited reply.status))).seats := by
  simp only [finishBuiltin]
  split
  · rfl
  · split <;> rfl

/-- When a program has ended, only what its own stage is doing has changed. -/
theorem finish_seats (w : World σ) (k : Nat) (name : Text) (result : Finish) :
    ∃ a, a.role = .idle ∧ (w.finish k name result).seats = (w.setActor k a).seats := by
  cases result with
  | reply r => exact ⟨.ended (.exited r.status), rfl, finishBuiltin_seats w k name r⟩
  | ending e => exact ⟨.gone e, rfl, rfl⟩

/-- Going past a stage, the shell may only put down how it ended, and it does so only for a process that is gone and
for a builtin that has not been run. -/
theorem awaitStage?_seats (h : w.awaitStage? k = some w') :
    w'.seats = w.seats ∨ ∃ fate, w'.seats = (w.setActor k (.ended fate)).seats ∧
      ((∃ ending, w.actor? k = some (.gone ending)) ∨ ∃ act, w.actor? k = some (.builtin act)) := by
  cases pastStage_of_awaitStage? h with
  | noMore | ended => exact .inl rfl
  | gone seat actor => exact .inr ⟨_, rfl, .inl ⟨_, by rw [actor?, seat, Option.map_some, actor]⟩⟩
  | neverRun seat actor => exact .inr ⟨_, rfl, .inr ⟨_, by rw [actor?, seat, Option.map_some, actor]⟩⟩

theorem awaitRelay?_seats (h : w.awaitRelay? k = some w') : w'.seats = w.seats := by
  cases pastRelay_of_awaitRelay? h with
  | noMore | unrelayed | finished | stopped => rfl

@[simp] theorem input_finish (w : World σ) (k : Nat) (name : Text) (result : Finish) (i : Nat) :
    (w.finish k name result).input i = w.input i := by
  obtain ⟨a, -, hseats⟩ := w.finish_seats k name result
  rw [input_congr hseats, input_setActor]

@[simp] theorem wiring_finish (w : World σ) (k : Nat) (name : Text) (result : Finish) :
    (w.finish k name result).wiring = w.wiring := by
  obtain ⟨a, -, hseats⟩ := w.finish_seats k name result
  rw [wiring_congr hseats, wiring_setActor]

theorem actor?_finish_of_ne (w : World σ) (h : i ≠ k) (name : Text) (result : Finish) :
    (w.finish k name result).actor? i = w.actor? i := by
  obtain ⟨a, -, hseats⟩ := w.finish_seats k name result
  rw [actor?_congr hseats, actor?_setActor_of_ne w h]

/-- A stage that ends lets go of the join in front of it and of the one behind it. -/
theorem input_closeEnds (w : World σ) (k i : Nat) :
    (w.closeEnds k).input i =
      if i = k + 1 then (w.input i).closeWriter else if i = k then (w.input i).closeReader else w.input i := by
  rw [closeEnds, input_modifyInput _ _ (.inr rfl), input_modifyInput _ _ (.inr rfl)]
  have : i = k + 1 → i ≠ k := by omega
  by_cases h : i = k + 1 <;> simp [h]

/-- There is no join behind the last seat. -/
theorem input_of_le (h : w.seats.length ≤ i) : w.input i = .absent := by
  simp [input, List.getElem?_eq_none_iff.2 h]

/-- A stage may write into the next join though it has no next stage; nothing comes of it. -/
theorem seat_or_absent {data rest : Bytes} {j : Join} (h : (w.input i).write? data = some (.ok (rest, j))) :
    i < w.seats.length ∨ j = .absent := by
  by_cases hi : i < w.seats.length
  · exact .inl hi
  · rw [input_of_le (by omega)] at h
    simp only [Join.write?, Option.some.injEq, Except.ok.injEq, Prod.mk.injEq] at h
    exact .inr h.2.symm

/-! ### What holds of every step -/

/-- Nothing about how the stages are connected changes. -/
theorem Step.wiring_eq (step : Step programs w party w') : w'.wiring = w.wiring := by
  cases step with
  | @done _ k s result acts =>
    rw [wiring_finish, closeEnds, wiring_modifyInput _ _ (Join.fresh_closeWriter _),
      wiring_modifyInput _ _ (Join.fresh_closeReader _)]
  | read acts given =>
    rw [wiring_setActor, wiring_setInput]
    rw [input_eq acts.seat]
    exact Join.fresh_of_read? given
  | passed acts target taken =>
    rw [wiring_setActor, wiring_setInput]
    exact Join.fresh_of_write? taken
  | passedPart acts target taken more =>
    rw [wiring_setUnsent, wiring_setInput]
    exact Join.fresh_of_write? taken
  | wrote | refused | broken | called => exact wiring_setActor _ _ _
  | relayed hk copied => exact wiring_setInput _ _ (Join.fresh_of_stepRelay? copied)
  | turned running last => rfl
  | awaited waiting past =>
    rcases awaitStage?_seats past with h | ⟨fate, h, -⟩
    · exact wiring_congr h
    · rw [wiring_congr h, wiring_setActor]
  | joined joining past => exact wiring_congr (awaitRelay?_seats past)

theorem wiring_of_reaches (reached : Reaches programs w w') : w'.wiring = w.wiring :=
  reached.invariant (I := fun v => v.wiring = w.wiring) rfl fun same step => step.wiring_eq.trans same

/-- A stage that has ended does nothing more. -/
theorem Acts.ne_of_ended {fate : Fate} (acts : Acts programs w party k s request)
    (ended : w.actor? i = some (.ended fate)) : i ≠ k := by
  rintro rfl
  have runs := acts.role_ne_idle
  simp only [actor?, acts.seat, Option.map_some, Option.some.injEq] at ended
  exact runs (by rw [ended]; rfl)

/-- How a stage has ended does not change any more. -/
theorem Step.actor?_of_ended {fate : Fate} (step : Step programs w party w')
    (ended : w.actor? i = some (.ended fate)) : w'.actor? i = some (.ended fate) := by
  rw [← ended]
  cases step with
  | done acts =>
    rw [actor?_finish_of_ne _ (acts.ne_of_ended ended), closeEnds, actor?_modifyInput, actor?_modifyInput]
  | read acts given => exact (actor?_setActor_of_ne _ (acts.ne_of_ended ended) _).trans (actor?_modifyInput _ _ _ _)
  | passed acts target taken =>
    exact (actor?_setActor_of_ne _ (acts.ne_of_ended ended) _).trans (actor?_modifyInput _ _ _ _)
  | passedPart acts target taken more => exact (actor?_setUnsent _ _ _ _).trans (actor?_modifyInput _ _ _ _)
  | wrote acts | refused acts | broken acts | called acts => exact actor?_setActor_of_ne _ (acts.ne_of_ended ended) _
  | relayed hk copied => exact actor?_modifyInput _ _ _ _
  | turned running last => rfl
  | @awaited k _ waiting past =>
    rcases awaitStage?_seats past with h | ⟨fate, h, live⟩
    · exact actor?_congr h i
    · rw [actor?_congr h]
      have hne : i ≠ k := by
        rintro rfl
        simp [ended] at live
      exact actor?_setActor_of_ne _ hne _
  | joined joining past => exact actor?_congr (awaitRelay?_seats past) i

/-- What happens to the join in front of stage `i` in a step from `w` to `w'`, and who does it. -/
inductive Handled (programs : Programs σ) (w : World σ) (party : Party) (w' : World σ) : Nat → Prop
  | untouched {i : Nat} (same : w'.input i = w.input i) : Handled programs w party w' i
  /-- The relay of the join copies. -/
  | relay {i : Nat} (relays : party = .relay i) (copied : (w.input i).stepRelay? = some (w'.input i)) :
      Handled programs w party w' i
  /-- The stage behind the join reads. -/
  | read {i : Nat} {s : Seat σ} {limit : Nat} {next : Bytes → Actor σ} {data : Bytes}
      (acts : Acts programs w party i s (.read limit next))
      (given : (w.input i).read? limit = some (data, w'.input i)) : Handled programs w party w' i
  /-- The stage behind the join ends. -/
  | readerDone {i : Nat} {s : Seat σ} {result : Finish} (acts : Acts programs w party i s (.done result))
      (closed : w'.input i = (w.input i).closeReader) : Handled programs w party w' i
  /-- The stage before the join writes its standard output. -/
  | write {k : Nat} {s : Seat σ} {data rest : Bytes} {next : Option Fault → Actor σ}
      (acts : Acts programs w party k s (.write .out data next)) (out : s.out = .nextStage)
      (taken : (w.input (k + 1)).write? (s.unsent.getD data) = some (.ok (rest, w'.input (k + 1)))) :
      Handled programs w party w' (k + 1)
  /-- The stage before the join ends. -/
  | writerDone {k : Nat} {s : Seat σ} {result : Finish} (acts : Acts programs w party k s (.done result))
      (out : s.out = .nextStage) (closed : w'.input (k + 1) = (w.input (k + 1)).closeWriter) :
      Handled programs w party w' (k + 1)

/-- A stage whose output goes elsewhere has no join behind it. -/
def Apart (w : World σ) : Prop :=
  ∀ (k : Nat) (s : Seat σ), w.seats[k]? = some s → s.out ≠ .nextStage → w.input (k + 1) = .absent

/-- Only the standard output goes to the next stage. -/
theorem out_of_output {stream : StdStream} (h : s.output stream = .nextStage) : s.out = .nextStage ∧ stream = .out := by
  cases stream with
  | out => exact ⟨h, rfl⟩
  | err => cases h

/-- A stage that passes something on, in full or in part, touches the next join only. -/
theorem Handled.of_passed {stream : StdStream} {data rest : Bytes} {next : Option Fault → Actor σ} {j : Join}
    (acts : Acts programs w party k s (.write stream data next)) (target : s.output stream = .nextStage)
    (taken : (w.input (k + 1)).write? (s.unsent.getD data) = some (.ok (rest, j)))
    (inputs : ∀ i, w'.input i = (w.setInput (k + 1) j).input i) (i : Nat) : Handled programs w party w' i := by
  have hset := inputs i
  rw [input_setInput _ _ (seat_or_absent taken)] at hset
  by_cases hi : i = k + 1
  · subst hi
    rw [if_pos rfl] at hset
    obtain ⟨out, rfl⟩ := out_of_output target
    exact .write acts out (by rw [hset]; exact taken)
  · rw [if_neg hi] at hset
    exact .untouched hset

/-- Every join has one party for each of its ends, besides its relay. -/
theorem Step.handled (step : Step programs w party w') (apart : w.Apart) (i : Nat) : Handled programs w party w' i := by
  cases step with
  | @done _ k s result acts =>
    have hclose : ((w.closeEnds k).finish k s.name result).input i = _ :=
      (input_finish _ _ _ _ _).trans (input_closeEnds w k i)
    by_cases hnext : i = k + 1
    · subst hnext
      rw [if_pos rfl] at hclose
      by_cases out : s.out = .nextStage
      · exact .writerDone acts out hclose
      · -- It closes a join that is not there.
        rw [apart k s acts.seat out] at hclose
        exact .untouched (by rw [hclose, apart k s acts.seat out]; rfl)
    · rw [if_neg hnext] at hclose
      by_cases hown : i = k
      · subst hown
        rw [if_pos rfl] at hclose
        exact .readerDone acts hclose
      · rw [if_neg hown] at hclose
        exact .untouched hclose
  | @read _ k s limit next data j acts given =>
    have hk : k < w.seats.length := (List.getElem?_eq_some_iff.1 acts.seat).1
    have hset : ((w.setInput k j).setActor k (next data)).input i = _ :=
      (input_setActor _ _ _ _).trans (input_setInput w k (.inl hk) i)
    by_cases hown : i = k
    · subst hown
      rw [if_pos rfl] at hset
      rw [← input_eq acts.seat] at given
      exact .read acts (by rw [hset]; exact given)
    · rw [if_neg hown] at hset
      exact .untouched hset
  | passed acts target taken => exact .of_passed acts target taken (fun i => input_setActor _ _ _ _) i
  | passedPart acts target taken more => exact .of_passed acts target taken (fun i => input_setUnsent _ _ _ _) i
  | wrote | refused | broken | called => exact .untouched (input_setActor _ _ _ _)
  | @relayed k j hk copied =>
    have hset : (w.setInput k j).input i = _ := input_setInput w k (.inl hk) i
    by_cases hown : i = k
    · subst hown
      rw [if_pos rfl] at hset
      exact .relay rfl (by rw [hset]; exact copied)
    · rw [if_neg hown] at hset
      exact .untouched hset
  | turned running last => exact .untouched rfl
  | awaited waiting past =>
    rcases awaitStage?_seats past with h | ⟨fate, h, -⟩
    · exact .untouched (input_congr h i)
    · exact .untouched (by rw [input_congr h, input_setActor])
  | joined joining past => exact .untouched (input_congr (awaitRelay?_seats past) i)

/-- A step in which everyone keeps to the ends that they hold. -/
structure Orderly (programs : Programs σ) (w : World σ) (party : Party) (w' : World σ) : Prop where
  /-- Each join is touched by one party at most, at an end that it holds. -/
  handled : ∀ i, Handled programs w party w' i
  /-- What a stage reads is read from the join in front of it. -/
  read : ∀ {k : Nat} {s : Seat σ} {limit : Nat} {next : Bytes → Actor σ},
    Acts programs w party k s (.read limit next) →
      w'.host = w.host ∧ ∃ data, (w.input k).read? limit = some (data, w'.input k) ∧ w'.actor? k = some (next data)
  /-- What a stage writes goes to a destination and into no join, or into the join behind it and nowhere else. -/
  write : ∀ {k : Nat} {s : Seat σ} {stream : StdStream} {data : Bytes} {next : Option Fault → Actor σ},
    Acts programs w party k s (.write stream data next) →
      match s.output stream with
      | .to d => w'.host = w.host.tryWrite d (s.unsent.getD data) ∧ ∀ i, w'.input i = w.input i
      | .nextStage => w'.host = w.host ∧ ∀ i, i ≠ k + 1 → w'.input i = w.input i
  /-- A relay copies inside its join. -/
  relay : ∀ {k : Nat}, party = .relay k → w'.host = w.host

theorem actor?_setActor_self (w : World σ) (h : k < w.seats.length) (a : Actor σ) :
    (w.setActor k a).actor? k = some a := by
  simp [actor?, setActor, List.getElem?_eq_getElem h]

theorem wiring_getElem? (w : World σ) (i : Nat) :
    w.wiring[i]? = w.seats[i]?.map fun s => (s.name, s.out, s.err, s.input.fresh) := List.getElem?_map

/-- The joins are made as the wiring says. -/
theorem input_fresh_eq (same : w'.wiring = w.wiring) (i : Nat) : (w'.input i).fresh = (w.input i).fresh := by
  have hi := congrArg (·[i]?) same
  simp only [wiring_getElem?] at hi
  cases hs : w.seats[i]? with
  | none =>
    rw [hs, Option.map_none, Option.map_eq_none_iff] at hi
    simp [input, hs, hi]
  | some s =>
    rw [hs, Option.map_some, Option.map_eq_some_iff] at hi
    obtain ⟨s', hs', heq⟩ := hi
    simp only [Prod.mk.injEq] at heq
    rw [input_eq hs, input_eq hs']
    exact heq.2.2.2

theorem input_eq_absent (same : w'.wiring = w.wiring) (absent : w.input i = .absent) : w'.input i = .absent := by
  have hfresh := input_fresh_eq same i
  rw [absent] at hfresh
  exact Join.fresh_eq_absent_iff.1 hfresh

/-- Whether stages are apart is a matter of how they are connected. -/
theorem Apart.of_wiring_eq (apart : w.Apart) (same : w'.wiring = w.wiring) : w'.Apart := by
  intro k s' hs' out
  have hk := congrArg (·[k]?) same
  simp only [wiring_getElem?, hs', Option.map_some] at hk
  obtain ⟨s, hs, heq⟩ := Option.map_eq_some_iff.1 hk.symm
  simp only [Prod.mk.injEq] at heq
  exact input_eq_absent same (apart k s hs (by rw [heq.2.1]; exact out))

/-- The only step of a stage that reads. -/
theorem Step.read_eq {limit : Nat} {next : Bytes → Actor σ} (step : Step programs w party w')
    (acts : Acts programs w party k s (.read limit next)) :
    w'.host = w.host ∧ ∃ data, (w.input k).read? limit = some (data, w'.input k) ∧ w'.actor? k = some (next data) := by
  have hk : k < w.seats.length := (List.getElem?_eq_some_iff.1 acts.seat).1
  have step := step?_iff.2 step
  rw [acts.step?_eq] at step
  simp only [stepStage?, serve, Option.map_map, Option.map_eq_some_iff] at step
  obtain ⟨⟨data, j⟩, given, rfl⟩ := step
  refine ⟨rfl, data, ?_, actor?_setActor_self _ ?_ _⟩
  · rw [Function.comp_apply, input_setActor, input_setInput _ _ (.inl hk), if_pos rfl, input_eq acts.seat]
    exact given
  · simpa [setInput, modifyInput] using hk

/-- The only steps of a stage that writes. -/
theorem Step.write_eq {stream : StdStream} {data : Bytes} {next : Option Fault → Actor σ}
    (step : Step programs w party w') (acts : Acts programs w party k s (.write stream data next)) :
    match s.output stream with
    | .to d => w'.host = w.host.tryWrite d (s.unsent.getD data) ∧ ∀ i, w'.input i = w.input i
    | .nextStage => w'.host = w.host ∧ ∀ i, i ≠ k + 1 → w'.input i = w.input i := by
  have step := step?_iff.2 step
  rw [acts.step?_eq] at step
  simp only [stepStage?, serve, Option.map_map, Option.map_eq_some_iff] at step
  obtain ⟨⟨v, outcome⟩, written, rfl⟩ := step
  rcases target : s.output stream with d | _
  · simp only [serveWrite, target] at written
    cases hw : w.host.write d (s.unsent.getD data) with
    | ok host =>
      simp only [hw, Option.some.injEq, Prod.mk.injEq] at written
      obtain ⟨rfl, rfl⟩ := written
      exact ⟨by simp [Host.tryWrite, hw, setActor], fun i => input_setActor _ _ _ _⟩
    | error fault =>
      simp only [hw, Option.some.injEq, Prod.mk.injEq] at written
      obtain ⟨rfl, rfl⟩ := written
      exact ⟨by simp [Host.tryWrite, hw, setActor], fun i => input_setActor _ _ _ _⟩
  · simp only [serveWrite, target] at written
    cases hw : (w.input (k + 1)).write? (s.unsent.getD data) with
    | none => simp [hw] at written
    | some result =>
      cases result with
      | error fault =>
        simp only [hw, Option.some.injEq, Prod.mk.injEq] at written
        obtain ⟨rfl, rfl⟩ := written
        exact ⟨rfl, fun i _ => input_setActor _ _ _ _⟩
      | ok taken =>
        obtain ⟨rest, j⟩ := taken
        simp only [hw, Option.some.injEq, Prod.mk.injEq] at written
        obtain ⟨rfl, rfl⟩ := written
        have hset := input_setInput w (k + 1) (seat_or_absent hw)
        -- The rest stays with the stage, and the join is the same in both cases.
        by_cases hrest : rest = []
        · exact ⟨by simp [hrest, setActor, setInput, modifyInput], fun i hi => by simp [hrest, hset, hi]⟩
        · exact ⟨by simp [hrest, setUnsent, setInput, modifyInput], fun i hi => by simp [hrest, hset, hi]⟩

/-- A relay copies inside its join. -/
theorem Step.relay_host (step : Step programs w (.relay k) w') : w'.host = w.host := by
  have step := step?_iff.2 step
  simp only [step?, stepRelay?] at step
  split at step
  · obtain ⟨j, -, rfl⟩ := Option.map_eq_some_iff.1 step
    rfl
  · cases step

theorem Step.orderly (step : Step programs w party w') (apart : w.Apart) : Orderly programs w party w' where
  handled := step.handled apart
  read acts := step.read_eq acts
  write acts := step.write_eq acts
  relay h := by
    subst h
    exact step.relay_host

end World

end PipeShell
