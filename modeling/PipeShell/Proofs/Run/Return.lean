import PipeShell.Proofs.Run.Part

/-!
# What is left when the stages have ended

When the shell has returned, it has waited for all stages and for all relays: `World.Tidy`.  And when all stages have
ended, and there is nothing left for the relays but to throw bytes away, the pipeline returns without anything more
being seen of it (`World.Quiet.exists_returned`).  So how a part of a pipeline comes out, run by itself, can be read off
the whole (`World.Part.yields`).
-/

namespace PipeShell

namespace Join

variable {j j' : Join} {given taken : Bytes}

theorem copies_of_stepRelay? (copied : j.stepRelay? = some j') : j.copies = true := by
  unfold stepRelay? at copied
  split at copied
  · cases copied
  · rename_i r relay
    split at copied
    · cases copied
    · rename_i copying
      simpa [copies, relay, Relay.copies] using copying

/-- A relay that has come to its end does not start again. -/
theorem Moves.copies (moves : j.Moves given taken j') (copies : j'.copies = true) : j.copies = true := by
  cases moves with
  | same => exact copies
  | relay copied => exact copies_of_stepRelay? copied
  | read given =>
    have same : j'.relay? = j.relay? := by
      cases j with
      | absent | draining =>
        cases given
        rfl
      | channel | pipe | feeding | collecting =>
        obtain ⟨half, -, same⟩ := Option.map_eq_some_iff.1 given
        cases same
        rfl
    simpa only [Join.copies, same] using copies
  | write accepted =>
    have same : j'.relay? = j.relay? := by
      cases j with
      | absent =>
        cases accepted
        rfl
      | channel | feeding | draining =>
        obtain ⟨c, -, -, rfl⟩ := Channel.of_map_write accepted
        rfl
      | pipe | collecting =>
        obtain ⟨outcome, -, same⟩ := Option.map_eq_some_iff.1 accepted
        cases outcome with
        | error fault => cases same
        | ok result =>
          cases same
          rfl
    simpa only [Join.copies, same] using copies
  | closeReader | closeWriter => cases j <;> exact copies

end Join

/-- The shell has waited for the relay in front of stage `k`. -/
def Progress.joined : Progress → Nat → Prop
  | .joining n, k => k < n
  | .returned, _ => True
  | _, _ => False

namespace World

variable {σ : Type} {programs : Programs σ} {next : Nat → Output} {n m k : Nat} {v v₀ w w' w₀ : World σ} {party : Party}
  {trace : List Event} {fates : List Fate}

/-- What the shell has waited for has come to its end. -/
structure Tidy (w : World σ) : Prop where
  ended : ∀ (k : Nat) (a : Actor σ), w.progress.past k → w.actor? k = some a → ∃ fate, a = .ended fate
  joined : ∀ k, w.progress.joined k → (w.input k).copies = false

theorem Tidy.of_running (running : w.progress = .running) : w.Tidy where
  ended k a past := by
    rw [running] at past
    cases past
  joined k joined := by
    rw [running] at joined
    cases joined

theorem awaitStage?_ended (h : w.awaitStage? k = some w') {a : Actor σ} (actor : w'.actor? k = some a) :
    ∃ fate, a = .ended fate := by
  cases pastStage_of_awaitStage? h with
  | noMore seat => simp [actor?, seat] at actor
  | gone seat | neverRun seat =>
    simp only [actor?, note, setActor, List.getElem?_modify, seat] at actor
    cases actor
    exact ⟨_, rfl⟩
  | ended seat ended =>
    simp only [actor?, seat, Option.map_some, ended, Option.some.injEq] at actor
    exact ⟨_, actor.symm⟩

/-- A relay that has come to its end does not start again. -/
theorem Step.copies (step : Step programs w party w') (fit : w.Fit) (ended : (w.input k).copies = false) :
    (w'.input k).copies = false := by
  cases k with
  | zero =>
    rw [(step.fit fit).first]
    rfl
  | succ k =>
    rw [← Bool.not_eq_true] at ended ⊢
    exact fun copies => ended ((step.moves fit.held k).copies copies)

/-- How the shell goes on. -/
theorem Step.progress_eq (step : Step programs w party w') :
    w'.progress = w.progress ∨ w.progress = .running ∧ w'.progress = .waiting 0 ∨
      (∃ k, w.progress = .waiting k ∧ w.awaitStage? k = some w') ∨
      ∃ k, w.progress = .joining k ∧ w.awaitRelay? k = some w' := by
  cases step with
  | done acts => exact .inl (progress_finish _ _ _ _)
  | read | wrote | refused | passed | passedPart | broken | called | relayed => exact .inl rfl
  | turned running last => exact .inr (.inl ⟨running, rfl⟩)
  | awaited waiting past => exact .inr (.inr (.inl ⟨_, waiting, past⟩))
  | joined joining past => exact .inr (.inr (.inr ⟨_, joining, past⟩))

theorem Step.tidy (step : Step programs w party w') (fit : w.Fit) (tidy : w.Tidy) : w'.Tidy := by
  have ended : ∀ {k : Nat} {a : Actor σ}, w.progress.past k → w'.actor? k = some a → ∃ fate, a = .ended fate := by
    intro k a past actor
    have hk : k < w.seats.length := by
      rw [← step.length_seats]
      exact lt_of_actor? actor
    have seat : w.actor? k = some w.seats[k].actor := by simp [actor?, hk]
    obtain ⟨fate, before⟩ := tidy.ended k _ past seat
    have same := step.actor?_of_ended (before ▸ seat)
    rw [actor] at same
    cases same
    exact ⟨fate, rfl⟩
  have joined : ∀ {k : Nat}, w.progress.joined k → (w'.input k).copies = false := fun joined =>
    step.copies fit (tidy.joined _ joined)
  rcases step.progress_eq with same | ⟨running, now⟩ | ⟨n, waiting, past⟩ | ⟨n, joining, past⟩
  · exact ⟨fun k a past => ended (same ▸ past), fun k now => joined (same ▸ now)⟩
  · constructor
    · intro k a past
      rw [now] at past
      exact absurd past (Nat.not_lt_zero k)
    · intro k past
      rw [now] at past
      cases past
  · have before : ∀ {k : Nat} {a : Actor σ}, k < n → w'.actor? k = some a → ∃ fate, a = .ended fate := fun hk =>
      ended (by rw [waiting]; exact hk)
    rcases awaitStage?_progress past with ⟨now, -, -⟩ | ⟨now, all⟩
    · constructor
      · intro k a hk actor
        rw [now] at hk
        rcases Nat.lt_succ_iff_lt_or_eq.1 hk with hk | rfl
        · exact before hk actor
        · exact awaitStage?_ended past actor
      · intro k joined
        rw [now] at joined
        cases joined
    · constructor
      · intro k a _ actor
        have hk := lt_of_actor? actor
        rw [step.length_seats] at hk
        exact before (by omega) actor
      · intro k joined
        rw [now] at joined
        exact absurd joined (Nat.not_lt_zero k)
  · have all : ∀ {k : Nat} {a : Actor σ}, w'.actor? k = some a → ∃ fate, a = .ended fate :=
      ended (by rw [joining]; trivial)
    have before : ∀ {k : Nat}, k < n → (w'.input k).copies = false := fun hk => joined (by rw [joining]; exact hk)
    refine ⟨fun k a _ => all, fun k now => ?_⟩
    rcases awaitRelay?_progress past with ⟨progress, -, quiet⟩ | ⟨-, last⟩
    · rw [progress] at now
      rcases Nat.lt_succ_iff_lt_or_eq.1 now with hk | rfl
      · exact before hk
      · exact step.copies fit quiet
    · by_cases hk : k < n
      · exact before hk
      · rw [input_of_le (by rw [step.length_seats]; omega)]
        rfl

theorem Fit.tidy_of_reaches (fit : w.Fit) (running : w.progress = .running) (reached : Reaches programs w w') :
    w'.Tidy :=
  (reached.invariant (I := fun v => v.Fit ∧ v.Tidy) ⟨fit, .of_running running⟩
    fun ⟨fit, tidy⟩ step => ⟨step.fit fit, step.tidy fit tidy⟩).2

/-- How the stages have ended, whether or not the shell has waited for them. -/
def settledFates (w : World σ) : List Fate := w.seats.map (·.actor.settle.fate)

/-- Where the last stage has ended. -/
theorem settledFates_eq_append {fate : Fate} (length : w.seats.length = n + 1)
    (ended : w.actor? n = some (.ended fate)) : w.settledFates = w.settledFates.take n ++ [fate] := by
  obtain ⟨s, seat, actor⟩ := Option.map_eq_some_iff.1 ended
  have hn : n < w.settledFates.length := by
    rw [settledFates, List.length_map]
    omega
  have last : w.settledFates[n] = fate := by
    obtain ⟨hs, rfl⟩ := List.getElem?_eq_some_iff.1 seat
    simp only [settledFates, List.getElem_map, actor]
    rfl
  have whole : w.settledFates.length ≤ n + 1 := by
    rw [settledFates, List.length_map]
    exact Nat.le_of_eq length
  rw [← last, List.take_append_getElem hn, List.take_of_length_le whole]

theorem Tidy.fates_eq (tidy : w.Tidy) (returned : w.progress = .returned) : w.fates = w.settledFates := by
  refine List.map_congr_left fun s hs => ?_
  obtain ⟨k, hk, rfl⟩ := List.getElem_of_mem hs
  obtain ⟨fate, actor⟩ := tidy.ended k w.seats[k].actor (by rw [returned]; trivial) (by simp [actor?, hk])
  rw [actor]
  rfl

/-! ### Returning -/

theorem Settles.settledFates_eq (settles : w.Settles w') (length : w'.seats.length = w.seats.length) :
    w'.settledFates = w.settledFates := by
  refine List.ext_getElem (by simpa [settledFates] using length) fun i hi' hi => ?_
  simp only [settledFates, List.length_map] at hi hi'
  obtain ⟨t', seat', settled⟩ := settles i _ (List.getElem?_eq_getElem hi)
  rw [List.getElem?_eq_getElem hi'] at seat'
  cases seat'
  simp only [settledFates, List.getElem_map]
  rcases settled with same | ⟨ending, gone, same⟩
  · rw [same]
  · rw [same, gone]
    rfl

theorem Settles.input_eq (settles : w.Settles w') (length : w'.seats.length = w.seats.length) (k : Nat) :
    w'.input k = w.input k := by
  by_cases hk : k < w.seats.length
  · have seat := List.getElem?_eq_getElem hk
    obtain ⟨t', seat', settled⟩ := settles k _ seat
    rw [World.input_eq seat, World.input_eq seat']
    rcases settled with same | ⟨ending, gone, same⟩ <;> rw [same]
  · rw [input_of_le (by omega), input_of_le (by omega)]

/-- A pipeline whose stages have ended, and in which only the relay in front of stage `m` may still have bytes to throw
away. -/
structure Quiet (m : Nat) (w : World σ) : Prop where
  idle : ∀ k, w.role k = .idle
  relays : ∀ k, k ≠ m → (w.input k).copies = false
  plain : (w.input m).IsPlain

/-- Nothing is to be seen of what is left to do, and it becomes less. -/
theorem Step.quiet (step : Step programs w party w') (fit : w.Fit) (quiet : w.Quiet m) :
    w'.Quiet m ∧ w.event? programs party = none ∧ w'.settledFates = w.settledFates ∧
      (w'.input m).toDrain [] + w'.waits < (w.input m).toDrain [] + w.waits := by
  have length := step.length_seats
  have idle : ∀ k, w'.role k = .idle := fun k => step.role_eq_idle (quiet.idle k)
  have relays : ∀ k, k ≠ m → (w'.input k).copies = false := fun k hk => step.copies fit (quiet.relays k hk)
  rcases step.acts_or_settles fit.held with ⟨i, t, request, acts⟩ | ⟨k, rfl⟩ | ⟨rfl, silent, less, settles⟩
  · exact absurd (acts.role_eq.symm.trans (quiet.idle i)) acts.role_ne_idle
  · obtain ⟨hk, j, copied, rfl⟩ := stepRelay?_eq_some (step?_iff.2 step)
    have own : k = m := Classical.byContradiction fun other => by
      have stopped := quiet.relays k other
      rw [Join.copies_of_stepRelay? copied] at stopped
      cases stopped
    subst own
    obtain ⟨plain, drains⟩ := Join.IsPlain.of_relays (Join.relays_of_stepRelay? copied) quiet.plain
    have input : (w.setInput k j).input k = j := by rw [input_setInput w k (.inl hk), if_pos rfl]
    have waits : (w.setInput k j).waits = w.waits := by simp only [World.waits, length]; rfl
    rw [waits, input]
    exact ⟨⟨idle, relays, by rw [input]; exact plain⟩, rfl, map_modify_of_eq _ _ fun _ => rfl,
      Nat.add_lt_add_right (drains []).2 _⟩
  · have input := settles.input_eq length m
    rw [input]
    exact ⟨⟨idle, relays, by rw [input]; exact quiet.plain⟩, silent, settles.settledFates_eq length,
      Nat.add_lt_add_left less _⟩

/-- When the stages have ended, the pipeline returns. -/
theorem Quiet.exists_returned (quiet : w.Quiet m) (programs : Programs σ) (fit : w.Fit) (tidy : w.Tidy) :
    ∃ w', Runs programs w [] w' ∧ w'.progress = .returned ∧ w'.fates = w.settledFates := by
  generalize bound : (w.input m).toDrain [] + w.waits = left
  induction left using Nat.strongRecOn generalizing w with
  | _ left ih =>
    subst bound
    by_cases returned : w.progress = .returned
    · exact ⟨w, .refl, returned, tidy.fates_eq returned⟩
    · obtain ⟨party, canStep⟩ := fit.exists_canStep programs returned
      obtain ⟨v, step⟩ := Option.isSome_iff_exists.1 canStep
      have step' := step?_iff.1 step
      obtain ⟨quiet', silent, fates, less⟩ := step'.quiet fit quiet
      obtain ⟨w', run, returned, fates'⟩ := ih _ less quiet' (step'.fit fit) (step'.tidy fit tidy) rfl
      have first : Runs programs w [] v := by simpa [silent] using Runs.refl.tail step
      exact ⟨w', first.trans run, returned, fates'.trans fates⟩

/-- The pipeline can come out with these statuses, and this can be seen of it meanwhile. -/
def Yields (programs : Programs σ) (w : World σ) (fates : List Fate) (trace : List Event) : Prop :=
  ∃ w', Runs programs w trace w' ∧ w'.progress = .returned ∧ w'.fates = fates

/-- When the stages have ended, it is decided how the pipeline comes out. -/
theorem Quiet.yields (quiet : w'.Quiet m) (fit : w.Fit) (running : w.progress = .running)
    (run : Runs programs w trace w') : w.Yields programs w'.settledFates trace := by
  have tidy := fit.tidy_of_reaches running run.reaches
  obtain ⟨last, rest, returned, fates⟩ := quiet.exists_returned programs (fit.of_reaches run.reaches) tidy
  exact ⟨last, by simpa using run.trans rest, returned, fates⟩

theorem Window.settledFates_eq (window : Window next n v w) :
    v.settledFates = (w.settledFates.drop n).take v.seats.length := by
  apply List.ext_getElem?
  intro k
  rw [List.getElem?_take]
  split
  · rename_i hk
    have seat := List.getElem?_eq_getElem hk
    obtain ⟨t, seat', like⟩ := window.seats k _ seat
    rw [List.getElem?_drop, settledFates, settledFates, List.getElem?_map, List.getElem?_map, seat, seat',
      Option.map_some, Option.map_some, like.actor]
  · rename_i hk
    exact List.getElem?_eq_none_iff.2 (by simpa [settledFates] using hk)

/-- When the shell has returned, nothing goes on any more. -/
theorem Tidy.quiet (tidy : w.Tidy) (returned : w.progress = .returned) :
    (∀ k, w.role k = .idle) ∧ ∀ k, (w.input k).copies = false := by
  refine ⟨fun k => ?_, fun k => tidy.joined k (by rw [returned]; trivial)⟩
  cases actor : w.actor? k with
  | none => simp [role, actor]
  | some a =>
    obtain ⟨fate, rfl⟩ := tidy.ended k a (by rw [returned]; trivial) actor
    simp [role, actor, Actor.role]

/-- Behind the last stage nothing goes on either. -/
theorem quiet_of_le (past : w.seats.length ≤ k) : w.role k = .idle ∧ (w.input k).copies = false := by
  refine ⟨role_eq_idle_iff.2 (Bool.eq_false_iff.2 fun runs => ?_), by rw [input_of_le past]; rfl⟩
  have := lt_of_runs runs
  omega

/-- The part comes out as it does in the whole. -/
theorem Part.yields (part : Part programs next n v₀ w₀) (running : v₀.progress = .running)
    (running' : w₀.progress = .running) (yields : w₀.Yields programs fates trace) :
    v₀.Yields programs ((fates.drop n).take v₀.seats.length)
      (trace.filterMap (Event.seen next n v₀.seats.length)) := by
  obtain ⟨w, run, returned, rfl⟩ := yields
  have tidy := part.whole.fit.tidy_of_reaches running' run.reaches
  obtain ⟨idle, relays⟩ := tidy.quiet returned
  obtain ⟨v, ran, window, -⟩ := part.follow running run
  have length := length_of_reaches ran.reaches
  have quiet : v.Quiet v.seats.length :=
    { idle := fun k => by
        by_cases hk : k < v.seats.length
        · rw [window.role_eq hk, idle]
        · exact (quiet_of_le (Nat.le_of_not_lt hk)).1
      relays := fun k _ => by
        by_cases hk : k < v.seats.length
        · rw [window.input_eq hk, relays]
        · exact (quiet_of_le (Nat.le_of_not_lt hk)).2
      plain := by
        rw [input_of_le (Nat.le_refl _)]
        trivial }
  rw [tidy.fates_eq returned, ← length, ← window.settledFates_eq]
  rw [← length] at ran
  exact quiet.yields part.part.fit running ran

/-- When the shell has returned in the part, nothing goes on there in the whole. -/
theorem Window.quiet (window : Window next n v w) (tidy : v.Tidy) (returned : v.progress = .returned)
    (hk : k < v.seats.length) : w.role (n + k) = .idle ∧ (w.input (n + k)).copies = false := by
  obtain ⟨idle, relays⟩ := tidy.quiet returned
  exact ⟨by rw [← window.role_eq hk, idle], by rw [← window.input_eq hk, relays]⟩

theorem filterMap_seen_of_outside {m : Nat} (outside : ∀ e ∈ trace, ¬ (n ≤ e.stage ∧ e.stage < n + m)) :
    trace.filterMap (Event.seen next n m) = [] :=
  List.filterMap_eq_nil_iff.2 fun e he => Event.seen_of_outside (outside e he)

/-- Two parts that make up the whole come out of it as they do by themselves. -/
theorem Part.join {u v : World σ} {fates' : List Fate} {trace' : List Event} (front : Part programs Output.onward 0 u w₀)
    (back : Part programs Output.onward u.seats.length v w₀) (length : w₀.seats.length = u.seats.length + v.seats.length)
    (running : w₀.progress = .running) (running' : u.progress = .running) (running'' : v.progress = .running)
    (yields : u.Yields programs fates trace) (yields' : v.Yields programs fates' trace') :
    ∃ all, w₀.Yields programs (fates ++ fates') all ∧
      all.filterMap (Event.seen Output.onward 0 u.seats.length) = trace ∧
      all.filterMap (Event.seen Output.onward u.seats.length v.seats.length) = trace' := by
  obtain ⟨u', ran, returned, rfl⟩ := yields
  obtain ⟨v', ran', returned', rfl⟩ := yields'
  have tidy := front.part.fit.tidy_of_reaches running' ran.reaches
  have tidy' := back.part.fit.tidy_of_reaches running'' ran'.reaches
  have lengthU := length_of_reaches ran.reaches
  have lengthV := length_of_reaches ran'.reaches
  -- First the front runs to its end, and then the back.
  obtain ⟨more, w₁, run, leads⟩ := front.lead running (fun i hi => absurd hi (Nat.not_lt_zero i)) ran
  have window : Window Output.onward u.seats.length v w₁ := by
    refine back.window.frame (fun k hk => ?_) (front.whole.scene_eq run.reaches)
    refine leads.outside _ (.inr (by omega)) fun i hi last => ?_
    exact back.fence _ (by omega)
  obtain ⟨more', w₂, run', leads'⟩ := (back.of_reaches run.reaches window).lead leads.running (fun i hi builtin => by
    have idle := (leads.window.quiet tidy returned (k := i) (by omega)).1
    rw [Nat.zero_add, builtin] at idle
    cases idle) ran'
  have reached := run.reaches.trans run'.reaches
  have front' : Window Output.onward 0 u' w₂ :=
    leads.window.frame (fun k hk => leads'.outside _ (.inl (by omega)) fun i _ behind => by omega)
      ((front.whole.of_reaches run.reaches).scene_eq run'.reaches)
  have at_k : ∀ k, w₂.role k = .idle ∧ (w₂.input k).copies = false := by
    intro k
    by_cases inFront : k < u.seats.length
    · simpa using front'.quiet tidy returned (k := k) (by omega)
    · obtain ⟨i, rfl⟩ := Nat.exists_eq_add_of_le (Nat.le_of_not_lt inFront)
      by_cases inBack : i < v.seats.length
      · exact leads'.window.quiet tidy' returned' (k := i) (by omega)
      · have past : w₂.seats.length ≤ u.seats.length + i := by
          rw [length_of_reaches reached, length]
          omega
        exact quiet_of_le past
  have quiet : w₂.Quiet 0 :=
    ⟨fun k => (at_k k).1, fun k _ => (at_k k).2, by rw [(front.whole.fit.of_reaches reached).first]; trivial⟩
  have fates : u'.fates ++ v'.fates = w₂.settledFates := by
    have lengthW : w₂.settledFates.length = u.seats.length + v.seats.length := by
      rw [settledFates, List.length_map, length_of_reaches reached, length]
    have all : (w₂.settledFates.drop u.seats.length).take v.seats.length = w₂.settledFates.drop u.seats.length :=
      List.take_of_length_le (by simp [lengthW])
    rw [tidy.fates_eq returned, tidy'.fates_eq returned', front'.settledFates_eq, leads'.window.settledFates_eq,
      List.drop_zero, lengthU, lengthV, all, List.take_append_drop]
  refine ⟨more ++ more', ?_, ?_, ?_⟩
  · rw [fates]
    exact quiet.yields front.whole.fit running (run.trans run')
  · have hidden : more'.filterMap (Event.seen Output.onward 0 u.seats.length) = [] :=
      filterMap_seen_of_outside fun e he => by
        have := (leads'.inside e he).1
        omega
    rw [List.filterMap_append, hidden, List.append_nil, ← lengthU, leads.seen]
  · have hidden : more.filterMap (Event.seen Output.onward u.seats.length v.seats.length) = [] :=
      filterMap_seen_of_outside fun e he => by
        have := (leads.inside e he).2
        omega
    rw [List.filterMap_append, hidden, List.nil_append, ← lengthV, leads'.seen]

end World

end PipeShell
