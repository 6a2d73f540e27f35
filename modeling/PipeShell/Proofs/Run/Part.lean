import PipeShell.Proofs.Run.Window

/-!
# The runs of a part of a pipeline

A part of a pipeline that nothing comes into, since the stage before it does not run, can be run without the rest.  What
the part does in a run of the whole it can do by itself (`World.Part.follow`), and what it can do by itself it can do
as a part of the whole, while the rest does nothing (`World.Part.lead`).
-/

namespace PipeShell

namespace Event

theorem seen_of_outside {next : Nat → Output} {n m : Nat} {e : Event} (outside : ¬ (n ≤ e.stage ∧ e.stage < n + m)) :
    e.seen next n m = none := if_neg outside

theorem filterMap_toList {α β : Type} (o : Option α) (f : α → Option β) :
    o.toList.filterMap f = (o.bind f).toList := by
  cases o with
  | none => rfl
  | some a => cases h : f a <;> simp [h]

end Event

namespace World

variable {σ : Type} {programs : Programs σ} {next : Nat → Output} {n m k i : Nat} {v v' v₀ w w' w₀ w₁ : World σ}
  {party : Party} {s t : Seat σ} {request : Request Finish (Actor σ)} {trace : List Event}

/-! ### What holds all along -/

/-- A pipeline of oblivious programs, which keeps from getting stuck. -/
structure Sound (programs : Programs σ) (w : World σ) : Prop where
  pure : programs.Oblivious
  oblivious : w.Oblivious
  fit : w.Fit

theorem Sound.step (sound : w.Sound programs) (step : Step programs w party w') : w'.Sound programs :=
  ⟨sound.pure, step.oblivious sound.pure sound.oblivious, step.fit sound.fit⟩

theorem Sound.of_reaches (sound : w.Sound programs) (reached : Reaches programs w w') : w'.Sound programs :=
  reached.invariant sound fun sound step => sound.step step

theorem Sound.scene_eq (sound : w.Sound programs) (reached : Reaches programs w w') : w'.host.scene = w.host.scene :=
  (reached.invariant (I := fun v => v.Sound programs ∧ v.host.scene = w.host.scene) ⟨sound, rfl⟩
    fun ⟨sound, same⟩ step => ⟨sound.step step, (step.scene_eq sound.pure sound.oblivious).trans same⟩).2

theorem Sound.isOblivious (sound : w.Sound programs) (acts : Acts programs w party k s request) :
    request.IsOblivious := (acts.oblivious sound.pure sound.oblivious).1

theorem length_of_reaches (reached : Reaches programs w w') : w'.seats.length = w.seats.length :=
  reached.invariant (I := fun v => v.seats.length = w.seats.length) rfl fun same step => step.length_seats.trans same

theorem actor?_of_reaches {fate : Fate} (reached : Reaches programs w w') (ended : w.actor? k = some (.ended fate)) :
    w'.actor? k = some (.ended fate) :=
  reached.invariant (I := fun v => v.actor? k = _) ended fun ended step => step.actor?_of_ended ended

theorem role_eq_idle_of_reaches (reached : Reaches programs w w') (idle : w.role k = .idle) : w'.role k = .idle :=
  reached.invariant (I := fun v => v.role k = .idle) idle fun idle step => step.role_eq_idle idle

theorem role_ne_builtin_of_reaches (reached : Reaches programs w w') (other : w.role k ≠ .builtin) :
    w'.role k ≠ .builtin :=
  reached.invariant (I := fun v => v.role k ≠ .builtin) other fun other step builtin => by
    rcases step.role_eq_or_idle k with same | idle
    · exact other (same ▸ builtin)
    · rw [idle] at builtin
      cases builtin

/-- A relay may copy at the end of a run. -/
theorem Runs.relay (run : Runs programs w trace v) (step : v.stepRelay? k = some v') : Runs programs w trace v' := by
  have step' : v.step? programs (.relay k) = some v' := step
  simpa using run.tail step'

/-- Something is to be seen only of the stage for which a party acts. -/
theorem Acts.stage_eq {e : Event} (acts : Acts programs w party k s request)
    (happens : w.event? programs party = some e) : e.stage = k := by
  obtain ⟨t, other, acts', -⟩ := acts_of_event? happens
  exact (acts.unique acts').1

/-- What is done for other stages is not seen. -/
theorem Acts.seen_of_outside (acts : Acts programs w party i s request) (outside : ¬ (n ≤ i ∧ i < n + m)) :
    (w.event? programs party).toList.filterMap (Event.seen next n m) = [] := by
  cases happens : w.event? programs party with
  | none => rfl
  | some e =>
    have hidden : e.seen next n m = none := Event.seen_of_outside (by rw [acts.stage_eq happens]; exact outside)
    simp [hidden]

/-! ### Parts -/

/-- The stages of `v₀` are a part of `w₀`, the first of them at `n`, and nothing comes into it.  What comes out of it is
taken alike. -/
structure Part (programs : Programs σ) (next : Nat → Output) (n : Nat) (v₀ w₀ : World σ) : Prop where
  window : Window next n v₀ w₀
  part : v₀.Sound programs
  whole : w₀.Sound programs
  /-- The stage before the part does not run. -/
  fence : ∀ i, i + 1 = n → w₀.role i = .idle
  meets : ∀ {v w : World σ} {k : Nat} {t : Seat σ}, Reaches programs w₀ w → v.seats.length = v₀.seats.length →
    Window next n v w → k < v.seats.length → w.seats[n + k]? = some t → t.actor.role ≠ .idle → t.out = .nextStage →
      Meets next n v w k

namespace Part

/-- A part of a later world. -/
theorem of_reaches (part : Part programs next n v₀ w₀) (reached : Reaches programs w₀ w₁)
    (window : Window next n v₀ w₁) : Part programs next n v₀ w₁ where
  window := window
  part := part.part
  whole := part.whole.of_reaches reached
  fence i hi := role_eq_idle_of_reaches reached (part.fence i hi)
  meets further := part.meets (reached.trans further)

/-- What a stage of the part does in the whole and what it does in the part. -/
theorem stepStage? (part : Part programs next n v₀ w₀) (reached : Reaches programs w₀ w)
    (length : v.seats.length = v₀.seats.length) (window : Window next n v w) {party' : Party}
    (acts : Acts programs v party k s request) (acts' : Acts programs w party' (n + k) t request)
    (like : s.Like (next k) t) :
    Option.Rel (Window next n) (v.stepStage? k s request) (w.stepStage? (n + k) t request) ∧
      v.event? programs party = (w.event? programs party').bind (Event.seen next n v₀.seats.length) := by
  have hk := (List.getElem?_eq_some_iff.1 acts.seat).1
  have runs := acts'.role_ne_idle
  have meets := part.meets reached length window hk acts'.seat runs
  rw [acts.event?_eq, acts'.event?_eq]
  exact ⟨window.stepStage? like runs ((part.whole.of_reaches reached).isOblivious acts') meets,
    window.served?_eq like runs meets (by omega)⟩

/-- A step of the whole is a step of the part, or none. -/
theorem follow_step (part : Part programs next n v₀ w₀) (reached : Reaches programs w₀ w)
    (length : v.seats.length = v₀.seats.length) (window : Window next n v w) (running : v.progress = .running)
    (step : w.step? programs party = some w') :
    ∃ v', Runs programs v ((w.event? programs party).toList.filterMap (Event.seen next n v₀.seats.length)) v' ∧
      Window next n v' w' ∧ v'.progress = .running := by
  have sound := part.whole.of_reaches reached
  have scene := (step?_iff.1 step).scene_eq sound.pure sound.oblivious
  rcases (step?_iff.1 step).acts_or_settles sound.fit.held with ⟨i, t, request, acts⟩ | ⟨i, rfl⟩ | ⟨rfl, quiet, -, settles⟩
  · have step' := step
    rw [acts.step?_eq] at step'
    by_cases inside : n ≤ i ∧ i < n + v₀.seats.length
    · obtain ⟨k, rfl⟩ := Nat.exists_eq_add_of_le inside.1
      obtain ⟨party', s, acts', like⟩ := window.follow acts (by omega) running
      obtain ⟨both, event⟩ := part.stepStage? reached length window acts' acts like
      rw [step'] at both
      generalize here : v.stepStage? k s request = taken at both
      cases both with
      | @some v' _ window' =>
        refine ⟨v', ?_, window', (stepStage?_frame here).1.trans running⟩
        rw [Event.filterMap_toList, ← event]
        exact Runs.refl.tail (by rw [acts'.step?_eq, here])
    · refine ⟨v, ?_, window.frame (fun k hk => ?_) scene, running⟩
      · rw [acts.seen_of_outside inside]
        exact .refl
      · -- The stage before the part, which could reach into it, does not run.
        have fenced : i + 1 ≠ n := fun before => acts.role_ne_idle (by
          rw [← acts.role_eq]
          exact role_eq_idle_of_reaches reached (part.fence i before))
        exact (stepStage?_frame step').2 _ (by omega) (by omega)
  · rw [event?_relay]
    by_cases inside : n ≤ i ∧ i < n + v₀.seats.length
    · obtain ⟨k, rfl⟩ := Nat.exists_eq_add_of_le inside.1
      have both := window.stepRelay? (k := k) (by omega)
      have step' : w.stepRelay? (n + k) = some w' := step
      rw [step'] at both
      generalize here : v.stepRelay? k = taken at both
      cases both with
      | @some v' _ window' =>
        exact ⟨v', Runs.refl.relay here, window', (stepRelay?_frame here).1.trans running⟩
    · exact ⟨v, .refl, window.frame (fun k hk => (stepRelay?_frame step).2 _ (by omega)) scene, running⟩
  · rw [quiet]
    exact ⟨v, .refl, window.settles settles scene, running⟩

/-- What the part does in a run of the whole it can do by itself. -/
theorem follow (part : Part programs next n v₀ w₀) (running : v₀.progress = .running)
    (run : Runs programs w₀ trace w) :
    ∃ v, Runs programs v₀ (trace.filterMap (Event.seen next n v₀.seats.length)) v ∧ Window next n v w ∧
      v.progress = .running := by
  induction run with
  | refl => exact ⟨v₀, .refl, part.window, running⟩
  | tail run step ih =>
    obtain ⟨v, ran, window, running⟩ := ih
    obtain ⟨v', ran', window', running'⟩ :=
      part.follow_step run.reaches (length_of_reaches ran.reaches) window running step
    rw [List.filterMap_append]
    exact ⟨v', ran.trans ran', window', running'⟩

/-- A run of the whole in which only the part does something. -/
structure Leads (next : Nat → Output) (n : Nat) (v w₀ : World σ) (trace more : List Event) (w : World σ) : Prop where
  window : Window next n v w
  running : w.progress = .running
  seen : more.filterMap (Event.seen next n v.seats.length) = trace
  inside : ∀ e ∈ more, n ≤ e.stage ∧ e.stage < n + v.seats.length
  /-- A seat outside of the part is left alone, unless a stage of the part passes something on to it. -/
  outside : ∀ i, i < n ∨ n + v.seats.length ≤ i → (∀ k, k < v.seats.length → i = n + k + 1 → w₀.role (n + k) = .idle) →
    w.seats[i]? = w₀.seats[i]?

/-- A step of the part is a step of the whole, or none. -/
theorem lead_step (part : Part programs next n v₀ w₀) (first : ∀ i, i < n → w₀.role i ≠ .builtin)
    (ran : Runs programs v₀ trace v) {more : List Event} (run : Runs programs w₀ more w)
    (leads : Leads next n v w₀ trace more w) (step : v.step? programs party = some v') :
    ∃ further w', Runs programs w₀ (more ++ further) w' ∧
      Leads next n v' w₀ (trace ++ (v.event? programs party).toList) (more ++ further) w' := by
  have sound := part.part.of_reaches ran.reaches
  have length := length_of_reaches ran.reaches
  have length' := (step?_iff.1 step).length_seats
  have scene := (step?_iff.1 step).scene_eq sound.pure sound.oblivious
  have idle : ∀ i, w₀.role i = .idle → w.role i = .idle := fun i => role_eq_idle_of_reaches run.reaches
  rcases (step?_iff.1 step).acts_or_settles sound.fit.held with ⟨k, s, request, acts⟩ | ⟨k, rfl⟩ | ⟨rfl, quiet, -, settles⟩
  · have hk := (List.getElem?_eq_some_iff.1 acts.seat).1
    obtain ⟨party', t, acts', like⟩ := leads.window.lead acts leads.running fun i hi =>
      role_ne_builtin_of_reaches run.reaches (first i hi)
    obtain ⟨both, event⟩ := part.stepStage? run.reaches length leads.window acts acts' like
    have step' := step
    rw [acts.step?_eq] at step'
    rw [step'] at both
    generalize there : w.stepStage? (n + k) t request = taken at both
    cases both with
    | @some _ w' window' =>
      refine ⟨_, w', run.tail (by rw [acts'.step?_eq, there]), window', ?_, ?_, ?_, ?_⟩
      · exact (stepStage?_frame there).1.trans leads.running
      · rw [length', List.filterMap_append, leads.seen, Event.filterMap_toList, event, length]
      · intro e he
        rw [length']
        rcases List.mem_append.1 he with he | he
        · exact leads.inside e he
        · rw [acts'.stage_eq (Option.mem_toList.1 he)]
          omega
      · intro i outside apart
        rw [length'] at outside apart
        rw [← leads.outside i outside apart]
        refine (stepStage?_frame there).2 i (by omega) fun behind => acts'.role_ne_idle ?_
        rw [← acts'.role_eq]
        exact idle _ (apart k hk behind)
  · have step' : v.stepRelay? k = some v' := step
    have hk := (stepRelay?_eq_some step').1
    have both := leads.window.stepRelay? hk
    rw [step'] at both
    generalize there : w.stepRelay? (n + k) = taken at both
    cases both with
    | @some _ w' window' =>
      rw [event?_relay]
      refine ⟨[], w', by simpa using run.relay there, window', (stepRelay?_frame there).1.trans leads.running, ?_, ?_, ?_⟩
      · simpa [length'] using leads.seen
      · simpa [length'] using leads.inside
      · intro i outside apart
        rw [length'] at outside apart
        rw [← leads.outside i outside apart]
        exact (stepRelay?_frame there).2 i (by omega)
  · refine ⟨[], w, by simpa using run, leads.window.of_settles length' settles scene, leads.running, ?_, ?_, ?_⟩
    · simpa [length', quiet] using leads.seen
    · simpa [length'] using leads.inside
    · simpa only [length'] using leads.outside

/-- What the part can do by itself it can do in the whole, if the shell runs builtins there and there is none before the
part. -/
theorem lead (part : Part programs next n v₀ w₀) (running : w₀.progress = .running)
    (first : ∀ i, i < n → w₀.role i ≠ .builtin) (ran : Runs programs v₀ trace v) :
    ∃ more w, Runs programs w₀ more w ∧ Leads next n v w₀ trace more w := by
  induction ran with
  | refl => exact ⟨[], w₀, .refl, part.window, running, rfl, fun _ he => absurd he List.not_mem_nil,
      fun _ _ _ => rfl⟩
  | tail ran step ih =>
    obtain ⟨more, w, run, leads⟩ := ih
    obtain ⟨further, w', run', leads'⟩ := part.lead_step first ran run leads step
    exact ⟨_, w', run', leads'⟩

end Part

end World

end PipeShell
