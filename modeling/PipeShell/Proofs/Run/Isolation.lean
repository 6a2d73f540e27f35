import PipeShell.Proofs.Run.Cut

/-!
# A stage that does not start fails alone

A stage that does not start is reported once, and that is all that it does.  The stages before it and the stages behind
it run as two pipelines of their own, in whatever order the parties take their steps: what can be seen of a run of the
whole is what can be seen of a run of each part, and any two such runs make up one of the whole (`World.Splits`).  The
builtin directly before the stage runs as if its output were thrown away (`World.Drops`).

`Runner.FailsAlone` puts this together.  It speaks of one stage, with any others among those before and behind it that
do not start either, and it applies again to the two parts.  What it says of two runs depends on what the builtins may
see of the host; the standard builtins see nothing there that another stage could have written
(`Registry.standard_oblivious`).
-/

namespace PipeShell

namespace World

variable {σ : Type}

/-- The pipeline `w` runs as the two pipelines `u` and `v` do, the stages of `v` behind those of `u`. -/
structure Splits (programs : Programs σ) (w u v : World σ) : Prop where
  length : w.seats.length = u.seats.length + v.seats.length
  /-- What happens in the front of a run happens in a run of the front. -/
  front : ∀ {trace : List Event} {w' : World σ}, Runs programs w trace w' →
    ∃ u', Runs programs u (trace.filterMap (Event.seen Output.onward 0 u.seats.length)) u'
  /-- What happens in the back of a run happens in a run of the back. -/
  back : ∀ {trace : List Event} {w' : World σ}, Runs programs w trace w' →
    ∃ v', Runs programs v (trace.filterMap (Event.seen Output.onward u.seats.length v.seats.length)) v'
  /-- Each part comes out as it does in the whole. -/
  parts : ∀ {fates : List Fate} {trace : List Event}, w.Yields programs fates trace →
    u.Yields programs (fates.take u.seats.length) (trace.filterMap (Event.seen Output.onward 0 u.seats.length)) ∧
      v.Yields programs (fates.drop u.seats.length)
        (trace.filterMap (Event.seen Output.onward u.seats.length v.seats.length))
  /-- However the parts come out, the whole can come out so. -/
  whole : ∀ {fates fates' : List Fate} {trace trace' : List Event}, u.Yields programs fates trace →
    v.Yields programs fates' trace' → ∃ all, w.Yields programs (fates ++ fates') all ∧
      all.filterMap (Event.seen Output.onward 0 u.seats.length) = trace ∧
      all.filterMap (Event.seen Output.onward u.seats.length v.seats.length) = trace'

/-- The pipeline `u` runs as `v` does, apart from a last stage that ends as `fate` says and does nothing: what the stage
before that passes on, in `v` it writes to nowhere. -/
structure Drops (programs : Programs σ) (u v : World σ) (fate : Fate) : Prop where
  length : u.seats.length = v.seats.length + 1
  follow : ∀ {trace : List Event} {u' : World σ}, Runs programs u trace u' →
    ∃ v', Runs programs v
      (trace.filterMap (Event.seen (Runner.nowhereBehind v.seats.length) 0 v.seats.length)) v'
  without : ∀ {fates : List Fate} {trace : List Event}, u.Yields programs fates trace →
    v.Yields programs (fates.take v.seats.length)
      (trace.filterMap (Event.seen (Runner.nowhereBehind v.seats.length) 0 v.seats.length))
  withLast : ∀ {fates : List Fate} {trace : List Event}, v.Yields programs fates trace →
    ∃ all, u.Yields programs (fates ++ [fate]) all ∧
      all.filterMap (Event.seen (Runner.nowhereBehind v.seats.length) 0 v.seats.length) = trace

end World

namespace Runner

variable {σ : Type} {r : Runner σ} {ctx : Context} {h g : Host} {before after : List Stage} {s : Stage}
  {refusal : Refusal} {w : World σ} {trace : List Event}

/-- The stage `s` does not start, and fails alone: the stages `before` and `after` it do what they do without it.  They
have been started on the host `h`, and `g` is the host on which they run. -/
structure FailsAlone (r : Runner σ) (before : List Stage) (s : Stage) (after : List Stage) (ctx : Context) (h g : Host)
    (refusal : Refusal) : Prop where
  /-- There is a reason not to start the stage, and in its turn this is reported, once.  What the stage before offers is
  handed to nobody, and nothing else happens. -/
  turn : ∃ host, r.Refuses ctx host s after.isEmpty refusal ∧
    (r.turns ctx h .absent (before ++ s :: after))[before.length]? =
      some (host, giveUp (refusal.host.report refusal.err refusal.failure.message) s.name refusal.fate
        (r.offeredTo ctx h .absent (before ++ s :: after) before.length))
  /-- The reason gives the status. -/
  code : refusal.fate = .notOpened ∧ refusal.fate.code = 1 ∨ refusal.fate = .notFound ∧ refusal.fate.code = 127 ∨
    refusal.fate = .notStarted ∧ refusal.fate.code = 126
  /-- The stage has ended from the start. -/
  ended : ∀ {w : World σ}, World.Reaches r.programs (r.startedOn (before ++ s :: after) ctx h g) w →
    w.actor? before.length = some (.ended refusal.fate)
  /-- Nothing is executed for the stage. -/
  idle : ∀ {w : World σ} {party : Party} {t : Seat σ} {request : Request Finish (Actor σ)},
    World.Reaches r.programs (r.startedOn (before ++ s :: after) ctx h g) w →
      ¬ World.Acts r.programs w party before.length t request
  /-- When the shell has returned, there is one status for each stage, the one with which it has ended. -/
  statuses : ∀ {w : World σ}, World.Reaches r.programs (r.startedOn (before ++ s :: after) ctx h g) w →
    w.progress = .returned → w.fates.length = (before ++ s :: after).length ∧
      ∀ i, w.actor? i = w.fates[i]?.map .ended
  /-- When the shell begins to wait, all builtins have been run. -/
  run : ∀ {w : World σ}, World.Reaches r.programs (r.startedOn (before ++ s :: after) ctx h g) w →
    w.progress ≠ .running → ∀ k act, w.actor? k ≠ some (.builtin act)
  /-- The stages up to this one and the stages behind it, started one after the other, leave the host as the whole
  does. -/
  host : (r.start ⟨before ++ s :: after⟩ ctx h).host = (r.start ⟨after⟩ ctx (r.start ⟨before ++ [s]⟩ ctx h).host).host
  /-- They run as two pipelines. -/
  splits : r.registry.Oblivious → World.Splits r.programs (r.startedOn (before ++ s :: after) ctx h g)
    (r.startedOn (before ++ [s]) ctx h g) (r.startedOn after ctx (r.start ⟨before ++ [s]⟩ ctx h).host g)
  /-- A builtin directly before the stage goes on as if its output were thrown away. -/
  drops : r.registry.Oblivious →
    (∀ i, i + 1 = before.length → (r.startedOn (before ++ s :: after) ctx h g).role i = .builtin) →
      World.Drops r.programs (r.startedOn (before ++ [s]) ctx h g)
        ({ r with out := .nowhere }.startedOn before ctx h g) refusal.fate
  /-- The stage directly behind it finds its input at the end. -/
  empty : ∀ {w : World σ}, World.Reaches r.programs (r.startedOn (before ++ s :: after) ctx h g) w →
    ∀ limit, (w.input (before.length + 1)).read? limit = some ([], w.input (before.length + 1))

theorem splits_cut (pure : r.programs.Oblivious) (oblivious : r.registry.Oblivious)
    (idle : (r.startedOn (before ++ s :: after) ctx h g).role before.length = .idle) :
    World.Splits r.programs (r.startedOn (before ++ s :: after) ctx h g) (r.startedOn (before ++ [s]) ctx h g)
      (r.startedOn after ctx (r.start ⟨before ++ [s]⟩ ctx h).host g) := by
  have front := part_front pure oblivious idle
  have back := part_back pure oblivious idle
  have lengthU : (r.startedOn (before ++ [s]) ctx h g).seats.length = before.length + 1 := by simp [length_startedOn]
  have length : (r.startedOn (before ++ s :: after) ctx h g).seats.length =
      (r.startedOn (before ++ [s]) ctx h g).seats.length +
        (r.startedOn after ctx (r.start ⟨before ++ [s]⟩ ctx h).host g).seats.length := by
    simp [length_startedOn]
    omega
  rw [← lengthU] at back
  refine ⟨length, fun ran => ?_, fun ran => ?_, fun {fates trace} yields => ⟨?_, ?_⟩, fun yields yields' =>
    front.join back length rfl rfl rfl yields yields'⟩
  · obtain ⟨u', run, -⟩ := front.follow rfl ran
    exact ⟨u', run⟩
  · obtain ⟨v', run, -⟩ := back.follow rfl ran
    exact ⟨v', run⟩
  · exact front.yields rfl rfl yields
  · have all : fates.length = (r.startedOn (before ++ s :: after) ctx h g).seats.length := by
      obtain ⟨w, run, -, rfl⟩ := yields
      rw [← World.length_of_reaches run.reaches]
      exact List.length_map _
    have out := back.yields rfl rfl yields
    rwa [List.take_of_length_le (by rw [List.length_drop, all, length]; omega)] at out

theorem drops_cut (pure : r.programs.Oblivious) (oblivious : r.registry.Oblivious) {fate : Fate}
    (other : ∀ i, i + 1 = before.length → (r.startedOn (before ++ [s]) ctx h g).role i ≠ .program)
    (ended : (r.startedOn (before ++ [s]) ctx h g).actor? before.length = some (.ended fate)) :
    World.Drops r.programs (r.startedOn (before ++ [s]) ctx h g) ({ r with out := .nowhere }.startedOn before ctx h g)
      fate := by
  have idle : (r.startedOn (before ++ [s]) ctx h g).role before.length = .idle := by simp [World.role, ended, Actor.role]
  have part := part_thrown pure oblivious other idle
  have lengthV : ({ r with out := .nowhere }.startedOn before ctx h g).seats.length = before.length := length_startedOn
  have length : (r.startedOn (before ++ [s]) ctx h g).seats.length = before.length + 1 := by simp [length_startedOn]
  rw [← lengthV] at part
  refine ⟨by rw [length, lengthV], fun ran => ?_, fun yields => ?_, fun {fates trace} yields => ?_⟩
  · obtain ⟨v', run, -⟩ := part.follow rfl ran
    exact ⟨v', run⟩
  · exact part.yields rfl rfl yields
  · obtain ⟨v, ran, returned, rfl⟩ := yields
    have tidy := part.part.fit.tidy_of_reaches rfl ran.reaches
    have lengthV' := (World.length_of_reaches ran.reaches).trans lengthV
    obtain ⟨more, w, run, leads⟩ := part.lead rfl (fun i hi => absurd hi (Nat.not_lt_zero i)) ran
    have lengthW := (World.length_of_reaches run.reaches).trans length
    have ended' := World.actor?_of_reaches run.reaches ended
    have at_k : ∀ k, w.role k = .idle ∧ (k ≠ before.length → (w.input k).copies = false) := by
      intro k
      rcases Nat.lt_trichotomy k before.length with hk | rfl | hk
      · have quiet := leads.window.quiet tidy returned (k := k) (by omega)
        rw [Nat.zero_add] at quiet
        exact ⟨quiet.1, fun _ => quiet.2⟩
      · exact ⟨by simp [World.role, ended', Actor.role], fun other => absurd rfl other⟩
      · have quiet := World.quiet_of_le (w := w) (k := k) (by omega)
        exact ⟨quiet.1, fun _ => quiet.2⟩
    have quiet : w.Quiet before.length :=
      ⟨fun k => (at_k k).1, fun k => (at_k k).2, (exists_write?_last pure oblivious other idle run.reaches).1⟩
    have fates : v.fates ++ [fate] = w.settledFates := by
      rw [World.settledFates_eq_append lengthW ended', tidy.fates_eq returned, leads.window.settledFates_eq,
        List.drop_zero, lengthV']
    refine ⟨more, ?_, ?_⟩
    · rw [fates]
      exact quiet.yields part.whole.fit rfl run
    · have seen := leads.seen
      rw [lengthV', ← lengthV] at seen
      exact seen

/-- The turn of a stage that does not start. -/
theorem exists_refuses (idle : (r.start ⟨before ++ s :: after⟩ ctx h).role before.length = .idle) :
    ∃ host refusal, r.Refuses ctx host s after.isEmpty refusal ∧
      (r.turns ctx h .absent (before ++ s :: after))[before.length]? =
        some (host, giveUp (refusal.host.report refusal.err refusal.failure.message) s.name refusal.fate
          (r.offeredTo ctx h .absent (before ++ s :: after) before.length)) ∧
      (r.start ⟨before ++ s :: after⟩ ctx h).actor? before.length = some (.ended refusal.fate) := by
  have hs : (before ++ s :: after)[before.length]? = some s := by simp
  obtain ⟨host, seat, ⟨-, t, ht, rfl⟩, hseat⟩ := exists_at (p := ⟨before ++ s :: after⟩) r ctx h hs
  have same := turns_eq hs ht
  have last : decide (before.length + 1 = (before ++ s :: after).length) = after.isEmpty := by
    cases after <;> simp
  rw [last] at same
  rw [World.role_eq hseat, same] at idle
  obtain ⟨refusal, refused⟩ := (exists_refusal?_iff _).2 idle
  rw [startStage_of_refusal? refused] at same
  rw [same] at ht hseat
  exact ⟨host, refusal, refuses_of_refusal? refused, ht, by rw [World.actor?, hseat]; rfl⟩

/-- When the shell has returned, the statuses are those of the stages, in order. -/
theorem statuses_of_returned {stages : List Stage} (reached : World.Reaches r.programs (r.startedOn stages ctx h g) w)
    (returned : w.progress = .returned) :
    w.fates.length = stages.length ∧ ∀ i, w.actor? i = w.fates[i]?.map .ended := by
  have tidy := (fit_startedOn r stages ctx h g).tidy_of_reaches rfl reached
  refine ⟨(List.length_map _).trans ((World.length_of_reaches reached).trans length_startedOn), fun i => ?_⟩
  rw [World.fates, List.getElem?_map, Option.map_map, World.actor?]
  cases seat : w.seats[i]? with
  | none => rfl
  | some t =>
    obtain ⟨fate, actor⟩ := tidy.ended i t.actor (by rw [returned]; trivial) (by simp [World.actor?, seat])
    simp [actor]

/-- Behind a stage that does not start there is never any input. -/
theorem input_behind (pure : r.programs.Oblivious)
    (idle : (r.startedOn (before ++ s :: after) ctx h g).role before.length = .idle)
    (reached : World.Reaches r.programs (r.startedOn (before ++ s :: after) ctx h g) w) :
    w.input (before.length + 1) = .absent := by
  refine World.input_eq_absent (World.wiring_of_reaches reached) ?_
  have front : (r.startedOn (before ++ [s]) ctx h g).seats.length = before.length + 1 := by simp [length_startedOn]
  rw [World.input, (seats_cut pure idle).1, List.getElem?_append_right (by omega), front, Nat.sub_self]
  exact (fit_startedOn r after ctx _ g).first

/-- **A stage that does not start fails alone**, whatever the other stages are, and in whatever order the parties take
their steps. -/
theorem exists_failsAlone (pure : r.programs.Oblivious)
    (idle : (r.start ⟨before ++ s :: after⟩ ctx h).role before.length = .idle) (g : Host) :
    ∃ refusal, r.FailsAlone before s after ctx h g refusal := by
  obtain ⟨host, refusal, refuses, turn, actor⟩ := exists_refuses idle
  have idle' : (r.startedOn (before ++ s :: after) ctx h g).role before.length = .idle := idle
  have ended : ∀ {w : World σ}, World.Reaches r.programs (r.startedOn (before ++ s :: after) ctx h g) w →
      w.actor? before.length = some (.ended refusal.fate) := fun reached => World.actor?_of_reaches reached actor
  -- Up to the stage, the front is the whole.
  have front : ∀ i, i < before.length + 1 → (r.startedOn (before ++ s :: after) ctx h g).actor? i =
      (r.startedOn (before ++ [s]) ctx h g).actor? i := fun i hi => by
    rw [World.actor?, (seats_cut pure idle').1, List.getElem?_append_left (by simpa [length_startedOn] using hi)]
    rfl
  exact ⟨refusal,
    { turn := ⟨host, refuses, turn⟩
      code := by cases refuses <;> simp [Fate.code]
      ended
      idle := fun reached acts => acts.ne_of_ended (ended reached) rfl
      statuses := statuses_of_returned
      run := fun {w} reached waits k act builtin => by
        have fit := (fit_startedOn r _ ctx h g).of_reaches reached
        exact fit.held.settled waits k (by simp [World.role, builtin, Actor.role])
      host := (seats_cut (g := g) pure idle').2
      splits := fun oblivious => splits_cut pure oblivious idle'
      drops := fun oblivious builtin => by
        refine drops_cut pure oblivious (fun i hi program => ?_) ?_
        · have role := builtin i hi
          rw [World.role, front i (by omega)] at role
          rw [World.role, role] at program
          cases program
        · rw [← front before.length (by omega)]
          exact actor
      empty := fun reached limit => by
        rw [input_behind pure idle' reached]
        rfl }⟩

/-- The builtin that writes two bytes, a name that stands for nothing, and the program that copies its input. -/
def bytesLost : Pipeline := ⟨[⟨[['a']], {}⟩] ++ ⟨[['b']], {}⟩ :: [⟨[['/', 'c']], {}⟩]⟩

/-- The builtin and the program run, and the stage between them is not found. -/
theorem exists_failsAlone_bytesLost :
    (copying.start bytesLost {} copyingHost).role 0 = .builtin ∧
      (copying.start bytesLost {} copyingHost).role 2 = .program ∧ copying.registry.Oblivious ∧
      ∃ refusal, refusal.fate = .notFound ∧
        copying.FailsAlone [⟨[['a']], {}⟩] ⟨[['b']], {}⟩ [⟨[['/', 'c']], {}⟩] {} copyingHost
          (copying.start bytesLost {} copyingHost).host refusal := by
  have pure : copying.programs.Oblivious := ⟨fun _ _ _ => rfl, fun state => by
    match state with
    | none | some [] | some (_ :: _) => trivial⟩
  have oblivious : copying.registry.Oblivious := fun b hb call => by
    obtain rfl := List.mem_singleton.1 hb
    exact .write fun _ => .done _
  have actor : (copying.start bytesLost {} copyingHost).actor? 1 = some (.ended .notFound) := rfl
  have idle : (copying.start bytesLost {} copyingHost).role 1 = .idle := by rw [World.role, actor]; rfl
  obtain ⟨refusal, alone⟩ := exists_failsAlone pure idle (copying.start bytesLost {} copyingHost).host
  have ended : (copying.start bytesLost {} copyingHost).actor? 1 = some (.ended refusal.fate) := alone.ended .refl
  rw [actor, Option.some.injEq, Actor.ended.injEq] at ended
  have program : (copying.start bytesLost {} copyingHost).role 2 = .program := by
    rw [start, bytesLost, List.singleton_append, startStages, startStages, startStages,
      startStage_of_program rfl (copyingHost_program? rfl rfl)]
    rfl
  exact ⟨rfl, program, oblivious, refusal, ended.symm, alone⟩

end Runner

end PipeShell
