import PipeShell.Proofs.Run.Liveness

/-!
# The course of a builtin

A builtin is an act, and what it does next depends on nothing but what it has been told so far: the bytes that it has
read, whether its writes were taken, and what it saw of the host.  `Act.Course` is such a course, and `World.Told` says
what a stage of a running pipeline can be told at a time.  Whatever the other stages do meanwhile, a builtin goes
through its course, and when that comes to an end the stage has ended with the status that the act replied
(`World.Follows`, `World.Step.follows`).
-/

namespace PipeShell

/-- What a program learns when a request of it is answered. -/
inductive Answered
  | got (data : Bytes)
  /-- All of the data is written, or else it is known what went wrong. -/
  | wrote (stream : StdStream) (data : Bytes) (fault : Option Fault)
  | saw (host : Host)

/-- With these answers, one after the other, `act` goes on as another act. -/
inductive Act.Course {ρ : Type} (act : Act ρ) : List Answered → Act ρ → Prop
  | start : Course act [] act
  | got {answers : List Answered} {limit : Nat} {next : Bytes → Act ρ} (before : Course act answers (.read limit next))
      (data : Bytes) : Course act (answers ++ [.got data]) (next data)
  | wrote {answers : List Answered} {stream : StdStream} {data : Bytes} {next : Option Fault → Act ρ}
      (before : Course act answers (.write stream data next)) (fault : Option Fault) :
      Course act (answers ++ [.wrote stream data fault]) (next fault)
  | saw {answers : List Answered} {change : Host → Host} {next : Host → Act ρ}
      (before : Course act answers (.call change next)) (host : Host) : Course act (answers ++ [.saw host]) (next host)

namespace World

variable {σ : Type} {programs : Programs σ} {w w' : World σ} {party : Party} {k : Nat} {s : Seat σ}
  {act : Act Reply} {answers : List Answered}

/-- The world gives stage `k` this answer. -/
def Answers (w : World σ) (k : Nat) (s : Seat σ) : Answered → Prop
  | .got data => ∃ limit j, s.input.read? limit = some (data, j)
  | .wrote stream data none => ∃ v, w.serveWrite k (s.output stream) data = some (v, .ok [])
  | .wrote stream data (some fault) => ∃ v, w.serveWrite k (s.output stream) data = some (v, .error fault)
  | .saw host => host = w.host

end World

namespace World

variable {σ : Type} {programs : Programs σ} {w w' : World σ} {party : Party} {k i : Nat} {s : Seat σ}
  {act act' : Act Reply} {answers : List Answered} {request : Request Finish (Actor σ)}

/-! ### What the stages are doing -/

/-- What a stage is doing, and what is left of its write. -/
def doing? (w : World σ) (k : Nat) : Option (Actor σ × Option Bytes) := w.seats[k]?.map fun s => (s.actor, s.unsent)

theorem doing?_congr (h : w'.seats = w.seats) (i : Nat) : w'.doing? i = w.doing? i := by simp only [doing?, h]

@[simp] theorem doing?_modifyInput (w : World σ) (k : Nat) (f : Join → Join) (i : Nat) :
    (w.modifyInput k f).doing? i = w.doing? i := by
  simp only [doing?, ← List.getElem?_map]
  congr 1
  exact map_modify_of_eq _ _ fun _ => rfl

@[simp] theorem doing?_setInput (w : World σ) (k : Nat) (j : Join) (i : Nat) :
    (w.setInput k j).doing? i = w.doing? i := doing?_modifyInput _ _ _ _

theorem doing?_setActor_of_ne (w : World σ) (h : i ≠ k) (a : Actor σ) : (w.setActor k a).doing? i = w.doing? i := by
  simp [doing?, setActor, Ne.symm h]

theorem doing?_setActor_self (w : World σ) (h : k < w.seats.length) (a : Actor σ) :
    (w.setActor k a).doing? k = some (a, none) := by
  simp [doing?, setActor, h]

theorem doing?_setUnsent_of_ne (w : World σ) (h : i ≠ k) (rest : Bytes) :
    (w.setUnsent k rest).doing? i = w.doing? i := by
  simp [doing?, setUnsent, Ne.symm h]

theorem doing?_finish_of_ne (w : World σ) (h : i ≠ k) (name : Text) (result : Finish) :
    (w.finish k name result).doing? i = w.doing? i := by
  obtain ⟨a, -, seats⟩ := w.finish_seats k name result
  rw [doing?_congr seats, doing?_setActor_of_ne w h]

/-- A builtin for which nobody acts stays as it is. -/
theorem Step.doing?_eq (step : Step programs w party w') (held : w.Held) (builtin : w.role k = .builtin)
    (other : ∀ s request, ¬ Acts programs w party k s request) : w'.doing? k = w.doing? k := by
  have ne : ∀ {i s request}, Acts programs w party i s request → k ≠ i := by
    rintro i s request acts rfl
    exact other _ _ acts
  cases step with
  | done acts => rw [doing?_finish_of_ne _ (ne acts), closeEnds, doing?_modifyInput, doing?_modifyInput]
  | read acts | passed acts => rw [doing?_setActor_of_ne _ (ne acts), doing?_setInput]
  | wrote acts | refused acts | broken acts | called acts => exact doing?_setActor_of_ne _ (ne acts) _
  | passedPart acts => rw [doing?_setUnsent_of_ne _ (ne acts), doing?_setInput]
  | relayed => exact doing?_setInput _ _ _ _
  | turned => rfl
  | @awaited i _ waiting past =>
    rcases awaitStage?_seats past with same | ⟨fate, same, live⟩
    · exact doing?_congr same k
    · have settled := held.settled (by simp [waiting])
      refine (doing?_congr same k).trans (doing?_setActor_of_ne _ ?_ _)
      rintro rfl
      exact settled k builtin
  | joined joining past => exact doing?_congr (awaitRelay?_seats past) k

/-! ### What a builtin asks for -/

theorem Acts.of_builtin (acts : Acts programs w party k s request) (actor : s.actor = .builtin act) :
    request = act.request.map .reply .builtin := by
  have asked := acts.request?_eq
  rw [actor] at asked
  exact (Option.some.inj asked).symm

/-- A join that takes everything at once leaves nothing over. -/
theorem eq_nil_of_isUnbounded {j j' : Join} {data rest : Bytes} (unbounded : j.isUnbounded = true)
    (taken : j.write? data = some (.ok (rest, j'))) : rest = [] := by
  cases j with
  | absent =>
    simp only [Join.write?, Option.some.injEq, Except.ok.injEq, Prod.mk.injEq] at taken
    exact taken.1.symm
  | channel c | feeding c r p | draining c r =>
    obtain ⟨-, -, rest, -⟩ := Channel.of_map_write taken
    exact rest
  | pipe | collecting => cases unbounded

theorem length_of_serveWrite {v : World σ} {target : Output} {data : Bytes} {outcome : Except Fault Bytes}
    (served : w.serveWrite k target data = some (v, outcome)) : v.seats.length = w.seats.length := by
  unfold serveWrite at served
  split at served <;> split at served <;> cases served <;> simp [setInput, modifyInput]

/-- What a builtin writes is written at once, or not at all. -/
theorem eq_nil_of_serveWrite {v : World σ} {target : Output} {data rest : Bytes}
    (served : w.serveWrite k target data = some (v, .ok rest)) (unbounded : (w.input (k + 1)).isUnbounded = true) :
    rest = [] := by
  unfold serveWrite at served
  split at served <;> split at served <;> cases served
  · rfl
  · rename_i taken
    exact eq_nil_of_isUnbounded unbounded taken

/-! ### Following the course -/

/-- Stage `k`, which began as `act`, has got these answers: it goes on accordingly, or it has ended with the status of
its reply. -/
inductive Follows (w : World σ) (k : Nat) (act : Act Reply) (answers : List Answered) : Prop
  | goesOn {act' : Act Reply} (doing : w.doing? k = some (.builtin act', none)) (course : act.Course answers act')
  | ended {reply : Reply} (actor : w.actor? k = some (.ended (.exited reply.status)))
      (course : act.Course answers (.done reply))

/-- When somebody acts for a builtin, it ends with its reply, or it gets the answer that the world gives. -/
theorem Acts.follows (acts : Acts programs w party k s request) (step : Step programs w party w') (fit : w.Fit)
    (actor : s.actor = .builtin act') (sent : s.unsent = none) (course : act.Course answers act') :
    w'.Follows k act answers ∨ ∃ answer, w.Answers k s answer ∧ w'.Follows k act (answers ++ [answer]) := by
  have hk : k < w.seats.length := (List.getElem?_eq_some_iff.1 acts.seat).1
  obtain rfl := acts.of_builtin actor
  have stepped := acts.step?_eq.symm.trans (step?_iff.2 step)
  simp only [stepStage?, Option.map_eq_some_iff] at stepped
  obtain ⟨⟨v, answer⟩, served, rfl⟩ := stepped
  cases act' with
  | done reply =>
    left
    cases served
    refine .ended ?_ course
    have closed : k < (w.closeEnds k).seats.length := by simpa [closeEnds, modifyInput] using hk
    exact (actor?_congr (finishBuiltin_seats _ _ _ _) k).trans (actor?_setActor_self _ closed _)
  | read limit next =>
    right
    obtain ⟨⟨data, j⟩, given, same⟩ := Option.map_eq_some_iff.1 served
    cases same
    have set : k < (w.setInput k j).seats.length := by simpa [setInput, modifyInput] using hk
    exact ⟨.got data, ⟨limit, j, given⟩, .goesOn (doing?_setActor_self _ set _) (course.got data)⟩
  | write stream data next =>
    right
    -- Nothing is left of an earlier write, so that this one begins anew.
    have whole : s.unsent.getD data = data := by rw [sent]; rfl
    obtain ⟨⟨v, outcome⟩, written, same⟩ := Option.map_eq_some_iff.1 served
    rw [whole] at written
    have hv : k < v.seats.length := by rwa [length_of_serveWrite written]
    cases outcome with
    | error fault =>
      cases same
      exact ⟨.wrote stream data (some fault), ⟨v, written⟩,
        .goesOn (doing?_setActor_self _ hv _) (course.wrote (some fault))⟩
    | ok rest =>
      have builtin : w.role k = .builtin := by
        rw [World.role_eq acts.seat, actor]
        rfl
      obtain rfl := eq_nil_of_serveWrite written (fit.unbounded k builtin)
      cases same
      exact ⟨.wrote stream data none, ⟨v, written⟩, .goesOn (doing?_setActor_self _ hv _) (course.wrote none)⟩
  | call change next =>
    right
    cases served
    exact ⟨.saw w.host, rfl, .goesOn (doing?_setActor_self _ hk _) (course.saw w.host)⟩

/-- In one step a builtin gets one answer at most, and that is the one that the world gives. -/
theorem Step.follows (step : Step programs w party w') (fit : w.Fit) (follows : w.Follows k act answers) :
    w'.Follows k act answers ∨
      ∃ s answer, w.seats[k]? = some s ∧ s.actor.role = .builtin ∧ w.Answers k s answer ∧
        w'.Follows k act (answers ++ [answer]) := by
  cases follows with
  | ended actor course => exact .inl (.ended (step.actor?_of_ended actor) course)
  | @goesOn act' doing course =>
    obtain ⟨s, seat, same⟩ := Option.map_eq_some_iff.1 doing
    obtain ⟨actor, sent⟩ := Prod.mk.inj same
    have builtin : s.actor.role = .builtin := by rw [actor]; rfl
    by_cases acting : ∃ s request, Acts programs w party k s request
    · obtain ⟨t, request, acts⟩ := acting
      obtain rfl : t = s := Option.some.inj (acts.seat.symm.trans seat)
      refine (acts.follows step fit actor sent course).imp_right ?_
      rintro ⟨answer, answers, follows⟩
      exact ⟨t, answer, seat, builtin, answers, follows⟩
    · have same := step.doing?_eq fit.held ((role_eq seat).trans builtin) fun s request acts => acting ⟨s, request, acts⟩
      exact .inl (.goesOn (same.trans doing) course)

end World

namespace Runner

variable {σ : Type} {r : Runner σ} {p : Pipeline} {ctx : Context} {h : Host}

theorem startStage_unsent (r : Runner σ) (h : Host) (ctx : Context) (s : Stage) (input : Join) (isLast : Bool) :
    (r.startStage h ctx s input isLast).seat.unsent = none := by
  unfold startStage
  split
  · rfl
  · dsimp only
    split
    · rfl
    · unfold seatStage seatProgram
      split
      · rfl
      · split
        · split <;> rfl
        · rfl

/-- At the start nothing is left of any write. -/
theorem unsent_start {s : Seat σ} (seat : s ∈ (r.start p ctx h).seats) : s.unsent = none := by
  suffices all : ∀ (stages : List Stage) (h : Host) (input : Join), ∀ s ∈ (r.startStages ctx h input stages).2,
      s.unsent = none from all p.stages h .absent s seat
  intro stages
  induction stages with
  | nil => simp [startStages]
  | cons stage stages ih =>
    intro h input s seat
    rcases List.mem_cons.1 seat with rfl | seat
    · exact startStage_unsent _ _ _ _ _ _
    · exact ih _ _ s seat

/-- Whatever a builtin has been told, some world on the way has told it. -/
theorem course_of_reaches {w : World σ} {k : Nat} {s : Seat σ} {act : Act Reply}
    (reached : World.Reaches r.programs (r.start p ctx h) w) (seat : (r.start p ctx h).seats[k]? = some s)
    (actor : s.actor = .builtin act) :
    ∃ answers, w.Follows k act answers ∧ ∀ answer ∈ answers, ∃ (v : World σ) (t : Seat σ),
      World.Reaches r.programs (r.start p ctx h) v ∧ World.Reaches r.programs v w ∧ v.seats[k]? = some t ∧
        v.Answers k t answer := by
  induction reached with
  | refl =>
    have doing : (r.start p ctx h).doing? k = some (.builtin act, none) := by
      simp [World.doing?, seat, actor, unsent_start (List.mem_of_getElem? seat)]
    exact ⟨[], .goesOn doing .start, by simp⟩
  | @tail u u' before last ih =>
    obtain ⟨answers, follows, told⟩ := ih
    obtain ⟨party, step⟩ := last
    have later : ∀ answer ∈ answers, ∃ (v : World σ) (t : Seat σ),
        World.Reaches r.programs (r.start p ctx h) v ∧ World.Reaches r.programs v u' ∧ v.seats[k]? = some t ∧
          v.Answers k t answer := fun answer mem => by
      obtain ⟨v, t, first, rest, seat, answered⟩ := told answer mem
      exact ⟨v, t, first, rest.tail ⟨party, step⟩, seat, answered⟩
    rcases (World.step?_iff.1 step).follows (fit_of_reaches before) follows with
      follows | ⟨t, answer, seat', -, answered, follows⟩
    · exact ⟨answers, follows, later⟩
    · refine ⟨_, follows, fun other mem => ?_⟩
      rcases List.mem_append.1 mem with earlier | now
      · exact later other earlier
      · obtain rfl := List.mem_singleton.1 now
        exact ⟨u, t, before, .single ⟨party, step⟩, seat', answered⟩

end Runner

end PipeShell
