import PipeShell.Proofs.Replies
import PipeShell.Proofs.Run.Course
import PipeShell.Proofs.Run.Isolation
import PipeShell.Proofs.Run.Sequence

/-!
# What is asked of the shell

A builtin that is the only stage may ask the shell for a directory or for an exit.  It has run with nobody beside
(`Runner.RepliesAlone`), and its reply is what is asked when the shell has returned; in all other pipelines nothing is
asked (`Runner.request_eq_or_repliesAlone`).  A builtin among other stages replies too, at the end of its course, but
only its status counts (`Runner.Replied`).
-/

namespace PipeShell

namespace World

variable {σ : Type} {programs : Programs σ} {w w' : World σ} {party : Party} {k : Nat} {s : Seat σ} {reply : Reply}

/-- Only a builtin replies. -/
theorem Acts.of_reply (acts : Acts programs w party k s (.done (.reply reply))) : s.actor = .builtin (.done reply) := by
  have asked := acts.request?_eq
  cases actor : s.actor with
  | gone | ended => simp [actor, Actor.request?] at asked
  | process state =>
    rw [actor] at asked
    simp only [Actor.request?, Option.some.injEq] at asked
    cases next : programs.next state <;> simp [next, Request.map] at asked
  | builtin act =>
    rw [actor] at asked
    simp only [Actor.request?, Option.some.injEq] at asked
    cases act <;> simp_all [Act.request, Request.map]

/-- A step asks nothing of the shell, unless a builtin is the only stage. -/
theorem Step.request_eq (step : Step programs w party w') :
    w'.request = w.request ∨ w.seats.length = 1 ∧ ∃ k, w.role k = .builtin := by
  cases step with
  | read | wrote | refused | passed | passedPart | broken | called | relayed | turned => exact .inl rfl
  | awaited waiting past => cases pastStage_of_awaitStage? past <;> exact .inl rfl
  | joined joining past => cases pastRelay_of_awaitRelay? past <;> exact .inl rfl
  | @done _ k s result acts =>
    cases result with
    | ending e => exact .inl rfl
    | reply reply =>
      by_cases only : w.seats.length = 1
      · refine .inr ⟨only, k, ?_⟩
        rw [acts.role_eq, acts.of_reply]
        rfl
      · left
        have others : (((w.closeEnds k).setActor k (.ended (.exited reply.status))).note .debug
            ("builtin ".toList ++ s.name ++ " exited with ".toList ++ showInt reply.status)).seats.length ≠ 1 := by
          simpa [note, setActor, closeEnds, modifyInput] using only
        simp only [finish, finishBuiltin, if_neg others]
        split <;> rfl

/-- Nothing is asked of the shell by several stages, nor by programs. -/
theorem request_eq_of_reaches (nobody : w.seats.length ≠ 1 ∨ ∀ k, w.role k ≠ .builtin)
    (reached : Reaches programs w w') : w'.request = w.request := by
  refine (reached.invariant (I := fun v => v.request = w.request ∧ (v.seats.length ≠ 1 ∨ ∀ k, v.role k ≠ .builtin))
    ⟨rfl, nobody⟩ fun {v v' party} ⟨same, nobody⟩ step => ⟨?_, ?_⟩).1
  · rcases step.request_eq with unasked | ⟨only, k, builtin⟩
    · exact unasked.trans same
    · rcases nobody with several | programs
      · exact absurd only several
      · exact absurd builtin (programs k)
  · refine nobody.imp (fun several => by rwa [step.length_seats]) fun programs k builtin => ?_
    rcases step.role_eq_or_idle k with same | idle
    · exact programs k (same.symm.trans builtin)
    · rw [idle] at builtin
      cases builtin

end World

namespace Runner

variable {σ : Type} {r : Runner σ} {p : Pipeline} {ctx : Context} {h h' : Host} {w : World σ} {stage : Stage}
  {task : Except Fate Task} {reply : Reply} {k : Nat}

/-! ### The only stage -/

/-- The only stage of a pipeline is a builtin, and so it replies when it runs with nobody beside and nothing to read. -/
def RepliesAlone (r : Runner σ) (p : Pipeline) (ctx : Context) (h : Host) (reply : Reply) : Prop :=
  ∃ (stage : Stage) (b : Builtin) (seat : Seat σ), p.stages = [stage] ∧ r.registry.find? stage.name = some b ∧
    (r.start p ctx h).seats = [seat] ∧ seat.actor = .builtin (b.run ⟨stage.argv, ctx, r.registry.names⟩) ∧
    reply = (Task.perform ⟨b.run ⟨stage.argv, ctx, r.registry.names⟩, seat.out, seat.err⟩ (r.start p ctx h).host none).1

theorem prepareAll_singleton (ready : r.prepare ctx h stage true false = some (h', task)) :
    r.prepareAll ctx h false [stage] = some (h', [⟨stage.name, task⟩]) := by
  simp [prepareAll, ready]

/-- What is prepared for a builtin. -/
theorem exists_builtin_of_prepare {task : Task} {isLast isFed : Bool}
    (ready : r.prepare ctx h stage isLast isFed = some (h', .ok task)) :
    ∃ b, r.registry.find? stage.name = some b ∧ task.act = b.run ⟨stage.argv, ctx, r.registry.names⟩ ∧
      h' = (r.openBoth ctx h stage isLast).1.note .debug ("stage ".toList ++ stage.name ++ ": builtin".toList) := by
  unfold prepare at ready
  split at ready
  · cases ready
  · split at ready
    · rename_i h₁ out err opened
      obtain ⟨b, found, same⟩ := Option.map_eq_some_iff.1 ready
      cases same
      exact ⟨b, found, rfl, by rw [opened]⟩
    · cases ready

/-- The only stage has been prepared, if it is a builtin when it has been started. -/
theorem exists_prepare (only : p.stages = [stage]) (builtin : (r.start p ctx h).role 0 = .builtin) :
    ∃ (h' : Host) (task : Task), r.prepare ctx h stage true false = some (h', .ok task) ∧
      r.start p ctx h = { host := h', seats := [Prepared.seat ⟨stage.name, .ok task⟩ false] } := by
  obtain ⟨stages⟩ := p
  obtain rfl : stages = [stage] := only
  cases ready : r.prepare ctx h stage true false with
  | none =>
    have role : (r.start ⟨[stage]⟩ ctx h).role 0 = (r.startStage h ctx stage .absent true).seat.actor.role := rfl
    rw [role, role_of_prepare_eq_none ready] at builtin
    cases builtin
  | some prepared =>
    obtain ⟨h', task⟩ := prepared
    have start := start_eq (p := ⟨[stage]⟩) (prepareAll_singleton ready)
    cases task with
    | ok task => exact ⟨h', task, rfl, start⟩
    | error fate =>
      rw [start] at builtin
      cases builtin

/-- A builtin that is the only stage has its reply. -/
theorem exists_repliesAlone (only : p.stages.length = 1) (builtin : (r.start p ctx h).role 0 = .builtin) :
    ∃ reply, r.RepliesAlone p ctx h reply := by
  obtain ⟨stage, single⟩ := List.length_eq_one_iff.1 only
  obtain ⟨h', task, ready, start⟩ := exists_prepare single builtin
  obtain ⟨b, found, act, -⟩ := exists_builtin_of_prepare ready
  exact ⟨_, stage, b, _, single, found, congrArg World.seats start, congrArg Actor.builtin act, rfl⟩

/-- What a builtin leaves behind that is run in order and is the only one. -/
theorem inOrder_singleton {task : Task} (single : p.stages = [stage])
    (ready : r.prepare ctx h stage true false = some (h', .ok task)) :
    ∃ host, r.inOrder p ctx h = some (⟨[.exited (task.perform h' none).1.status], (task.perform h' none).1.directory,
      (task.perform h' none).1.exit⟩, host) := by
  obtain ⟨stages⟩ := p
  obtain rfl : stages = [stage] := single
  rw [inOrder, prepareAll_singleton ready]
  exact ⟨_, rfl⟩

/-- What the only stage replies is asked of the shell. -/
theorem RepliesAlone.of_reaches (alone : r.RepliesAlone p ctx h reply)
    (reached : World.Reaches r.programs (r.start p ctx h) w) (returned : w.progress = .returned) :
    w.fates = [.exited reply.status] ∧ w.request.directory = reply.directory ∧ w.request.exit = reply.exit := by
  obtain ⟨stage, b, seat, single, found, seats, actor, rfl⟩ := alone
  have builtin : (r.start p ctx h).role 0 = .builtin := by
    simp [World.role, World.actor?, seats, actor, Actor.role]
  obtain ⟨h', task, ready, start⟩ := exists_prepare single builtin
  obtain rfl : seat = Prepared.seat ⟨stage.name, .ok task⟩ false := by
    rw [start] at seats
    exact (List.singleton_inj.1 seats).symm
  have act : task.act = b.run ⟨stage.argv, ctx, r.registry.names⟩ := Actor.builtin.inj actor
  have all : r.prepareAll ctx h false p.stages = some (h', [⟨stage.name, .ok task⟩]) := by
    rw [single]
    exact prepareAll_singleton ready
  obtain ⟨simple, same⟩ := (simple_start all).of_reaches reached
  obtain ⟨host, inOrder⟩ := inOrder_singleton single ready
  rw [inOrder_eq all, ← same, simple.upshot_of_returned returned, Option.some.injEq, Prod.mk.injEq,
    Summary.mk.injEq] at inOrder
  rw [start, ← act]
  exact inOrder.1

/-- The only stage is given the directories that were there before. -/
theorem sameDirectories_of_prepare {task : Task} {isLast isFed : Bool} (rooted : h.Rooted)
    (ready : r.prepare ctx h stage isLast isFed = some (h', .ok task)) : h.SameDirectories h' := by
  obtain ⟨b, -, -, rfl⟩ := exists_builtin_of_prepare ready
  exact (sameDirectories_openBoth rooted r ctx stage isLast).trans (.of_scene (Host.scene_note _ _ _))

/-- A directory that the only stage asks for has been there, and it is named canonically. -/
theorem RepliesAlone.isCanonicalDirectory {directory : Text} (alone : r.RepliesAlone p ctx h reply)
    (grounded : r.registry.Grounded) (rooted : h.Rooted) (asked : reply.directory = some directory) :
    h.IsCanonicalDirectory directory := by
  obtain ⟨stage, b, seat, single, found, seats, actor, rfl⟩ := alone
  have builtin : (r.start p ctx h).role 0 = .builtin := by
    simp [World.role, World.actor?, seats, actor, Actor.role]
  obtain ⟨h', task, ready, start⟩ := exists_prepare single builtin
  have same := sameDirectories_of_prepare rooted ready
  rw [start] at asked
  obtain ⟨path, canonical, isDirectory⟩ := grounded b (List.mem_of_find?_eq_some found) _ _ directory asked
  exact same.isCanonicalDirectory
    (Host.isCanonicalDirectory_of_canonical? (same.rooted rooted) canonical isDirectory)

/-- A builtin that is the only stage is heard, and nobody else is. -/
theorem request_eq_or_repliesAlone (reached : World.Reaches r.programs (r.start p ctx h) w)
    (returned : w.progress = .returned) :
    w.request = {} ∧ (¬ ∃ reply, r.RepliesAlone p ctx h reply) ∨ ∃ reply, r.RepliesAlone p ctx h reply ∧
      w.fates = [.exited reply.status] ∧ w.request.directory = reply.directory ∧ w.request.exit = reply.exit := by
  by_cases alone : ∃ reply, r.RepliesAlone p ctx h reply
  · obtain ⟨reply, alone⟩ := alone
    exact .inr ⟨reply, alone, alone.of_reaches reached returned⟩
  · refine .inl ⟨World.request_eq_of_reaches ?_ reached, alone⟩
    by_cases only : p.stages.length = 1
    · refine .inr fun k builtin => ?_
      have hk : k < (r.start p ctx h).seats.length := World.lt_of_runs (by simp [World.runs, builtin])
      rw [(wired r p ctx h).seats.1, only] at hk
      obtain rfl : k = 0 := by omega
      exact alone (exists_repliesAlone only builtin)
    · exact .inl (by rwa [(wired r p ctx h).seats.1])

/-! ### Every builtin -/

/-- The builtin of stage `k` has gone through its course on what it was told while the pipeline ran, and its status
is that of its stage. -/
structure Replied (r : Runner σ) (p : Pipeline) (ctx : Context) (h : Host) (w : World σ) (k : Nat) (reply : Reply) :
    Prop where
  course : ∃ stage b answers, p.stages[k]? = some stage ∧ r.registry.find? stage.name = some b ∧
    (b.run ⟨stage.argv, ctx, r.registry.names⟩).Course answers (.done reply) ∧
      ∀ answer ∈ answers, ∃ (v : World σ) (seat : Seat σ), World.Reaches r.programs (r.start p ctx h) v ∧
        World.Reaches r.programs v w ∧ v.seats[k]? = some seat ∧ v.Answers k seat answer
  status : w.fates[k]? = some (.exited reply.status)

/-- When the shell has returned all stages have ended, and it knows how. -/
theorem statuses_of_reaches (reached : World.Reaches r.programs (r.start p ctx h) w) (returned : w.progress = .returned) :
    w.fates.length = p.stages.length ∧ ∀ i, w.actor? i = w.fates[i]?.map .ended := by
  have reached : World.Reaches r.programs (r.startedOn p.stages ctx h (r.start p ctx h).host) w := reached
  exact statuses_of_returned reached returned

/-- Every builtin that starts replies before the shell returns. -/
theorem exists_replied (reached : World.Reaches r.programs (r.start p ctx h) w) (returned : w.progress = .returned)
    (builtin : (r.start p ctx h).role k = .builtin) : ∃ reply, r.Replied p ctx h w k reply := by
  have hk : k < p.stages.length := by
    rw [← (wired r p ctx h).seats.1]
    exact World.lt_of_runs (by simp [World.runs, builtin])
  obtain ⟨host, ⟨name, actor, out, err, input, unsent⟩, at_k, hseat⟩ := exists_at r ctx h (List.getElem?_eq_getElem hk)
  rw [World.role_eq hseat] at builtin
  cases at_k.turn_eq.2 with
  | errRefused | outRefused | notStarted | notFound | program => cases builtin
  | @builtin _ _ _ b _ found =>
    obtain ⟨answers, follows, told⟩ := course_of_reaches reached hseat rfl
    cases follows with
    | goesOn doing course =>
      -- No builtin is left when the shell has returned.
      obtain ⟨seat, last, same⟩ := Option.map_eq_some_iff.1 doing
      refine absurd ?_ ((held_of_reaches reached).settled (by simp [returned]) k)
      rw [World.role_eq last, (Prod.mk.inj same).1]
      rfl
    | @ended reply ended course =>
      refine ⟨reply, ⟨_, b, answers, List.getElem?_eq_getElem hk, found, course, told⟩, ?_⟩
      have settled := (statuses_of_reaches reached returned).2 k
      rw [ended] at settled
      obtain ⟨fate, fates, same⟩ := Option.map_eq_some_iff.1 settled.symm
      rw [fates]
      cases same
      rfl

end Runner

end PipeShell
