import PipeShell.Proofs.Run.Truth
import PipeShell.Proofs.Session

/-!
# A builtin without redirections

A stage that is a builtin, and has no redirections, starts whatever the host is.  As the only stage of a line it is run
at once, on a host that has heard of its start (`Runner.alone`), and every execution of the line leaves what it leaves
(`Session.Executes.of_alone`); a few steps more than it takes itself are enough (`Session.execute_of_alone`), and one
that refuses its words takes hardly any (`Builtin.steps_fail_le`).  Among other stages it comes to a reply too
(`Runner.exists_replied_of_found`).
-/

namespace PipeShell

/-- As many steps are taken as there are texts to write, at most, and one for the end. -/
theorem Act.steps_sayAll_le {ρ : Type} {stream : StdStream} {texts : List Text} {f : Option Fault → Act ρ}
    (last : ∀ fault w, (f fault).steps w ≤ 1) (w : Surroundings) :
    ((sayAll stream texts).bind f).steps w ≤ texts.length + 1 := by
  induction texts generalizing w with
  | nil => exact last none w
  | cons text texts ih =>
    rw [sayAll]
    split
    · exact (ih w).trans (Nat.succ_le_succ (Nat.le_succ _))
    · simp only [bind, steps, List.length_cons]
      split
      · exact Nat.succ_le_succ (ih _)
      · rename_i fault _
        exact Nat.succ_le_succ ((last (some fault) w).trans (Nat.le_add_left _ _))

theorem Builtin.steps_fail_le (message : List Text) (w : Surroundings) :
    (fail message).steps w ≤ message.length + 2 := by
  have last : ∀ (_ : Option Fault) w, (Act.done ({ status := 1 } : Reply)).steps w ≤ 1 := fun _ _ => Nat.le_refl 1
  have steps : (fail message).steps w ≤ (message ++ [['\n']]).length + 1 := Act.steps_sayAll_le last w
  rwa [List.length_append] at steps

namespace Runner

variable {σ : Type} {r : Runner σ} {p : Pipeline} {ctx : Context} {h : Host} {argv : List Text} {b : Builtin}
  {w : World σ} {k : Nat}

/-- The builtin is run with nobody beside, where the shell shows its output. -/
def alone (r : Runner σ) (b : Builtin) (argv : List Text) (ctx : Context) (h : Host) : Reply × Surroundings :=
  Task.perform ⟨b.run ⟨argv, ctx, r.registry.names⟩, .to r.out, r.err⟩
    (h.note .debug ("stage ".toList ++ Stage.name ⟨argv, {}⟩ ++ ": builtin".toList)) none

/-- What the builtin leaves behind. -/
def upshotAlone (r : Runner σ) (b : Builtin) (argv : List Text) (ctx : Context) (h : Host) : Summary × Host :=
  let reply := (r.alone b argv ctx h).1
  (⟨[.exited reply.status], reply.directory, reply.exit⟩,
    (r.alone b argv ctx h).2.host.note .debug
      ("builtin ".toList ++ Stage.name ⟨argv, {}⟩ ++ " exited with ".toList ++ showInt reply.status))

theorem prepareAll_of_found (found : r.registry.find? (Stage.name ⟨argv, {}⟩) = some b) :
    r.prepareAll ctx h false [⟨argv, {}⟩] =
      some (h.note .debug ("stage ".toList ++ Stage.name ⟨argv, {}⟩ ++ ": builtin".toList),
        [⟨Stage.name ⟨argv, {}⟩, .ok ⟨b.run ⟨argv, ctx, r.registry.names⟩, .to r.out, r.err⟩⟩]) := by
  refine prepareAll_singleton ?_
  simp [prepare, refusal?, openBoth, openAny, found]

theorem inOrder_of_found (found : r.registry.find? (Stage.name ⟨argv, {}⟩) = some b) :
    r.inOrder ⟨[⟨argv, {}⟩]⟩ ctx h = some (r.upshotAlone b argv ctx h) := by
  rw [inOrder, prepareAll_of_found found]
  rfl

/-- The builtin takes its own steps, and the shell a few more. -/
theorem work_start_of_found (found : r.registry.find? (Stage.name ⟨argv, {}⟩) = some b) :
    (r.start ⟨[⟨argv, {}⟩]⟩ ctx h).work = (b.run ⟨argv, ctx, r.registry.names⟩).steps
      { host := h.note .debug ("stage ".toList ++ Stage.name ⟨argv, {}⟩ ++ ": builtin".toList)
        input := { hasWriter := false }, out := .to r.out, err := .to r.err } + 6 := by
  rw [start_eq (prepareAll_of_found found)]
  rfl

/-- It starts as any stage of a pipeline. -/
theorem role_of_found (stage : p.stages[k]? = some ⟨argv, {}⟩)
    (found : r.registry.find? (Stage.name ⟨argv, {}⟩) = some b) : (r.start p ctx h).role k = .builtin := by
  obtain ⟨host, seat, at_k, there⟩ := exists_at r ctx h stage
  rw [World.role_eq there, at_k.actor_eq]
  simp [startStage, openAny, seatStage, found, seatBuiltin, Actor.role]

/-- It replies when the shell has returned. -/
theorem exists_replied_of_found (stage : p.stages[k]? = some ⟨argv, {}⟩)
    (found : r.registry.find? (Stage.name ⟨argv, {}⟩) = some b)
    (reached : World.Reaches r.programs (r.start p ctx h) w) (returned : w.progress = .returned) :
    ∃ answers reply, (b.run ⟨argv, ctx, r.registry.names⟩).Course answers (.done reply) ∧
      w.fates[k]? = some (.exited reply.status) := by
  obtain ⟨reply, ⟨stage', b', answers, stage'_eq, found', course, -⟩, status⟩ :=
    exists_replied reached returned (role_of_found stage found)
  cases stage.symm.trans stage'_eq
  cases found.symm.trans found'
  exact ⟨answers, reply, course, status⟩

end Runner

namespace Session

variable {σ : Type} {r : Runner σ} {s s' : Session} {h h' : Host} {line : Text} {argv : List Text} {b : Builtin}
  {patience : Nat}

theorem settle_of_inOrder {p : Pipeline} {w : World σ} {prepared : Host × List Prepared} {result : Summary × Host}
    (ready : r.prepareAll s.environment.context h false p.stages = some prepared)
    (inOrder : r.inOrder p s.environment.context h = some result)
    (reached : World.Reaches r.programs (r.start p s.environment.context h) w) (returned : w.progress = .returned) :
    s.settle w.host w.summary = s.settle result.2 result.1 := by
  obtain ⟨simple, same⟩ := (Runner.simple_start ready).of_reaches reached
  obtain rfl := Option.some.inj ((Runner.inOrder_eq ready).symm.trans inOrder)
  rw [← same, simple.upshot_of_returned returned]
  rfl

/-- Whatever the order of steps, a line comes out as its only builtin does. -/
theorem Executes.of_alone (parsed : Pipeline.ofLine line = .ok (some ⟨[⟨argv, {}⟩]⟩))
    (found : r.registry.find? (Stage.name ⟨argv, {}⟩) = some b) (executes : s.Executes r h line s' h') :
    (s', h') = s.settle (r.upshotAlone b argv s.environment.context h).2
      (r.upshotAlone b argv s.environment.context h).1 := by
  cases executes with
  | refused parsed' | blank parsed' => cases parsed.symm.trans parsed'
  | ran parsed' reached returned =>
    cases parsed.symm.trans parsed'
    exact settle_of_inOrder (Runner.prepareAll_of_found found) (Runner.inOrder_of_found found) reached returned

/-- With the patience for a few steps more than those of the builtin, the line is executed. -/
theorem execute_of_alone (parsed : Pipeline.ofLine line = .ok (some ⟨[⟨argv, {}⟩]⟩))
    (found : r.registry.find? (Stage.name ⟨argv, {}⟩) = some b)
    (enough : (r.start ⟨[⟨argv, {}⟩]⟩ s.environment.context h).work ≤ r.patience) :
    s.execute r line h = some (s.settle (r.upshotAlone b argv s.environment.context h).2
      (r.upshotAlone b argv s.environment.context h).1) := by
  have ready : r.prepareAll s.environment.context h false [⟨argv, {}⟩] = some _ := Runner.prepareAll_of_found found
  obtain ⟨w, ran⟩ := (Runner.simple_start ready).exists_run r.programs enough
  have executed : s.execute r line h = some (s.settle w.host w.summary) := by
    simp only [execute, parsed, Runner.run, ran]
    rfl
  exact executed.trans (congrArg some (Executes.of_alone parsed found (executes_of_execute executed)))

end Session

end PipeShell
