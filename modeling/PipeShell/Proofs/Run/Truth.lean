import PipeShell.Proofs.Host.Attempt
import PipeShell.Proofs.Run.Dialogue
import PipeShell.Proofs.Run.Request
import PipeShell.Proofs.Run.Transparency

/-!
# What `type` tells is true

What a name stands for is settled in the same way by `type` and by the start of a stage.  A stage whose redirections
open is the builtin that was last registered under its name, or the program of the path that `type` tells, or else it
is not found (`Runner.agrees_of_opens`); for redirections make no program and take none away.  `type` says this of each
of its names in turn, and what it says of them decides its status (`Builtin.course_of_sayVerdicts`).
-/

namespace PipeShell

/-! ### The builtin of a name -/

namespace Registry

variable {r : Registry} {b : Builtin} {name : Text}

theorem find?_insert (b : Builtin) (builtins : List Builtin) (name : Text) :
    (insert b builtins).find? (·.name = name) = if b.name = name then some b else builtins.find? (·.name = name) := by
  induction builtins with
  | nil => by_cases own : b.name = name <;> simp [insert, own]
  | cons c cs ih =>
    unfold insert
    split
    · rename_i same
      rw [List.find?_cons, List.find?_cons, same]
      by_cases own : c.name = name <;> simp [own]
    · rename_i other
      split
      · by_cases own : b.name = name <;> simp [own]
      · rw [List.find?_cons, List.find?_cons, ih]
        by_cases own : c.name = name
        · have differs : b.name ≠ name := fun same => other (same.trans own.symm)
          simp [own, differs]
        · simp [own]

theorem find?_register (r : Registry) (b : Builtin) (name : Text) :
    (r.register b).find? name = if b.name = name then some b else r.find? name := find?_insert b r.builtins name

/-- The builtin of a name is the one that was last registered under it. -/
theorem find?_foldl_register (registrations : List Builtin) (r : Registry) (name : Text) :
    (registrations.foldl register r).find? name =
      (registrations.reverse.find? (·.name = name)).or (r.find? name) := by
  induction registrations generalizing r with
  | nil => rfl
  | cons b rest ih =>
    rw [List.foldl_cons, ih, find?_register, List.reverse_cons, List.find?_append, Option.or_assoc]
    by_cases own : b.name = name <;> simp [own]

theorem contains_names (r : Registry) (name : Text) : r.names.contains name = (r.find? name).isSome := by
  rw [Bool.eq_iff_iff, List.contains_iff_mem, names, List.mem_map, find?, List.find?_isSome]
  simp

end Registry

/-! ### Verdicts -/

namespace Builtin

variable {r : Registry} {ctx : Context} {name path : Text} {h : Host}

theorem verdict_eq_builtin_iff : verdict r.names ctx name h = .builtin ↔ (r.find? name).isSome := by
  unfold verdict
  rw [Registry.contains_names]
  split
  · rename_i builtin
    exact iff_of_true rfl builtin
  · rename_i other
    split <;> exact iff_of_false nofun other

theorem verdict_eq_program_iff :
    verdict r.names ctx name h = .program path ↔ r.find? name = none ∧ h.program? ctx name = some path := by
  unfold verdict
  rw [Registry.contains_names]
  cases r.find? name with
  | some b => simp
  | none => cases h.program? ctx name <;> simp

theorem verdict_eq_unknown_iff :
    verdict r.names ctx name h = .unknown ↔ r.find? name = none ∧ h.program? ctx name = none := by
  unfold verdict
  rw [Registry.contains_names]
  cases r.find? name with
  | some b => simp
  | none => cases h.program? ctx name <;> simp

end Builtin

/-! ### Redirections make no programs -/

theorem Host.program?_openTarget {h : Host} (sound : h.Sound) (cwd : Text) (t : Target) (ctx : Context) (name : Text) :
    (h.openTarget cwd t).1.program? ctx name = h.program? ctx name := by
  have attempted := h.attempted_openTarget cwd t
  generalize (h.openTarget cwd t).1 = h' at attempted ⊢
  generalize (h.openTarget cwd t).2 = result at attempted
  cases attempted with
  | discarded => rw [← program?_scene, scene_note, program?_scene]
  | opened _ _ opened =>
    exact ((alikeBut_opened sound (openForWriting_eq_ok_iff.2 opened) []).2.program?_eq ctx name).symm
  | refused => rfl

namespace Runner

variable {σ τ : Type} {r : Runner σ} {ctx : Context} {h h₁ : Host} {s : Stage} {isLast : Bool} {out : Output}
  {err : Destination} {registrations : List Builtin}

theorem program?_openAny (sound : h.Sound) (cwd : Text) (t : Option Target) (name : Text) :
    (openAny h cwd t).1.program? ctx name = h.program? ctx name := by
  cases t with
  | none => rfl
  | some t => exact Host.program?_openTarget sound cwd t ctx name

theorem Opens.program?_eq (opens : Opens r ctx h s isLast h₁ out err) (sound : h.Sound) (name : Text) :
    h₁.program? ctx name = h.program? ctx name := by
  obtain ⟨-, d, second, -⟩ := opens
  have grows := (openAny_grows sound ctx.cwd s.redirections.err).1
  have same : (openAny (openAny h ctx.cwd s.redirections.err).1 ctx.cwd s.redirections.out).1.program? ctx name =
      (openAny h ctx.cwd s.redirections.err).1.program? ctx name := program?_openAny grows.sound _ _ _
  rw [second] at same
  exact same.trans (program?_openAny sound ctx.cwd s.redirections.err name)

/-- A stage whose streams are open takes its seat. -/
theorem Opens.startStage_eq (opens : Opens r ctx h s isLast h₁ out err) (input : Join) :
    r.startStage h ctx s input isLast = r.seatStage h₁ ctx s out err input := by
  obtain ⟨⟨d, first, rfl⟩, d', second, rfl⟩ := opens
  unfold startStage
  generalize openAny h ctx.cwd s.redirections.err = opened at first second
  obtain ⟨h', result⟩ := opened
  obtain rfl : result = .ok d := first
  dsimp only at second ⊢
  rw [second]

/-- The same shell with other programs. -/
def withPrograms (r : Runner σ) (programs : Programs τ) : Runner τ :=
  ⟨r.registry, programs, r.out, r.err, r.patience⟩

theorem Opens.withPrograms (opens : Opens r ctx h s isLast h₁ out err) (programs : Programs τ) :
    Opens (r.withPrograms programs) ctx h s isLast h₁ out err := ⟨opens.err, opens.out⟩

end Runner

/-- A stage comes of it that the system is asked to start the program at `path`. -/
def Programs.Starts {σ : Type} (programs : Programs σ) (path : Text) (h : Host) (actor : Actor σ) : Prop :=
  ∃ l : Launch, l.path = path ∧
    ((∃ state, programs.start l h = .ok state ∧ actor = .process state) ∨
      ∃ fault, programs.start l h = .error fault ∧ actor = .ended .notStarted)

/-- Programs that do nothing but know what they have been started as. -/
def Programs.recorded : Programs Launch := ⟨fun l _ => .ok l, fun _ => .done (.exited 0)⟩

theorem Programs.starts_recorded {path : Text} {h : Host} {actor : Actor Launch}
    (starts : recorded.Starts path h actor) : ∃ l : Launch, l.path = path ∧ actor = .process l := by
  obtain ⟨l, own, ⟨state, started, actor⟩ | ⟨fault, refused, -⟩⟩ := starts
  · cases started
    exact ⟨l, own, actor⟩
  · cases refused

namespace Runner

variable {σ : Type} {r : Runner σ} {ctx : Context} {h h₁ : Host} {s : Stage} {isLast : Bool} {out : Output}
  {err : Destination} {registrations : List Builtin}

/-- What a stage whose streams are open does, by what `type` tells of its name. -/
inductive Does (r : Runner σ) (ctx : Context) (h : Host) (s : Stage) : Builtin.Verdict → Actor σ → Prop
  | builtin {b : Builtin} (found : r.registry.find? s.name = some b) :
      Does r ctx h s .builtin (.builtin (b.run ⟨s.argv, ctx, r.registry.names⟩))
  | program {path : Text} {actor : Actor σ} (starts : r.programs.Starts path h actor) :
      Does r ctx h s (.program path) actor
  | unknown : Does r ctx h s .unknown (.ended .notFound)

theorem does_seatStage (r : Runner σ) (ctx : Context) (h : Host) (s : Stage) (out : Output) (err : Destination)
    (input : Join) :
    r.Does ctx h s (Builtin.verdict r.registry.names ctx s.name h) (r.seatStage h ctx s out err input).seat.actor := by
  unfold seatStage
  cases found : r.registry.find? s.name with
  | some b =>
    rw [Builtin.verdict_eq_builtin_iff.2 (by rw [found]; rfl)]
    exact .builtin found
  | none =>
    dsimp only
    cases program : h.program? ctx s.name with
    | none =>
      rw [Builtin.verdict_eq_unknown_iff.2 ⟨found, program⟩]
      exact .unknown
    | some path =>
      rw [Builtin.verdict_eq_program_iff.2 ⟨found, program⟩]
      refine .program ⟨launch h ctx s path out err, rfl, ?_⟩
      simp only [seatProgram, launch]
      cases r.programs.start ⟨path, s.argv, h.inherited.setAll ctx.vars, ctx.cwd, out.destination, err⟩ h with
      | ok state => exact .inl ⟨state, rfl, rfl⟩
      | error fault => exact .inr ⟨fault, rfl, rfl⟩

theorem Opens.does (opens : Opens r ctx h s isLast h₁ out err) (sound : h.Sound) (input : Join) :
    r.Does ctx h₁ s (Builtin.verdict r.registry.names ctx s.name h)
      (r.startStage h ctx s input isLast).seat.actor := by
  have same : Builtin.verdict r.registry.names ctx s.name h₁ = Builtin.verdict r.registry.names ctx s.name h := by
    simp only [Builtin.verdict, opens.program?_eq sound]
  rw [opens.startStage_eq, ← same]
  exact r.does_seatStage ctx h₁ s out err input

theorem Does.eq_builtin_iff {v : Builtin.Verdict} {actor : Actor σ} (does : r.Does ctx h s v actor) :
    v = .builtin ↔ ∃ b, r.registry.find? s.name = some b ∧ actor = .builtin (b.run ⟨s.argv, ctx, r.registry.names⟩) := by
  constructor
  · rintro rfl
    cases does with
    | builtin found => exact ⟨_, found, rfl⟩
  · rintro ⟨b, found, run⟩
    cases does with
    | builtin => rfl
    | program starts => obtain ⟨l, -, ⟨_, -, rfl⟩ | ⟨_, -, rfl⟩⟩ := starts <;> cases run
    | unknown => cases run

theorem Does.eq_unknown_iff {v : Builtin.Verdict} {actor : Actor σ} (does : r.Does ctx h s v actor) :
    v = .unknown ↔ actor = .ended .notFound := by
  constructor
  · rintro rfl
    cases does
    rfl
  · rintro rfl
    cases does with
    | program starts => obtain ⟨l, -, ⟨_, -, actor⟩ | ⟨_, -, actor⟩⟩ := starts <;> cases actor
    | unknown => rfl

/-- What `type` tells about the name of a stage agrees with what the stage becomes. -/
structure Agrees (r : Runner σ) (registrations : List Builtin) (ctx : Context) (h : Host) (s : Stage) (isLast : Bool)
    (h₁ : Host) (input : Join) : Prop where
  /-- It is a builtin if the one that was last registered under this name is run. -/
  builtin : Builtin.verdict r.registry.names ctx s.name h = .builtin ↔
    ∃ b, registrations.reverse.find? (·.name = s.name) = some b ∧
      (r.startStage h ctx s input isLast).seat.actor = .builtin (b.run ⟨s.argv, ctx, r.registry.names⟩)
  /-- It is the program of a path if this one is started, whatever the programs are. -/
  program : ∀ path, Builtin.verdict r.registry.names ctx s.name h = .program path ↔
    ∀ {τ : Type} (programs : Programs τ),
      programs.Starts path h₁ ((r.withPrograms programs).startStage h ctx s input isLast).seat.actor
  /-- It is unknown if it is not found. -/
  notFound : Builtin.verdict r.registry.names ctx s.name h = .unknown ↔
    (r.startStage h ctx s input isLast).seat.actor = .ended .notFound

/-- **What `type` tells about the name of a stage is what the stage becomes**, once its streams are open. -/
theorem agrees_of_opens (registered : r.registry = registrations.foldl .register {}) (sound : h.Sound)
    (opens : Opens r ctx h s isLast h₁ out err) (input : Join) : r.Agrees registrations ctx h s isLast h₁ input := by
  have last : r.registry.find? s.name = registrations.reverse.find? (·.name = s.name) := by
    rw [registered, Registry.find?_foldl_register]
    exact Option.or_none
  have does := opens.does sound input
  constructor
  case builtin =>
    rw [← last]
    exact does.eq_builtin_iff
  case program =>
    intro path
    constructor
    · intro told τ programs
      have does : (r.withPrograms programs).Does ctx h₁ s (Builtin.verdict r.registry.names ctx s.name h) _ :=
        (opens.withPrograms programs).does sound input
      rw [told] at does
      cases does with
      | program starts => exact starts
    · intro starts
      -- Programs that know their path tell it apart from all others.
      obtain ⟨l, rfl, actor⟩ := Programs.starts_recorded (starts Programs.recorded)
      have does : (r.withPrograms Programs.recorded).Does ctx h₁ s (Builtin.verdict r.registry.names ctx s.name h) _ :=
        (opens.withPrograms Programs.recorded).does sound input
      rw [actor] at does
      generalize Builtin.verdict r.registry.names ctx s.name h = v at does ⊢
      cases does with
      | program starts =>
        obtain ⟨l', rfl, same⟩ := Programs.starts_recorded starts
        cases same
        rfl
  case notFound => exact does.eq_unknown_iff

end Runner

/-! ### Stages that are not found -/

namespace World

variable {σ : Type} {programs : Programs σ} {w w' : World σ} {party : Party} {i k : Nat} {fate : Fate}

theorem eq_or_eq_of_setActor {a b : Actor σ} (shown : (w.setActor k a).actor? i = some b) :
    w.actor? i = some b ∨ b = a := by
  by_cases own : i = k
  · subst own
    obtain ⟨seat, there, -⟩ := Option.map_eq_some_iff.1 shown
    have hi : i < w.seats.length := by simpa [setActor] using (List.getElem?_eq_some_iff.1 there).1
    rw [actor?_setActor_self w hi] at shown
    exact .inr (Option.some.inj shown).symm
  · rw [actor?_setActor_of_ne w own] at shown
    exact .inl shown

/-- A stage that ends while the pipeline runs has exited. -/
theorem Step.ended_or_exited (step : Step programs w party w') (ended : w'.actor? i = some (.ended fate)) :
    w.actor? i = some (.ended fate) ∨ ∃ code, fate = .exited code := by
  -- A program that goes on has not ended.
  have goes_on : ∀ {k : Nat} {s : Seat σ} {request : Request Finish (Actor σ)} {a : Actor σ} {v : World σ},
      Acts programs w party k s request → a.role = s.actor.role → (v.setActor k a).actor? i = some (.ended fate) →
        v.actor? i = some (.ended fate) := by
    intro k s request a v acts role ended
    rcases eq_or_eq_of_setActor ended with same | rfl
    · exact same
    · exact absurd role.symm acts.role_ne_idle
  -- An actor ends when it is done, or when it is waited for; builtins and processes exit with a code then.
  cases step with
  | @done _ k s result acts =>
    cases result with
    | reply r =>
      rw [finish, actor?_congr (finishBuiltin_seats _ _ _ _)] at ended
      rcases eq_or_eq_of_setActor ended with same | own
      · exact .inl (by simpa [closeEnds] using same)
      · cases own
        exact .inr ⟨_, rfl⟩
    | ending e =>
      rcases eq_or_eq_of_setActor ended with same | own
      · exact .inl (by simpa [closeEnds] using same)
      · cases own
  | read acts given => exact .inl (by simpa [setInput] using goes_on acts (acts.leads _) ended)
  | passed acts target taken => exact .inl (by simpa [setInput] using goes_on acts (acts.leads _) ended)
  | passedPart acts target taken more => exact .inl (by simpa [setInput] using ended)
  | wrote acts | refused acts | broken acts | called acts => exact .inl (goes_on acts (acts.leads _) ended)
  | relayed hk copied => exact .inl (by simpa [setInput] using ended)
  | turned running last => exact .inl ended
  | awaited waiting past =>
    cases pastStage_of_awaitStage? past with
    | noMore | ended => exact .inl ended
    | gone | neverRun =>
      rcases eq_or_eq_of_setActor ended with same | own
      · exact .inl same
      · cases own
        exact .inr ⟨_, rfl⟩
  | joined joining past =>
    rw [actor?_congr (awaitRelay?_seats past)] at ended
    exact .inl ended

/-- A stage that has ended in another way did not start. -/
theorem notFound_iff_of_reaches (reached : Reaches programs w w') :
    w'.actor? i = some (.ended .notFound) ↔ w.actor? i = some (.ended .notFound) := by
  constructor
  · refine fun ended => reached.invariant (I := fun v => v.actor? i = some (.ended .notFound) →
      w.actor? i = some (.ended .notFound)) id (fun before step ended => ?_) ended
    rcases step.ended_or_exited ended with same | ⟨code, exited⟩
    · exact before same
    · cases exited
  · exact fun ended => reached.invariant ended fun before step => step.actor?_of_ended before

end World

namespace Runner

variable {σ : Type} {r : Runner σ} {p : Pipeline} {ctx : Context} {h h₁ host : Host} {s : Stage} {out : Output}
  {err : Destination} {registrations : List Builtin} {k : Nat} {seat : Seat σ} {w : World σ}

theorem At.actor?_start (at_k : r.At p ctx h k s host seat) : (r.start p ctx h).actor? k = some seat.actor := by
  obtain ⟨host', seat', at_k', there⟩ := exists_at r ctx h at_k.stage
  obtain ⟨-, -, rfl⟩ := at_k.unique at_k'
  rw [World.actor?, there]
  rfl

theorem At.actor_eq (at_k : r.At p ctx h k s host seat) :
    seat.actor = (r.startStage host ctx s (r.offeredTo ctx h .absent p.stages k)
      (decide (k + 1 = p.stages.length))).seat.actor := by
  obtain ⟨hs, t, turn, rfl⟩ := at_k
  rw [turns_eq hs turn]

/-- A stage is not found in a run of a pipeline if `type` does not know its name, on the host that it finds. -/
theorem At.notFound_iff (at_k : r.At p ctx h k s host seat)
    (registered : r.registry = registrations.foldl .register {}) (sound : h.Sound) (attached : r.Attached h)
    (opens : Opens r ctx host s (decide (k + 1 = p.stages.length)) h₁ out err)
    (reached : World.Reaches r.programs (r.start p ctx h) w) (returned : w.progress = .returned) :
    w.fates[k]? = some .notFound ↔ Builtin.verdict r.registry.names ctx s.name host = .unknown := by
  have settled := (statuses_of_reaches reached returned).2 k
  have agrees := agrees_of_opens registered (at_k.grows sound attached).sound opens
    (r.offeredTo ctx h .absent p.stages k)
  rw [agrees.notFound, ← at_k.actor_eq]
  calc
    w.fates[k]? = some .notFound ↔ w.actor? k = some (.ended .notFound) := by
      rw [settled, Option.map_eq_some_iff]
      simp
    _ ↔ (r.start p ctx h).actor? k = some (.ended .notFound) := World.notFound_iff_of_reaches reached
    _ ↔ seat.actor = .ended .notFound := by rw [at_k.actor?_start, Option.some.injEq]

/-- A builtin whose streams are open goes through its course, and its stage has the status that it replies. -/
theorem At.exists_course {b : Builtin} (at_k : r.At p ctx h k s host seat) (found : r.registry.find? s.name = some b)
    (sound : h.Sound) (attached : r.Attached h)
    (opens : Opens r ctx host s (decide (k + 1 = p.stages.length)) h₁ out err)
    (reached : World.Reaches r.programs (r.start p ctx h) w) (returned : w.progress = .returned) :
    ∃ answers reply, (b.run ⟨s.argv, ctx, r.registry.names⟩).Course answers (.done reply) ∧
      w.fates[k]? = some (.exited reply.status) ∧ ∀ answer ∈ answers, ∃ (v : World σ) (seat : Seat σ),
        World.Reaches r.programs (r.start p ctx h) v ∧ World.Reaches r.programs v w ∧ v.seats[k]? = some seat ∧
          v.Answers k seat answer := by
  have builtin : (r.start p ctx h).role k = .builtin := by
    have does := opens.does (at_k.grows sound attached).sound (r.offeredTo ctx h .absent p.stages k)
    have told : Builtin.verdict r.registry.names ctx s.name host = .builtin :=
      Builtin.verdict_eq_builtin_iff.2 (by rw [found]; rfl)
    rw [← at_k.actor_eq, told] at does
    rw [World.role, at_k.actor?_start]
    generalize seat.actor = actor at does ⊢
    cases does
    rfl
  obtain ⟨reply, ⟨⟨stage, b', answers, there, found', course, told⟩, status⟩⟩ := exists_replied reached returned builtin
  cases at_k.stage.symm.trans there
  cases found.symm.trans found'
  exact ⟨answers, reply, course, status, told⟩

end Runner

/-! ### Lists of names -/

namespace Builtin

/-- The stream on which a verdict is told. -/
def Verdict.stream : Verdict → StdStream
  | .unknown => .err
  | _ => .out

/-- The line that tells a verdict on a name. -/
def Verdict.line (name : Text) : Verdict → Text
  | .builtin => name ++ " is a shell builtin\n".toList
  | .program path => name ++ " is ".toList ++ path ++ ['\n']
  | .unknown => name ++ ": not found\n".toList

/-- Each name has been told by one line, in order, and its verdict is that on the host that was seen just before. -/
inductive Tells (call : Call) : List Text → List Verdict → List Answered → Prop
  | none : Tells call [] [] []
  | cons {name : Text} {names : List Text} {verdicts : List Verdict} {line rest : List Answered} (host : Host)
      (say : Answered.Say (verdict call.builtins call.context name host).stream
        ((verdict call.builtins call.context name host).line name) line) (later : Tells call names verdicts rest) :
      Tells call (name :: names) (verdict call.builtins call.context name host :: verdicts)
        (.saw host :: (line ++ rest))

variable {call : Call} {names : List Text} {answers : List Answered} {reply : Reply}

/-- How `type` goes on when a line has been told. -/
theorem course_of_line {stream : StdStream} {texts : List Text} {next : Act Reply}
    (course : ((Act.sayAll stream texts).bind fun fault =>
      match fault with
      | some fault => fail fault.parts
      | none => next).Course answers (.done reply)) :
    (∃ line rest, answers = line ++ rest ∧ Answered.Say stream texts.flatten line ∧ next.Course rest (.done reply)) ∨
      reply = { status := 1 } ∧ ∃ answer ∈ answers, answer.fault? ≠ none := by
  obtain ⟨line, rest, fault, rfl, said, after⟩ := course.of_bind
  obtain ⟨on, ⟨rfl, say⟩ | ⟨failed, answer, mem, same⟩⟩ := said.of_sayAll
  · exact .inl ⟨line, rest, rfl, say, after⟩
  · obtain ⟨fault, rfl⟩ := Option.isSome_iff_exists.1 failed
    exact .inr ⟨(course_of_fail after).1, answer, List.mem_append_left _ mem, by simp [same]⟩

/-- **`type` tells each of its names in turn**, and its status says whether one of them is unknown.  A line that cannot be
written ends it. -/
theorem course_of_sayVerdicts {status : Int} (course : (sayVerdicts call status names).Course answers (.done reply)) :
    (∃ verdicts, Tells call names verdicts answers ∧ reply = { status := if .unknown ∈ verdicts then 1 else status }) ∨
      reply = { status := 1 } ∧ ∃ answer ∈ answers, answer.fault? ≠ none := by
  induction names generalizing status answers with
  | nil =>
    obtain ⟨rfl, same⟩ := Act.Course.of_done course
    cases same
    exact .inl ⟨[], .none, by simp⟩
  | cons name names ih =>
    obtain ⟨host, rest, rfl, after⟩ := Act.Course.of_ask course
    have told : (∃ line rest', rest = line ++ rest' ∧
        Answered.Say (verdict call.builtins call.context name host).stream
          ((verdict call.builtins call.context name host).line name) line ∧
        (sayVerdicts call (if verdict call.builtins call.context name host = .unknown then 1 else status) names).Course
          rest' (.done reply)) ∨ reply = { status := 1 } ∧ ∃ answer ∈ rest, answer.fault? ≠ none := by
      cases told : verdict call.builtins call.context name host with
      | builtin | program path | unknown =>
        rw [told] at after
        simpa [Verdict.line, Verdict.stream] using course_of_line after
    rcases told with ⟨line, rest, rfl, say, after⟩ | ⟨failed, answer, mem, fault⟩
    · rcases ih after with ⟨verdicts, tells, same⟩ | ⟨failed, answer, mem, fault⟩
      · refine .inl ⟨_, .cons host say tells, ?_⟩
        rw [same]
        generalize verdict call.builtins call.context name host = v
        by_cases own : v = .unknown
        · simp [own]
        · simp [own, Ne.symm own]
      · exact .inr ⟨failed, answer, List.mem_cons_of_mem _ (List.mem_append_right _ mem), fault⟩
    · exact .inr ⟨failed, answer, List.mem_cons_of_mem _ mem, fault⟩

end Builtin

namespace Runner

/-- What `type` tells is what the shell does. -/
structure TypeTells {σ : Type} (r : Runner σ) (registrations : List Builtin) (ctx : Context) : Prop where
  /-- A verdict on the name of a stage agrees with what becomes of the stage on the same host, once its streams are
  open. -/
  agrees : ∀ {h h₁ : Host} {s : Stage} {isLast : Bool} {out : Output} {err : Destination}, h.Sound →
    Opens r ctx h s isLast h₁ out err → ∀ input, r.Agrees registrations ctx h s isLast h₁ input
  /-- In a run of a pipeline the stage has the status of one that is not found if its name is unknown. -/
  notFound : ∀ {p : Pipeline} {h h₁ host : Host} {k : Nat} {s : Stage} {seat : Seat σ} {out : Output}
    {err : Destination} {w : World σ}, h.Sound → r.Attached h → r.At p ctx h k s host seat →
      Opens r ctx host s (decide (k + 1 = p.stages.length)) h₁ out err →
        World.Reaches r.programs (r.start p ctx h) w → w.progress = .returned →
          (w.fates[k]? = some .notFound ↔ Builtin.verdict r.registry.names ctx s.name host = .unknown)
  /-- `type` comes to its end in every run of a pipeline, with the status of its stage, and it sees the host as it is. -/
  replies : ∀ {p : Pipeline} {h h₁ host : Host} {k : Nat} {s : Stage} {seat : Seat σ} {out : Output}
    {err : Destination} {w : World σ}, h.Sound → r.Attached h → r.At p ctx h k s host seat →
      r.registry.find? s.name = some Builtin.type →
        Opens r ctx host s (decide (k + 1 = p.stages.length)) h₁ out err →
          World.Reaches r.programs (r.start p ctx h) w → w.progress = .returned →
            ∃ answers reply, (Builtin.type.run ⟨s.argv, ctx, r.registry.names⟩).Course answers (.done reply) ∧
              w.fates[k]? = some (.exited reply.status) ∧ ∀ answer ∈ answers, ∃ (v : World σ) (seat : Seat σ),
                World.Reaches r.programs (r.start p ctx h) v ∧ World.Reaches r.programs v w ∧ v.seats[k]? = some seat ∧
                  v.Answers k seat answer
  /-- On its way there it tells its names, one line for each of them in order, and the status says whether one of them is
  unknown, as long as everything can be written. -/
  lines : ∀ {argv names : List Text} {answers : List Answered} {reply : Reply},
    Builtin.typeForm.read [] argv.tail = .accepted names →
      (Builtin.type.run ⟨argv, ctx, r.registry.names⟩).Course answers (.done reply) →
        (∀ answer ∈ answers, answer.fault? = none) →
          ∃ verdicts, Builtin.Tells ⟨argv, ctx, r.registry.names⟩ names verdicts answers ∧
            (reply.status = 1 ↔ .unknown ∈ verdicts) ∧ (reply.status = 0 ↔ .unknown ∉ verdicts)

/-- **`type` tells the truth about the shell.** -/
theorem type_tells {σ : Type} {r : Runner σ} {registrations : List Builtin}
    (registered : r.registry = registrations.foldl .register {}) (ctx : Context) : r.TypeTells registrations ctx where
  agrees sound opens input := agrees_of_opens registered sound opens input
  notFound sound attached at_k opens reached returned :=
    at_k.notFound_iff registered sound attached opens reached returned
  replies sound attached at_k found opens reached returned :=
    at_k.exists_course found sound attached opens reached returned
  lines := by
    intro argv names answers reply accepted course taken
    have course : (Builtin.sayVerdicts ⟨argv, ctx, r.registry.names⟩ 0 names).Course answers (.done reply) := by
      simpa [Builtin.type, Builtin.ofForm, accepted] using course
    rcases Builtin.course_of_sayVerdicts course with ⟨verdicts, tells, rfl⟩ | ⟨-, answer, mem, fault⟩
    · refine ⟨verdicts, tells, ?_⟩
      by_cases unknown : .unknown ∈ verdicts <;> simp [unknown]
    · exact absurd (taken answer mem) fault

/-- A shell in which another builtin has been registered as `cd`. -/
def reregistered : Runner Unit where
  registry := [Builtin.cd, Builtin.type, ⟨['c', 'd'], fun _ => .done { status := 3 }⟩].foldl .register {}
  programs := ⟨fun _ _ => .error .brokenPipe, fun _ => .done (.exited 0)⟩

/-- There `type cd x` tells that `cd` is a builtin and `x` is unknown. -/
theorem type_tells_reregistered :
    reregistered.registry =
        [Builtin.cd, Builtin.type, ⟨['c', 'd'], fun _ => .done { status := 3 }⟩].foldl .register {} ∧
      reregistered.TypeTells [Builtin.cd, Builtin.type, ⟨['c', 'd'], fun _ => .done { status := 3 }⟩] {} ∧
      ∃ answers reply verdicts,
        (Builtin.type.run ⟨["type".toList, ['c', 'd'], ['x']], {}, reregistered.registry.names⟩).Course answers
          (.done reply) ∧
        (∀ answer ∈ answers, answer.fault? = none) ∧
        Builtin.Tells ⟨["type".toList, ['c', 'd'], ['x']], {}, reregistered.registry.names⟩ [['c', 'd'], ['x']]
          verdicts answers ∧
        reply.status = 1 ∧ .unknown ∈ verdicts := by
  have tells := type_tells (r := reregistered) rfl {}
  obtain ⟨answers, course, taken⟩ : ∃ answers,
      (Builtin.type.run ⟨["type".toList, ['c', 'd'], ['x']], {}, reregistered.registry.names⟩).Course answers
        (.done { status := 1 }) ∧ ∀ answer ∈ answers, answer.fault? = none :=
    ⟨_, (Act.Heeds.saw {}).cons ((Act.Heeds.wrote none).cons ((Act.Heeds.wrote none).cons
      ((Act.Heeds.saw {}).cons ((Act.Heeds.wrote none).cons ((Act.Heeds.wrote none).cons .start))))),
      by simp [Answered.fault?]⟩
  obtain ⟨verdicts, told, status, -⟩ := tells.lines rfl course taken
  exact ⟨rfl, tells, answers, _, verdicts, course, taken, told, rfl, status.1 rfl⟩

end Runner

end PipeShell
