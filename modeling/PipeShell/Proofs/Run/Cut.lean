import PipeShell.Proofs.Run.Refusal
import PipeShell.Proofs.Run.Return

/-!
# Cutting a pipeline

A stage that does not start offers nothing to the next one.  So the stages behind it are started as if there were
nothing in front of them, and those in front of it as if it were the last one: `Runner.startStages_cut`.  Both are parts
of the pipeline (`Runner.part_front`, `Runner.part_back`).

A builtin in front of such a stage could as well be the last one, with an output that goes nowhere
(`Runner.part_thrown`): what it writes is taken in full, and thrown away.
-/

namespace PipeShell

namespace World

variable {σ : Type} {w : World σ}

theorem Fit.with_host (fit : w.Fit) (host : Host) : { w with host }.Fit :=
  ⟨fit.held.with_host host, fit.first, fit.unbounded, fit.past⟩

end World

namespace Runner

variable {σ : Type} {r : Runner σ} {ctx : Context} {h g : Host} {input : Join} {before after stages : List Stage}
  {b s : Stage} {k : Nat}

/-- The stages of a pipeline, started on the host `h`, with the host `g` to run on.  That is the host that the start
leaves, or a later one where more stages have been started in between. -/
def startedOn (r : Runner σ) (stages : List Stage) (ctx : Context) (h g : Host) : World σ :=
  { r.start ⟨stages⟩ ctx h with host := g }

theorem length_startedOn : (r.startedOn stages ctx h g).seats.length = stages.length :=
  (wired r ⟨stages⟩ ctx h).seats.1

theorem oblivious_start (oblivious : r.registry.Oblivious) (p : Pipeline) : (r.start p ctx h).Oblivious := by
  refine all_start (P := Actor.Oblivious) oblivious (fun a other => ?_) p ctx h
  cases a with
  | builtin => exact absurd rfl other
  | process | gone | ended => trivial

theorem fit_startedOn (r : Runner σ) (stages : List Stage) (ctx : Context) (h g : Host) :
    (r.startedOn stages ctx h g).Fit :=
  (fit_start r ⟨stages⟩ ctx h).with_host g

theorem sound_startedOn (pure : r.programs.Oblivious) (oblivious : r.registry.Oblivious) (stages : List Stage)
    (ctx : Context) (h g : Host) : (r.startedOn stages ctx h g).Sound r.programs :=
  ⟨pure, (oblivious_start oblivious ⟨stages⟩).congr rfl, fit_startedOn r stages ctx h g⟩

/-! ### The cut -/

/-- A stage that does not start does the same as the last stage. -/
theorem startStage_of_idle (pure : r.programs.Oblivious) {isLast : Bool}
    (idle : (r.startStage h ctx s input isLast).seat.actor.role = .idle) (isLast' : Bool) :
    r.startStage h ctx s input isLast' = r.startStage h ctx s input isLast ∧
      (r.startStage h ctx s input isLast).offer = .absent := by
  obtain ⟨refusal, refused⟩ := (exists_refusal?_iff input).2 idle
  have refused' := refused
  rw [refusal?_of_blind pure.start isLast isLast'] at refused'
  rw [startStage_of_refusal? refused, startStage_of_refusal? refused']
  exact ⟨rfl, rfl⟩

/-- The stages before one that does not start are started as if it were the last one, and those behind it as if there
were none before them. -/
theorem startStages_cut (pure : r.programs.Oblivious)
    (idle : ((r.startStages ctx h input (before ++ s :: after)).2[before.length]?.map (·.actor.role)) = some .idle) :
    let front := r.startStages ctx h input (before ++ [s])
    let back := r.startStages ctx front.1 .absent after
    r.startStages ctx h input (before ++ s :: after) = (back.1, front.2 ++ back.2) := by
  induction before generalizing h input with
  | nil =>
    simp only [List.nil_append, startStages, List.length_nil, List.getElem?_cons_zero, Option.map_some,
      Option.some.injEq] at idle ⊢
    obtain ⟨same, none⟩ := startStage_of_idle pure idle true
    have isEmpty : ([] : List Stage).isEmpty = true := rfl
    rw [isEmpty, same, none]
    rfl
  | cons b before ih =>
    have more : (before ++ s :: after).isEmpty = false := by simp
    have more' : (before ++ [s]).isEmpty = false := by simp
    simp only [List.cons_append, startStages, more, more', List.length_cons, List.getElem?_cons_succ] at idle ⊢
    rw [ih idle]

/-- Where nothing is behind a stage and its output goes nowhere, it does the same as where something is. -/
theorem startStage_nowhere (r : Runner σ) (h : Host) (ctx : Context) (b : Stage) (input : Join) :
    let t := r.startStage h ctx b input false
    let t' := { r with out := .nowhere }.startStage h ctx b input true
    t'.seat = { t.seat with out := t.seat.out.via (.to .nowhere) } ∧ t'.host = t.host := by
  simp only [startStage_of_openBoth, openBoth]
  rcases openAny h ctx.cwd b.redirections.err with ⟨h₁, failure | d⟩
  · exact ⟨rfl, rfl⟩
  · dsimp only
    rcases openAny h₁ ctx.cwd b.redirections.out with ⟨h₂, failure | d'⟩
    · exact ⟨rfl, rfl⟩
    · -- The system is told the same in both cases.
      have told : ((d'.map Output.to).getD (.to .nowhere)).destination = ((d'.map Output.to).getD .nextStage).destination := by
        cases d' <;> rfl
      have out : (d'.map Output.to).getD (.to .nowhere) = ((d'.map Output.to).getD .nextStage).via (.to .nowhere) := by
        cases d' <;> rfl
      simp only [seatStage, if_true, Bool.false_eq_true, if_false]
      cases r.registry.find? b.name with
      | some builtin => exact ⟨by simp [seatBuiltin, out], rfl⟩
      | none =>
        dsimp only
        cases h₂.program? ctx b.name with
        | none => exact ⟨rfl, rfl⟩
        | some path =>
          simp only [seatProgram, told]
          split
          · exact ⟨rfl, rfl⟩
          · exact ⟨by simp only [out], rfl⟩

/-- To the last of `n` stages, nothing is behind it. -/
def nowhereBehind (n k : Nat) : Output := if k + 1 = n then .to .nowhere else .nextStage

/-- The stages before the last one are started as if there were no more of them and their output went nowhere. -/
theorem startStages_nowhere {t : Seat σ} (hk : k < before.length)
    (seat : (r.startStages ctx h input (before ++ [s])).2[k]? = some t) :
    ({ r with out := .nowhere }.startStages ctx h input before).2[k]? =
      some { t with out := t.out.via (nowhereBehind before.length k) } := by
  induction before generalizing h input k with
  | nil => cases hk
  | cons b before ih =>
    cases before with
    | nil =>
      obtain rfl : k = 0 := by simpa using hk
      obtain ⟨same, -⟩ := startStage_nowhere r h ctx b input
      simp only [List.cons_append, List.nil_append, startStages, List.getElem?_cons_zero, Option.some.injEq] at seat
      subst seat
      simp only [startStages, List.getElem?_cons_zero]
      exact congrArg some same
    | cons c before =>
      have first : { r with out := .nowhere }.startStage h ctx b input false = r.startStage h ctx b input false := rfl
      have more : (c :: before).isEmpty = false := rfl
      have more' : (c :: before ++ [s]).isEmpty = false := rfl
      rw [List.cons_append, startStages, more'] at seat
      rw [startStages, more, first]
      cases k with
      | zero =>
        simp only [List.getElem?_cons_zero, Option.some.injEq] at seat ⊢
        subst seat
        simp [nowhereBehind]
      | succ k =>
        simp only [List.getElem?_cons_succ] at seat ⊢
        rw [ih (by simpa using hk) seat]
        simp [nowhereBehind]

/-! ### The parts -/

theorem seats_cut (pure : r.programs.Oblivious)
    (idle : (r.startedOn (before ++ s :: after) ctx h g).role before.length = .idle) :
    (r.startedOn (before ++ s :: after) ctx h g).seats = (r.startedOn (before ++ [s]) ctx h g).seats ++
        (r.startedOn after ctx (r.start ⟨before ++ [s]⟩ ctx h).host g).seats ∧
      (r.start ⟨before ++ s :: after⟩ ctx h).host = (r.start ⟨after⟩ ctx (r.start ⟨before ++ [s]⟩ ctx h).host).host := by
  have hk : before.length < (r.startedOn (before ++ s :: after) ctx h g).seats.length := by
    rw [length_startedOn]
    simp
  have seat : (r.startStages ctx h .absent (before ++ s :: after)).2[before.length]? = _ := List.getElem?_eq_getElem hk
  rw [World.role_eq (List.getElem?_eq_getElem hk)] at idle
  have first : (r.startStages ctx h .absent (before ++ s :: after)).2[before.length]?.map (·.actor.role) = some .idle := by
    rw [seat]
    exact congrArg some idle
  have cut := startStages_cut pure first
  simp only [startedOn, start, cut, and_self]

/-- The stages up to one that does not start. -/
theorem part_front (pure : r.programs.Oblivious) (oblivious : r.registry.Oblivious)
    (idle : (r.startedOn (before ++ s :: after) ctx h g).role before.length = .idle) :
    World.Part r.programs Output.onward 0 (r.startedOn (before ++ [s]) ctx h g)
      (r.startedOn (before ++ s :: after) ctx h g) where
  window := World.Window.of_seats (fun k hk => by
    rw [(seats_cut pure idle).1, Nat.zero_add, List.getElem?_append_left hk]) rfl
  part := sound_startedOn pure oblivious _ ctx h g
  whole := sound_startedOn pure oblivious _ ctx h g
  fence i hi := by omega
  meets {v w k t} reached length window hk seat runs out := by
    rw [length_startedOn, List.length_append, List.length_singleton] at length
    refine window.meets rfl ?_
    by_cases last : k = before.length
    · -- That is the stage that does not start.
      subst last
      have ended := World.role_eq_idle_of_reaches reached idle
      rw [Nat.zero_add] at seat
      exact absurd (by rw [← World.role_eq seat, ended]) runs
    · rw [window.input_eq (by omega)]
      rfl

/-- The stages behind one that does not start. -/
theorem part_back (pure : r.programs.Oblivious) (oblivious : r.registry.Oblivious)
    (idle : (r.startedOn (before ++ s :: after) ctx h g).role before.length = .idle) :
    World.Part r.programs Output.onward (before.length + 1)
      (r.startedOn after ctx (r.start ⟨before ++ [s]⟩ ctx h).host g) (r.startedOn (before ++ s :: after) ctx h g) where
  window := World.Window.of_seats (fun k hk => by
    have front : (r.startedOn (before ++ [s]) ctx h g).seats.length = before.length + 1 := by simp [length_startedOn]
    rw [(seats_cut pure idle).1, ← front, List.getElem?_append_right (Nat.le_add_right _ _), Nat.add_sub_cancel_left]) rfl
  part := sound_startedOn pure oblivious _ ctx _ g
  whole := sound_startedOn pure oblivious _ ctx h g
  fence i hi := by
    obtain rfl : i = before.length := by omega
    exact idle
  meets {v w k t} reached length window hk seat runs out := by
    refine window.meets rfl ?_
    by_cases last : k + 1 < v.seats.length
    · exact window.input_eq last
    · have whole := World.length_of_reaches reached
      rw [length_startedOn] at length whole
      rw [List.length_append, List.length_cons] at whole
      rw [World.input_of_le (by omega), World.input_of_le (by omega)]

/-! ### What is thrown away -/

/-- Behind a stage that is not a program and before one that did not start, a join leads nowhere, and all that goes in
is thrown away. -/
theorem input_last (other : ∀ i, i + 1 = before.length → (r.startedOn (before ++ [s]) ctx h g).role i ≠ .program)
    (idle : (r.startedOn (before ++ [s]) ctx h g).role before.length = .idle) :
    ((r.startedOn (before ++ [s]) ctx h g).input before.length).IsPlain ∧
      ((r.startedOn (before ++ [s]) ctx h g).input before.length).leadsOn = false := by
  obtain ⟨host', seat', at_last, hseat'⟩ :=
    exists_at (p := ⟨before ++ [s]⟩) (i := before.length) (s := s) r ctx h (by simp)
  rw [show (r.startedOn (before ++ [s]) ctx h g).input before.length = seat'.input from World.input_eq hseat']
  have idle' : seat'.actor.role = .idle := (World.role_eq hseat').symm.trans idle
  generalize last : before.length = n at at_last other
  cases n with
  | zero =>
    rw [at_last.input_zero]
    exact ⟨trivial, rfl⟩
  | succ i =>
    have hi : i < (before ++ [s]).length := by
      rw [List.length_append]
      omega
    obtain ⟨host, seat, at_i, hseat⟩ := exists_at (p := ⟨before ++ [s]⟩) r ctx h (List.getElem?_eq_getElem hi)
    have notProgram : seat.actor.role ≠ .program := fun program => other i rfl ((World.role_eq hseat).trans program)
    rw [at_i.input_succ at_last, idle']
    split
    · cases role : seat.actor.role with
      | program => exact absurd role notProgram
      | builtin => exact ⟨.inl rfl, rfl⟩
      | idle => exact ⟨trivial, rfl⟩
    · exact ⟨trivial, rfl⟩

/-- All along, the join takes everything at once. -/
theorem exists_write?_last (pure : r.programs.Oblivious) (oblivious : r.registry.Oblivious)
    (other : ∀ i, i + 1 = before.length → (r.startedOn (before ++ [s]) ctx h g).role i ≠ .program)
    (idle : (r.startedOn (before ++ [s]) ctx h g).role before.length = .idle) {w : World σ}
    (reached : World.Reaches r.programs (r.startedOn (before ++ [s]) ctx h g) w) :
    (w.input before.length).IsPlain ∧ ∀ k, k + 1 = before.length → w.runs k = true →
      ∀ data, ∃ j, (w.input (k + 1)).write? data = some (.ok ([], j)) := by
  obtain ⟨plain, leads⟩ := input_last other idle
  have fit : w.Fit := ((sound_startedOn pure oblivious _ ctx h g).of_reaches reached).fit
  have wiring := World.wiring_of_reaches reached
  have plain' : (w.input before.length).IsPlain := by
    refine (reached.invariant (I := fun v => v.Fit ∧ (v.input before.length).IsPlain)
      ⟨(sound_startedOn pure oblivious _ ctx h g).fit, plain⟩ fun {v v' party} ⟨fit, plain⟩ step => ⟨step.fit fit, ?_⟩).2
    cases length : before.length with
    | zero =>
      rw [(step.fit fit).first]
      trivial
    | succ i =>
      rw [length] at plain
      exact plain.moves (fit.held.joins i) (step.moves fit.held i)
  refine ⟨plain', fun k last runs data => ?_⟩
  have held := fit.held.joins k
  rw [runs] at held
  rw [← last] at plain' leads
  refine plain'.exists_write? held (fun leads' => ?_) data
  rw [← Join.leadsOn_fresh, World.input_fresh_eq wiring, Join.leadsOn_fresh, leads] at leads'
  cases leads'

/-- The stages before one that does not start, with an output that goes nowhere. -/
theorem part_thrown (pure : r.programs.Oblivious) (oblivious : r.registry.Oblivious)
    (other : ∀ i, i + 1 = before.length → (r.startedOn (before ++ [s]) ctx h g).role i ≠ .program)
    (idle : (r.startedOn (before ++ [s]) ctx h g).role before.length = .idle) :
    World.Part r.programs (nowhereBehind before.length) 0 ({ r with out := .nowhere }.startedOn before ctx h g)
      (r.startedOn (before ++ [s]) ctx h g) where
  window := by
    refine ⟨rfl, fun k t' seat' => ?_⟩
    have hk := (List.getElem?_eq_some_iff.1 seat').1
    rw [length_startedOn] at hk
    have hk' : k < (r.startedOn (before ++ [s]) ctx h g).seats.length := by
      rw [length_startedOn, List.length_append]
      omega
    have seat := List.getElem?_eq_getElem hk'
    have thrown : ({ r with out := .nowhere }.startedOn before ctx h g).seats[k]? = _ := startStages_nowhere hk seat
    rw [thrown] at seat'
    cases seat'
    rw [Nat.zero_add]
    exact ⟨_, seat, rfl, rfl, rfl, rfl, fun _ => rfl⟩
  part := by
    have sound := sound_startedOn (r := { r with out := .nowhere }) pure oblivious before ctx h g
    exact sound
  whole := sound_startedOn pure oblivious _ ctx h g
  fence i hi := by omega
  meets {v w k t} reached length window hk seat runs out := by
    rw [length_startedOn] at length
    by_cases last : k + 1 = before.length
    · intro data
      have own : w.runs k = true := by
        rw [Nat.zero_add] at seat
        simpa [World.runs, World.role_eq seat] using runs
      obtain ⟨j, taken⟩ := (exists_write?_last pure oblivious other idle reached).2 k last own data
      have nowhere : nowhereBehind before.length k = .to .nowhere := if_pos last
      simp only [World.serveWrite, nowhere, Host.write, Nat.zero_add, taken]
      refine .some ⟨window.frame (fun i hi => ?_) rfl, rfl⟩
      have other : k + 1 ≠ i := by omega
      simp [World.setInput, World.modifyInput, other]
    · refine window.meets (if_neg last) ?_
      rw [window.input_eq (by omega)]
      rfl

end Runner

end PipeShell
