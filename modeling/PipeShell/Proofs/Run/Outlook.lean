import Mathlib.Algebra.GroupWithZero.Nat
import PipeShell.Proofs.Run.Alone
import PipeShell.Proofs.Run.Flow

/-!
# What will become of the stages

While builtins run, what will become of them is settled: the one whose turn it is goes on to its end, and those behind
it follow, each on what is in its join already and on what is still to be written there.  `Outlook.of` computes this
for the stages of a running pipeline.  It is the same before and after each request of a builtin
(`Outlook.falls_of_goesOn`, `Outlook.falls_of_done`) and each step of a relay that drains a join (`Outlook.of_modify`),
and `Outlook.work`, a bound for the steps that are left, falls.
-/

namespace PipeShell

namespace Join

/-- What is read from a join when `late` has been written to it as well and the earlier stage has ended. -/
def toRead (j : Join) (late : List Bytes) : Channel :=
  match j with
  | .channel c => { c with chunks := c.chunks ++ late, hasWriter := false }
  | _ => { hasWriter := false }

/-- What is thrown away in a join when `late` has been written to it as well. -/
def drained? (j : Join) (late : List Bytes) : Option (Text × Nat) :=
  match j with
  | .draining c r => some (r.label, r.copied + c.unread.length + late.flatten.length)
  | _ => none

/-- The steps that the relay of a join takes at most when `late` has been written to it as well. -/
def toDrain (j : Join) (late : List Bytes) : Nat :=
  match j with
  | .draining c r => c.unread.length + late.flatten.length + r.copies.toNat
  | _ => 0

end Join

/-- The fate of a stage that has ended. -/
def Actor.fate {σ : Type} : Actor σ → Fate
  | .ended fate => fate
  | _ => .exited 0

/-- What will become of stages, and the number of steps that this takes at most. -/
structure Outlook where
  tally : Tally
  results : List Result
  work : Nat

/-- The outlook with one more stage in front. -/
def Outlook.cons (result : Result) (work : Nat) (o : Outlook) : Outlook :=
  ⟨o.tally, result :: o.results, work + o.work⟩

section Outlooks

variable {σ : Type}

/-- The surroundings in which the builtin of a stage runs to its end. -/
def Seat.surroundings (s : Seat σ) (h : Host) (late : List Bytes) : Surroundings :=
  { host := h, input := s.input.toRead late, out := s.out.outlet, err := .to s.err }

/-- What will become of these stages, to the first of which `late` is still to be written. -/
def Outlook.of (isOnly : Bool) (t : Tally) (late : List Bytes) : List (Seat σ) → Outlook
  | [] => ⟨t, [], 0⟩
  | s :: rest =>
    match s.actor with
    | .builtin act =>
      let w := s.surroundings t.host late
      let done := act.runAlone w
      (of isOnly ({ t with host := done.2.host }.conclude isOnly s.name done.1) (done.2.out.passed.getD []) rest).cons
        ⟨.exited done.1.status, none⟩ (act.steps w)
    | .process _ | .gone _ | .ended _ =>
      (of isOnly t [] rest).cons ⟨s.actor.fate, s.input.drained? late⟩ (s.input.toDrain late)

end Outlooks

/-! ### Joins without programs -/

namespace Join

variable {j j' : Join} {writes reads : Bool} {given taken : Bytes} {late : List Bytes}

/-- A join in a pipeline without programs.  One that is drained to its end holds nothing, and nothing will come. -/
def IsPlain : Join → Prop
  | .absent | .channel _ => True
  | .draining c r => r.state = .copying ∨ r.state = .finished ∧ c.unread = [] ∧ c.hasWriter = false
  | _ => False

theorem IsPlain.of_relays (relays : j.Relays j') (plain : j.IsPlain) :
    j'.IsPlain ∧ ∀ late, j'.drained? late = j.drained? late ∧ j'.toDrain late < j.toDrain late := by
  cases relays with
  | feedRead | feedEnd | feedWrite | feedBroken | collectRead | collectEnd | collectWrite | collectBroken => cases plain
  | @drainRead c c' r b copying given more =>
    have unread := congrArg List.length (Channel.unread_of_read? given)
    have some := List.length_pos_iff.2 more
    rw [List.length_append] at unread
    refine ⟨.inl copying, fun late => ⟨?_, ?_⟩⟩
    · simp only [drained?]
      rw [show r.copied + b.length + c'.unread.length = r.copied + c.unread.length by omega]
    · simp only [toDrain, Relay.copies]
      omega
  | @drainEnd c c' r copying given =>
    obtain ⟨unread, writer⟩ := Channel.empty_of_read? given (by decide)
    have ended := (Channel.ends_of_read? given).1.trans writer
    refine ⟨.inr ⟨rfl, rfl, ended⟩, fun late => ⟨?_, ?_⟩⟩
    · simp [drained?, unread]
    · simp [toDrain, unread, Relay.copies, copying]

theorem IsPlain.write? {data rest : Bytes} (plain : j.IsPlain) (held : j.HeldBy writes reads)
    (accepted : j.write? data = some (.ok (rest, j'))) : j'.IsPlain := by
  cases j with
  | pipe | feeding | collecting => cases plain
  | absent =>
    simp only [Join.write?, Option.some.injEq, Except.ok.injEq, Prod.mk.injEq] at accepted
    rw [← accepted.2]
    trivial
  | channel c =>
    obtain ⟨c', -, -, rfl⟩ := Channel.of_map_write accepted
    trivial
  | draining c r =>
    obtain ⟨c', hc, -, rfl⟩ := Channel.of_map_write accepted
    rcases plain with copying | ⟨finished, empty, writer⟩
    · exact .inl copying
    · -- The relay has let go of the channel.
      obtain ⟨-, rfl⟩ := Channel.eq_nil_of_write hc (held.2.trans (by simp [Relay.copies, finished]))
      exact .inr ⟨finished, empty, writer⟩

theorem IsPlain.moves (plain : j.IsPlain) (held : j.HeldBy writes reads) (moves : j.Moves given taken j') :
    j'.IsPlain := by
  cases moves with
  | same => exact plain
  | relay copied => exact (IsPlain.of_relays (relays_of_stepRelay? copied) plain).1
  | read hread reads =>
    cases leads : j.leadsOn with
    | false =>
      obtain ⟨-, rfl⟩ := of_read?_apart hread leads
      exact plain
    | true =>
      cases j with
      | absent | draining => cases leads
      | pipe | feeding | collecting => cases plain
      | channel c =>
        obtain ⟨c', -, rfl⟩ := Channel.of_map_read? hread
        trivial
  | write accepted => exact plain.write? held accepted
  | closeReader => cases j <;> exact plain
  | closeWriter =>
    cases j with
    | absent | channel | pipe | feeding | collecting => exact plain
    | draining => exact plain.imp_right fun ⟨finished, empty, _⟩ => ⟨finished, empty, rfl⟩

theorem isSome_relay?_fresh (j : Join) : j.fresh.relay?.isSome = j.relay?.isSome := by cases j <;> rfl

theorem isSome_relay?_of_stepRelay? (copied : j.stepRelay? = some j') : j.relay?.isSome = true := by
  cases relay : j.relay? with
  | some r => rfl
  | none => simp [stepRelay?, relay] at copied

theorem exists_channel_of_fresh {c : Channel} (h : j.fresh = (channel c).fresh) : ∃ c', j = .channel c' := by
  cases j with
  | channel c' => exact ⟨c', rfl⟩
  | absent | pipe | feeding | collecting | draining => cases h

/-- A plain join takes everything at once, as long as it has a reader. -/
theorem IsPlain.exists_write? (plain : j.IsPlain) (held : j.HeldBy true reads) (open' : j.leadsOn = true → reads = true)
    (data : Bytes) : ∃ j', j.write? data = some (.ok ([], j')) := by
  have channel : ∀ {c : Channel}, c.hasReader = true → ∃ c', c.write data = .ok c' := fun hasReader => by
    simp [Channel.write, hasReader]
    split <;> exact ⟨_, rfl⟩
  cases j with
  | pipe | feeding | collecting => cases plain
  | absent => exact ⟨_, rfl⟩
  | channel c =>
    obtain ⟨c', hc⟩ := channel (held.2.trans (open' rfl))
    exact ⟨.channel c', by simp [Join.write?, hc, Except.map]⟩
  | draining c r =>
    rcases plain with copying | ⟨-, -, writer⟩
    · obtain ⟨c', hc⟩ := channel (held.2.trans (by simp [Relay.copies, copying]))
      exact ⟨.draining c' r, by simp [Join.write?, hc, Except.map]⟩
    · rw [held.1] at writer
      cases writer

end Join

namespace Join

variable {j j' : Join} {data : Bytes}

/-- What has been written to a plain join need not be written any more. -/
theorem IsPlain.of_write? (plain : j.IsPlain) (accepted : j.write? data = some (.ok ([], j'))) (late : List Bytes) :
    j'.toRead late = j.toRead (Channel.chunk data ++ late) ∧ j'.drained? late = j.drained? (Channel.chunk data ++ late) ∧
      j'.toDrain late = j.toDrain (Channel.chunk data ++ late) := by
  cases j with
  | pipe | feeding | collecting => cases plain
  | absent =>
    simp only [Join.write?, Option.some.injEq, Except.ok.injEq, Prod.mk.injEq] at accepted
    rw [← accepted.2]
    exact ⟨rfl, rfl, rfl⟩
  | channel c =>
    obtain ⟨c', hc, -, rfl⟩ := Channel.of_map_write accepted
    rw [Channel.write_eq hc]
    simp [toRead, drained?, toDrain]
  | draining c r =>
    obtain ⟨c', hc, -, rfl⟩ := Channel.of_map_write accepted
    have unread := Channel.unread_of_write hc
    refine ⟨rfl, ?_, ?_⟩
    · simp only [drained?, unread, List.flatten_append, Channel.flatten_chunk, List.length_append]
      simp [Nat.add_assoc]
    · simp only [toDrain, unread, List.flatten_append, Channel.flatten_chunk, List.length_append]
      simp [Nat.add_assoc]

end Join

namespace Join

variable {j j' : Join} {reads : Bool} {limit : Nat} {data : Bytes}

/-- Reading from a join without writer is reading from what is in it. -/
theorem IsPlain.toRead_of_read? (plain : j.IsPlain) (held : j.HeldBy false reads) (direct : j.relay?.isSome = false)
    (given : j.read? limit = some (data, j')) : (j.toRead []).read? limit = some (data, j'.toRead []) := by
  cases j with
  | pipe | feeding | collecting => cases plain
  | draining => cases direct
  | absent =>
    simp only [read?, Option.some.injEq, Prod.mk.injEq] at given
    obtain ⟨rfl, rfl⟩ := given
    simp only [toRead, Channel.read?, Channel.advance]
    split <;> simp
  | channel c =>
    obtain ⟨c', hc, rfl⟩ := Channel.of_map_read? given
    have ended : ∀ {c : Channel}, c.hasWriter = false → (channel c).toRead [] = c := fun {c} writer => by
      cases c
      simp_all [toRead]
    rw [ended held.1, ended ((Channel.ends_of_read? hc).1.trans held.1)]
    exact hc

end Join

/-! ### One step less -/

section Surroundings

variable {σ : Type} {s : Seat σ} {stream : StdStream} {data : Bytes} {d : Destination}

/-- Writing to a destination. -/
theorem Seat.write_to (target : s.output stream = .to d) (h : Host) (late : List Bytes) :
    (s.surroundings h late).write stream data = (h.write d data).map fun host => s.surroundings host late := by
  cases stream with
  | out =>
    have out : s.out = .to d := target
    simp only [Surroundings.write, Seat.surroundings, out, Output.outlet, Outlet.write]
    cases h.write d data <;> rfl
  | err =>
    obtain rfl : s.err = d := by simpa [Seat.output] using target
    simp only [Surroundings.write, Seat.surroundings, Outlet.write]
    cases h.write s.err data <;> rfl

/-- Passing something on. -/
theorem Seat.write_nextStage (target : s.output stream = .nextStage) (h : Host) (late : List Bytes) :
    (s.surroundings h late).write stream data = .ok ((s.surroundings h late).behind (Channel.chunk data)) := by
  obtain ⟨out, rfl⟩ := World.out_of_output target
  simp only [Surroundings.write, Seat.surroundings, Surroundings.behind, out, Output.outlet, Outlet.write,
    Outlet.behind, Channel.write, Channel.chunk]
  split <;> simp [Except.map]

end Surroundings

namespace Outlook

variable {σ : Type} {isOnly : Bool} {t t' : Tally} {late : List Bytes} {o o' : Outlook} {s : Seat σ}
  {seats before rest : List (Seat σ)} {data : Bytes}

/-- The same will become of the pipeline, in fewer steps. -/
structure Falls (o' o : Outlook) : Prop where
  tally : o'.tally = o.tally
  results : o'.results = o.results
  work : o'.work < o.work

/-- An outlook with stages before it that have ended. -/
def after (before : List (Seat σ)) (o : Outlook) : Outlook :=
  ⟨o.tally, before.map (fun s => ⟨s.actor.fate, s.input.drained? []⟩) ++ o.results,
    (before.map fun s => s.input.toDrain []).sum + o.work⟩

theorem Falls.after (falls : o'.Falls o) (before : List (Seat σ)) : (o'.after before).Falls (o.after before) where
  tally := falls.tally
  results := congrArg (_ ++ ·) falls.results
  work := Nat.add_lt_add_left falls.work _

theorem Falls.cons (falls : o'.Falls o) (result : Result) (work : Nat) : (o'.cons result work).Falls (o.cons result work) where
  tally := falls.tally
  results := congrArg (result :: ·) falls.results
  work := Nat.add_lt_add_left falls.work _

theorem of_builtin {act : Act Reply} (actor : s.actor = .builtin act) :
    of isOnly t late (s :: rest) =
      let w := s.surroundings t.host late
      let done := act.runAlone w
      (of isOnly ({ t with host := done.2.host }.conclude isOnly s.name done.1) (done.2.out.passed.getD []) rest).cons
        ⟨.exited done.1.status, none⟩ (act.steps w) := by
  rw [of, actor]

theorem of_ended {fate : Fate} (actor : s.actor = .ended fate) :
    of isOnly t late (s :: rest) =
      (of isOnly t [] rest).cons ⟨fate, s.input.drained? late⟩ (s.input.toDrain late) := by
  rw [of, actor]
  rfl

theorem of_append (ended : ∀ s ∈ before, ∃ fate, s.actor = .ended fate) :
    of isOnly t [] (before ++ rest) = (of isOnly t [] rest).after before := by
  induction before with
  | nil => simp [after]
  | cons s before ih =>
    obtain ⟨fate, actor⟩ := ended s List.mem_cons_self
    rw [List.cons_append, of_ended actor, ih fun s hs => ended s (List.mem_cons_of_mem _ hs)]
    simp [after, cons, actor, Actor.fate, Nat.add_assoc]

/-- A join in front of a stage that has ended may be drained on the way. -/
theorem of_modify {i : Nat} {j : Join} {fate : Fate} (seat : seats[i]? = some s) (actor : s.actor = .ended fate)
    (same : ∀ late, j.drained? late = s.input.drained? late) (less : ∀ late, j.toDrain late < s.input.toDrain late) :
    (of isOnly t late (seats.modify i fun s => { s with input := j })).Falls (of isOnly t late seats) := by
  induction seats generalizing i t late with
  | nil => cases seat
  | cons x rest ih =>
    cases i with
    | zero =>
      obtain rfl : x = s := by simpa using seat
      rw [List.modify_zero_cons, of_ended actor, of_ended (s := { x with input := j }) actor]
      exact ⟨rfl, by simp [cons, same], Nat.add_lt_add_right (less late) _⟩
    | succ i =>
      rw [List.modify_succ_cons]
      have falls := fun t late => @ih t late i seat
      unfold of
      split <;> exact (falls _ _).cons _ _

/-- A builtin that goes on is one step further.  What it has passed on meanwhile, `late`, is in the join behind it. -/
theorem falls_of_goesOn (late : List Bytes) {act act' : Act Reply} {s' : Seat σ} {t' : Tally} {rest' : List (Seat σ)}
    (actor : s.actor = .builtin act) (actor' : s'.actor = .builtin act') (name : s'.name = s.name)
    (request : t'.request = t.request)
    (alone : act.runAlone (s.surroundings t.host []) = act'.runAlone ((s'.surroundings t'.host []).behind late) ∧
      act.steps (s.surroundings t.host []) = act'.steps ((s'.surroundings t'.host []).behind late) + 1)
    (passes : late = [] ∨ s'.out = .nextStage)
    (others : ∀ (t : Tally) (more : List Bytes), of isOnly t more rest' = of isOnly t (late ++ more) rest) :
    (of isOnly t' [] (s' :: rest')).Falls (of isOnly t [] (s :: rest)) := by
  obtain ⟨runs, steps⟩ := alone
  obtain ⟨runs', steps'⟩ := Act.runAlone_behind late act' (s'.surroundings t'.host [])
  rw [runs'] at runs
  rw [steps'] at steps
  have passed := Act.isSome_passed_runAlone act' (s'.surroundings t'.host [])
  rw [of_builtin actor, of_builtin actor']
  simp only [runs, steps, name, request]
  generalize act'.runAlone (s'.surroundings t'.host []) = done at passed ⊢
  have same : late ++ done.2.out.passed.getD [] = (done.2.behind late).out.passed.getD [] := by
    simp only [Surroundings.behind, Outlet.passed_behind]
    cases hp : done.2.out.passed with
    | some chunks => rfl
    | none =>
      -- A builtin that passes nothing on has passed nothing on.
      rcases passes with rfl | out
      · rfl
      · rw [hp] at passed
        simp [Seat.surroundings, out, Output.outlet, Outlet.passed] at passed
  rw [others, same]
  exact ⟨rfl, rfl, by simp only [cons, Surroundings.behind]; omega⟩

/-- A builtin that goes on and passes nothing on. -/
theorem falls_of_quiet {act act' : Act Reply} {s' : Seat σ} {t' : Tally} (actor : s.actor = .builtin act)
    (actor' : s'.actor = .builtin act') (name : s'.name = s.name) (request : t'.request = t.request)
    (alone : act.runAlone (s.surroundings t.host []) = act'.runAlone (s'.surroundings t'.host []) ∧
      act.steps (s.surroundings t.host []) = act'.steps (s'.surroundings t'.host []) + 1) :
    (of isOnly t' [] (s' :: rest)).Falls (of isOnly t [] (s :: rest)) :=
  falls_of_goesOn [] actor actor' name request (by rw [Surroundings.behind_nil]; exact alone) (.inl rfl) fun _ _ => rfl

/-- What has been written to the join in front of a stage need not be written any more. -/
theorem of_write {j : Join} {late : List Bytes} (plain : s.input.IsPlain)
    (accepted : s.input.write? data = some (.ok ([], j))) :
    of isOnly t late ({ s with input := j } :: rest) = of isOnly t (Channel.chunk data ++ late) (s :: rest) := by
  obtain ⟨toRead, drained, toDrain⟩ := plain.of_write? accepted late
  simp only [of, Seat.surroundings, toRead, drained, toDrain]

theorem of_closeWriter (rest : List (Seat σ)) (late : List Bytes) :
    of isOnly t late (rest.modify 0 fun s => { s with input := s.input.closeWriter }) = of isOnly t late rest := by
  cases rest with
  | nil => rfl
  | cons s rest =>
    have same : s.input.closeWriter.toRead late = s.input.toRead late ∧
        s.input.closeWriter.drained? late = s.input.drained? late ∧
        s.input.closeWriter.toDrain late = s.input.toDrain late := by
      cases s.input <;> exact ⟨rfl, rfl, rfl⟩
    simp only [List.modify_zero_cons, of, Seat.surroundings, same]

/-- A builtin that is done leaves to the shell what it asks for. -/
theorem falls_of_done {reply : Reply} (actor : s.actor = .builtin (.done reply)) (direct : s.input.relay?.isSome = false) :
    (of isOnly (t.conclude isOnly s.name reply) [] ({ s with
        actor := .ended (.exited reply.status)
        input := s.input.closeReader
        unsent := none } :: rest.modify 0 fun s => { s with input := s.input.closeWriter })).Falls
      (of isOnly t [] (s :: rest)) := by
  have nothing : s.input.closeReader.drained? [] = none ∧ s.input.closeReader.toDrain [] = 0 := by
    cases input : s.input with
    | absent | channel | pipe => exact ⟨rfl, rfl⟩
    | feeding | collecting | draining =>
      rw [input] at direct
      cases direct
  have passed : s.out.outlet.passed.getD [] = [] := by cases s.out <;> rfl
  rw [of_builtin actor, of_ended rfl, of_closeWriter]
  simp only [nothing, Act.runAlone, Act.steps, Seat.surroundings, passed]
  exact ⟨rfl, rfl, by simp [cons]⟩

end Outlook

end PipeShell
