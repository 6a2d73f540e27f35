import PipeShell.Proofs.Host.Walk
import PipeShell.Proofs.Run.Flow
import PipeShell.Proofs.Run.Trace
import PipeShell.Proofs.Run.Wiring

/-!
# What a stage writes is what the next one reads

Each step of a running pipeline is a move of every join in it (`World.Step.moves`), with the bytes that the two stages
read and write in that step.  So what holds of a single join under all its moves holds in all runs: what a stage has
read and what is in flight are what the stage before has written, in the same order, and the end of the input does not
overtake a byte.  `Runner.delivered_of_runs` says so for any two neighbours that are connected, be they builtins or
programs.
-/

namespace PipeShell

/-- The earlier stage holds the writing end. -/
def Join.isWritten : Join → Bool
  | .absent => false
  | .channel c | .feeding c _ _ | .draining c _ => c.hasWriter
  | .pipe p | .collecting p _ _ => p.hasWriter

/-- A join is written as long as the earlier stage runs. -/
theorem Join.HeldBy.isWritten_eq {j : Join} {writes reads : Bool} (held : j.HeldBy writes reads)
    (leads : j.leadsOn = true) : j.isWritten = writes := by
  cases j with
  | absent | draining => cases leads
  | channel | pipe | feeding | collecting => exact held.1

theorem Join.leadsOn_fresh (j : Join) : j.fresh.leadsOn = j.leadsOn := by cases j <;> rfl

/-- Two stages that were started are connected by a join that leads from the one to the other. -/
theorem Join.leadsOn_between (name : Text) {before role : Role} (writer : before ≠ .idle) (reader : role ≠ .idle) :
    (Join.between name before role).leadsOn = true := by
  cases before <;> cases role <;> first | rfl | contradiction

/-- Nothing has gone through a new join. -/
theorem Join.carries_between (name : Text) (before role : Role) : (Join.between name before role).Carries [] [] where
  begins := List.nil_prefix
  flow _ := by cases before <;> cases role <;> rfl
  through _ := by cases before <;> cases role <;> first | trivial | exact .inl rfl

namespace World

variable {σ : Type} {programs : Programs σ} {w w' : World σ} {party : Party} {k i : Nat} {s : Seat σ}
  {request : Request Finish (Actor σ)} {trace : List Event}

/-- A join moves by what its two stages do. -/
theorem Step.moves (step : Step programs w party w') (held : w.Held) (k : Nat) :
    (w.input (k + 1)).Moves (bytesRead (k + 1) (w.event? programs party).toList)
      (bytesPassed k (w.event? programs party).toList) (w'.input (k + 1)) := by
  cases step with
  | @done _ i s result acts =>
    rw [acts.event?_done, input_finish, input_closeEnds]
    split
    · exact .closeWriter
    · split
      · exact .closeReader
      · exact .same
  | @read _ i s limit next data j acts given =>
    have hi : i < w.seats.length := (List.getElem?_eq_some_iff.1 acts.seat).1
    rw [acts.event?_read given, input_setActor, input_setInput _ _ (.inl hi)]
    by_cases own : k + 1 = i
    · subst own
      rw [if_pos rfl]
      have reads := fun leads => ((held.joins k).isRead_eq leads).trans acts.runs
      rw [← input_eq acts.seat] at given
      simpa using Join.Moves.read given reads
    · rw [if_neg own]
      simpa [Ne.symm own] using Join.Moves.same
  | wrote acts target taken =>
    rw [acts.event?_wrote target taken, input_setActor]
    change (w.input (k + 1)).Moves _ _ (w.input (k + 1))
    simpa using Join.Moves.same
  | refused acts target failed =>
    rw [acts.event?_refused target failed, input_setActor]
    exact .same
  | @passed _ i s stream data next j acts target taken =>
    rw [acts.event?_passed target (List.append_nil _).symm taken, input_setActor,
      input_setInput _ _ (seat_or_absent taken)]
    by_cases own : k = i
    · subst own
      rw [if_pos rfl]
      rw [← List.append_nil (s.unsent.getD data)] at taken
      simpa using Join.Moves.write taken
    · rw [if_neg (by omega)]
      simpa [Ne.symm own] using Join.Moves.same
  | @passedPart _ i s stream data rest next j acts target taken more =>
    obtain ⟨front, split⟩ := Join.exists_taken taken
    rw [acts.event?_passed target split taken, input_setUnsent, input_setInput _ _ (seat_or_absent taken)]
    by_cases own : k = i
    · subst own
      rw [if_pos rfl]
      rw [split] at taken
      simpa using Join.Moves.write taken
    · rw [if_neg (by omega)]
      simpa [Ne.symm own] using Join.Moves.same
  | broken acts target failed =>
    rw [acts.event?_broken target failed, input_setActor]
    exact .same
  | called acts =>
    rw [acts.event?_called, input_setActor]
    exact .same
  | @relayed i j hi copied =>
    rw [event?_relay, input_setInput _ _ (.inl hi)]
    by_cases own : k + 1 = i
    · subst own
      rw [if_pos rfl]
      exact .relay copied
    · rw [if_neg own]
      exact .same
  | turned running last =>
    rw [event?_shell_of_last last]
    exact .same
  | awaited waiting past =>
    rw [event?_shell_of_waiting (by simp [waiting])]
    rcases awaitStage?_seats past with h | ⟨fate, h, -⟩
    · rw [input_congr h]
      exact .same
    · rw [input_congr h, input_setActor]
      exact .same
  | joined joining past =>
    rw [event?_shell_of_waiting (by simp [joining]), input_congr (awaitRelay?_seats past)]
    exact .same

/-- What holds of the stages `k` and `k + 1` and the join between them after what is in the trace. -/
structure Delivers (w : World σ) (trace : List Event) (k : Nat) : Prop where
  /-- As long as the input of the later stage is open, no byte is lost, added or moved. -/
  flow : (w.input (k + 1)).isRead = true →
    bytesRead (k + 1) trace ++ (w.input (k + 1)).inFlight = bytesPassed k trace
  /-- In any case the later stage has read the first of the bytes that the earlier one has written. -/
  begins : bytesRead (k + 1) trace <+: bytesPassed k trace
  /-- The later stage is told that its input has ended only when the earlier one has closed its end and every one of
  its bytes has arrived. -/
  ends : SawEnd (k + 1) trace →
    w.runs k = false ∧ (w.input (k + 1)).isWritten = false ∧ bytesRead (k + 1) trace = bytesPassed k trace

/-- The join between two stages carries on, and the end of the input has been told rightly if at all. -/
structure Carrying (w : World σ) (trace : List Event) (k : Nat) : Prop where
  leads : (w.input (k + 1)).leadsOn = true
  held : w.Held
  carries : (w.input (k + 1)).Carries (bytesRead (k + 1) trace) (bytesPassed k trace)
  ends : SawEnd (k + 1) trace → w.runs k = false ∧ bytesRead (k + 1) trace = bytesPassed k trace

/-- A stage that has ended passes nothing on. -/
theorem bytesPassed_event?_of_ended (ended : w.runs k = false) : bytesPassed k (w.event? programs party).toList = [] := by
  cases h : w.event? programs party with
  | none => rfl
  | some e =>
    obtain ⟨s, request, acts, -⟩ := acts_of_event? h
    apply bytesPassed_of_ne
    rintro rfl
    rw [acts.runs] at ended
    cases ended

/-- What the end of the input that is told in a step says about the join. -/
theorem Carrying.at_end (carrying : w.Carrying trace k) (seen : SawEnd (k + 1) (w.event? programs party).toList) :
    w.runs k = false ∧ bytesRead (k + 1) trace = bytesPassed k trace ∧
      bytesRead (k + 1) (w.event? programs party).toList = [] := by
  obtain ⟨e, he, limit, wanted, rfl⟩ := seen
  have he := Option.mem_toList.1 he
  obtain ⟨s, next, j, acts, given⟩ := acts_of_event?_read he
  have isRead := ((carrying.held.joins k).isRead_eq carrying.leads).trans acts.runs
  rw [← input_eq acts.seat] at given
  obtain ⟨ended, empty⟩ := carrying.carries.at_end (carrying.held.joins k) carrying.leads isRead given wanted
  have flow := carrying.carries.flow isRead
  rw [empty, List.append_nil] at flow
  exact ⟨ended, flow, by rw [he]; simp⟩

theorem Carrying.step (carrying : w.Carrying trace k) (step : Step programs w party w') :
    w'.Carrying (trace ++ (w.event? programs party).toList) k := by
  have carries := carrying.carries.moves (step.moves carrying.held k)
  rw [← bytesRead_append, ← bytesPassed_append] at carries
  refine ⟨?_, step.held carrying.held, carries, fun seen => ?_⟩
  · rw [← Join.leadsOn_fresh, input_fresh_eq step.wiring_eq, Join.leadsOn_fresh]
    exact carrying.leads
  · have ended : w.runs k = false ∧ bytesRead (k + 1) trace = bytesPassed k trace := by
      rcases sawEnd_append.1 seen with before | now
      · exact carrying.ends before
      · exact ⟨(carrying.at_end now).1, (carrying.at_end now).2.1⟩
    refine ⟨step.runs_eq_false ended.1, ?_⟩
    -- Nothing is passed on any more, and more than that cannot be read.
    have begins := carries.begins
    simp only [bytesRead_append, bytesPassed_append, bytesPassed_event?_of_ended ended.1, ended.2, List.append_nil]
      at begins ⊢
    exact (begins.eq_of_length_le (by simp))

end World

namespace Runner

variable {σ : Type} {r : Runner σ} {p : Pipeline} {ctx : Context} {h : Host} {w : World σ} {trace : List Event} {k : Nat}

/-- The join between two stages that were both started and are connected. -/
theorem exists_input_start_eq (fed : r.Fed p ctx h (k + 1)) (started : (r.start p ctx h).runs (k + 1) = true) :
    ∃ name before role, before ≠ .idle ∧ role ≠ .idle ∧ (r.start p ctx h).input (k + 1) = .between name before role := by
  obtain ⟨i, s, host, seat, same, before, writer, out⟩ := fed
  obtain rfl : k = i := by omega
  have hk : k + 1 < p.stages.length := by
    rw [← (wired r p ctx h).seats.1]
    exact World.lt_of_runs started
  obtain ⟨host', seat', after, hseat⟩ := exists_at r ctx h (List.getElem?_eq_getElem hk)
  have reader : seat'.actor.role ≠ .idle := by
    rw [← World.role_eq hseat, Ne, World.role_eq_idle_iff, started]
    simp
  exact ⟨_, _, _, writer, reader, by rw [World.input_eq hseat, before.input_succ after, if_pos out]⟩

/-- **No byte between two stages is lost, added or moved**, and none is cut off by the end of the input, in whatever
order the parties take their steps: for any stage that was started and is connected to the one before it. -/
theorem delivered_of_runs (run : World.Runs r.programs (r.start p ctx h) trace w) (fed : r.Fed p ctx h (k + 1))
    (started : (r.start p ctx h).runs (k + 1) = true) : w.Delivers trace k := by
  obtain ⟨name, before, role, writer, reader, hinput⟩ := exists_input_start_eq fed started
  have first : (r.start p ctx h).Carrying [] k :=
    { leads := by rw [hinput]; exact Join.leadsOn_between name writer reader
      held := held_start r p ctx h
      carries := by rw [hinput]; exact Join.carries_between name before role
      ends := fun ⟨e, he, _⟩ => by cases he }
  have carrying := run.invariant (I := fun trace v => v.Carrying trace k) first fun _ carrying step => carrying.step step
  exact
    { flow := carrying.carries.flow
      begins := carrying.carries.begins
      ends := fun seen => by
        obtain ⟨ended, all⟩ := carrying.ends seen
        exact ⟨ended, ((carrying.held.joins k).isWritten_eq carrying.leads).trans ended, all⟩ }

/-- A shell with a builtin that writes two bytes, and with a program that copies its input byte by byte. -/
def copying : Runner (Option Bytes) where
  registry := ⟨[⟨['a'], fun _ => .write .out [65, 66] fun _ => .done {}⟩]⟩
  programs :=
    { start := fun _ _ => .ok none
      next := fun
        | none => .read 1 some
        | some [] => .done (.exited 0)
        | some data => .write .out data fun _ => none }

/-- A host with the program. -/
def copyingHost : Host where
  tree := ⟨[([['c']], .file 0)]⟩
  files := [⟨[], 0o755⟩]

/-- The builtin in front of the program. -/
def copied : Pipeline := ⟨[⟨[['a']], {}⟩, ⟨[['/', 'c']], {}⟩]⟩

theorem copyingHost_program? {h : Host} (tree : h.tree = copyingHost.tree) (files : h.files = copyingHost.files) :
    h.program? {} ['/', 'c'] = some ['/', 'c'] := by
  have straight : copyingHost.tree.IsStraight [['c']] :=
    copyingHost.tree.isStraight_singleton ⟨by decide, by decide, by decide, by decide⟩
  have walked : h.walk .use ['/', 'c'] = .ok (.found [['c']] (.file 0)) := by
    rw [Host.walk, tree, Tree.walk_eq_ok_iff]
    exact ⟨by decide, Tree.walkFar_path straight rfl nofun (by decide) _ _⟩
  have executable : h.isExecutable ['/', 'c'] = true := by
    rw [Host.isExecutable, Host.node?, walked, files]
    rfl
  have candidates : Context.candidates {} ['/', 'c'] = [['/', 'c']] := rfl
  rw [Host.program?, candidates, List.find?_cons_of_pos executable]

theorem start_copied : copying.start copied {} copyingHost =
    { host := (copying.start copied {} copyingHost).host
      seats := [
        { name := ['a'], actor := .builtin (.write .out [65, 66] fun _ => .done {}), out := .nextStage
          err := .terminal .err },
        { name := ['/', 'c'], actor := .process none, out := .to (.terminal .out), err := .terminal .err
          input := .feeding {} { label := "into /c".toList } {} }] } := by
  rw [start, copied, startStages, startStages, startStage_of_program rfl (copyingHost_program? rfl rfl)]
  rfl

/-- The builtin has written two bytes, the relay has copied them, and the program has read the first. -/
theorem delivered_of_runs_copied :
    ∃ w, World.Runs copying.programs (copying.start copied {} copyingHost)
        [.wrote 0 .out .nextStage [65, 66], .read 1 1 [65]] w ∧
      copying.Fed copied {} copyingHost 1 ∧ (copying.start copied {} copyingHost).runs 1 = true ∧
      w.Delivers [.wrote 0 .out .nextStage [65, 66], .read 1 1 [65]] 0 := by
  obtain ⟨w, replayed⟩ :
      ∃ w, (copying.start copied {} copyingHost).replay copying.programs
        [.shell, .relay 1, .relay 1, .process 1] = some ([.wrote 0 .out .nextStage [65, 66], .read 1 1 [65]], w) := by
    rw [start_copied]
    exact ⟨_, rfl⟩
  have run := World.Runs.of_replay replayed
  have fed : copying.Fed copied {} copyingHost 1 := ⟨0, _, _, _, rfl, ⟨rfl, _, rfl, rfl⟩, by decide, rfl⟩
  have started : (copying.start copied {} copyingHost).runs 1 = true := by
    rw [start_copied]
    rfl
  exact ⟨w, run, fed, started, delivered_of_runs run fed started⟩

end Runner

end PipeShell
