import PipeShell.Proofs.CommandLine.Rounds
import PipeShell.Proofs.LineInput

/-!
# The lines of the standard input

The shell executes the lines of its standard input in order, up to the first one that requests an exit, and that is a
line with the builtin `exit` and nothing beside it (`CommandLine.Loop`).  After every other line it goes on with the next
one: a blank line changes nothing, and one that is refused, or whose stages fail, leaves a status.  The exit code is the
one that has been requested, or else the status after the last line.

So the errors of a line are its own, as long as it is text.  A line that is none is not executed, and it ends the shell
with the exit code 1, whatever comes behind it (`CommandLine.Loop.fails`).
-/

namespace PipeShell

/-- The builtin that is the only stage replies as befits it. -/
theorem Runner.RepliesAlone.befits {σ : Type} {r : Runner σ} {p : Pipeline} {ctx : Context} {h : Host} {reply : Reply}
    (standard : r.registry = Registry.standard) (alone : r.RepliesAlone p ctx h reply) :
    ∃ stage, p.stages = [stage] ∧ reply.Befits stage.name := by
  obtain ⟨stage, b, seat, single, found, -, -, rfl⟩ := alone
  have mem : b ∈ Registry.standard.builtins := standard ▸ List.mem_of_find?_eq_some found
  have name : b.name = stage.name := by simpa using List.find?_some found
  exact ⟨stage, single, name ▸ Registry.standard_befits mem _ _⟩

namespace Session.Turn

variable {σ : Type} {r : Runner σ} {t : Turn}

/-- The line is a command of this name, and there is nothing beside it. -/
def IsAlone (name : Text) (t : Turn) : Prop :=
  ∃ p stage, Pipeline.ofLine t.line = .ok (some p) ∧ p.stages = [stage] ∧ stage.name = name

/-- **Only a line `exit` requests an exit**, with its status as the exit code. -/
theorem Kept.of_leaving (kept : t.Kept r) (standard : r.registry = Registry.standard)
    (staying : t.before.environment.isLeaving = false) (leaving : t.after.environment.isLeaving = true) :
    t.IsAlone "exit".toList ∧ t.after.environment.exitCode = some t.after.lastStatus ∧
      0 ≤ t.after.lastStatus ∧ t.after.lastStatus < 256 := by
  have changed : t.after.environment.exitCode ≠ t.before.environment.exitCode := fun same => by
    rw [Environment.isLeaving, same, ← Environment.isLeaving, staying] at leaving
    cases leaving
  obtain ⟨p, reply, code, parsed, alone, asked, exitCode⟩ := kept.exits changed
  obtain ⟨stage, single, befits⟩ := alone.befits standard
  obtain ⟨name, status, least, most⟩ := befits.exit code asked
  obtain ⟨w, -, -, passes⟩ := kept.passes p parsed
  obtain ⟨fate, ended, lastStatus⟩ := passes.status
  rw [(passes.alone reply alone).1] at ended
  cases ended
  obtain rfl : t.after.lastStatus = code := lastStatus.trans status
  exact ⟨⟨p, stage, parsed, single, name⟩, exitCode, least, most⟩

/-- A line that is neither `cd` nor `exit` leaves a status, and nothing else. -/
theorem Kept.environment_eq (kept : t.Kept r) (standard : r.registry = Registry.standard)
    (noMove : ¬ t.IsAlone "cd".toList) (noExit : ¬ t.IsAlone "exit".toList) :
    t.after.environment = t.before.environment := by
  have directory : t.after.environment.directory = t.before.environment.directory := by
    by_contra moved
    obtain ⟨p, reply, parsed, alone, asked⟩ := kept.moves moved
    obtain ⟨stage, single, befits⟩ := alone.befits standard
    exact noMove ⟨p, stage, parsed, single, befits.directory (by simp [asked])⟩
  have exitCode : t.after.environment.exitCode = t.before.environment.exitCode := by
    by_contra changed
    obtain ⟨p, reply, code, parsed, alone, asked, -⟩ := kept.exits changed
    obtain ⟨stage, single, befits⟩ := alone.befits standard
    exact noExit ⟨p, stage, parsed, single, (befits.exit code asked).1⟩
  cases after : t.after.environment
  cases before : t.before.environment
  have vars := kept.vars
  simp_all

end Session.Turn

namespace CommandLine

open Session

variable {σ : Type} {programs : Programs σ} {words : List Text} {input : Bytes} {h opened left : Host} {code : Nat}
  {s : Settings} {turns : List Turn} {last : Session}

/-- What the shell does with the lines of its standard input, where it begins on the host `h`: it executes some of them,
and ends with an exit code. -/
structure Loop (programs : Programs σ) (input : Bytes) (h : Host) (turns : List Turn) (last : Session) (code : Nat)
    (left : Host) : Prop where
  /-- The input falls into lines. -/
  cuts : LineInput.Cuts input (LineInput.linesOf input)
  /-- The shell gets what the lines have in them, up to the first one that is no text. -/
  delivers : LineInput.Delivers (LineInput.linesOf input) (LineInput.ofBytes input).1 (LineInput.ofBytes input).2
  /-- The lines are executed in order. -/
  inOrder : turns.map (·.line) = (LineInput.ofBytes input).1.take turns.length
  /-- Each of them is executed in the session that the line before it has left, when the shell has asked for it. -/
  first : ∀ t, turns[0]? = some t →
    t.before = { environment := Environment.ofHost h } ∧ t.host = askLine (ready h)
  next : ∀ i t t', turns[i]? = some t → turns[i + 1]? = some t' → t'.before = t.after ∧ t'.host = askLine t.left
  executes : ∀ t ∈ turns, t.before.Executes (runner programs) t.host t.line t.after t.left
  /-- What every line keeps: a blank line changes nothing, a line that is refused has the status 2, and all others
  have the status of their last stage. -/
  kept : ∀ t ∈ turns, t.Kept (runner programs)
  /-- An exit is requested by a line `exit` only, and no line after it is executed. -/
  exits : ∀ i t, turns[i]? = some t → t.after.environment.isLeaving = true →
    i + 1 = turns.length ∧ t.IsAlone "exit".toList ∧ t.after.environment.exitCode = some t.after.lastStatus
  /-- After every other line the next one is executed. -/
  goesOn : ∀ i t, turns[i]? = some t → t.after.environment.isLeaving = false →
    i + 1 < (LineInput.ofBytes input).1.length → i + 1 < turns.length
  begins : (LineInput.ofBytes input).1 ≠ [] → turns ≠ []
  /-- A line that is neither `cd` nor `exit` leaves a status, and nothing else. -/
  others : ∀ t ∈ turns, ¬ t.IsAlone "cd".toList → ¬ t.IsAlone "exit".toList →
    t.after.environment = t.before.environment
  session : last = (turns.getLast?.map (·.after)).getD { environment := Environment.ofHost h }
  /-- The exit code is the one that is requested. -/
  requested : ∀ status, last.environment.exitCode = some status → code = exitCode status
  /-- If none is, it is the status after the last line. -/
  finishes : last.environment.exitCode = none → (LineInput.ofBytes input).2 = true → code = exitCode last.lastStatus
  /-- But if the shell gets to a line that is no text, it fails. -/
  fails : last.environment.exitCode = none → (LineInput.ofBytes input).2 = false → code = 1 ∧
    left = print (askLine ((turns.getLast?.map (·.left)).getD (ready h))) .err (failure notText notText)

/-- All that is true of the rounds of a shell. -/
theorem loop_of_rounds
    (rounds : Rounds (Executes (runner programs)) askLine { environment := Environment.ofHost h } (ready h)
      (LineInput.ofBytes input).1 turns last left) :
    Loop programs input h turns last (conclude (LineInput.ofBytes input).2 last left).1
      (conclude (LineInput.ofBytes input).2 last left).2 := by
  have cuts := LineInput.cuts_iff.2 (rfl : LineInput.linesOf input = _)
  have kept : ∀ t ∈ turns, t.Kept (runner programs) := fun t mem => (rounds.of_mem t mem).2.turn_kept
  exact
    { cuts
      delivers := LineInput.delivers_textLines cuts.isLine
      inOrder := rounds.lines_eq
      first := fun t => rounds.first_eq
      next := fun i t t' => rounds.next_eq
      executes := fun t mem => (rounds.of_mem t mem).2
      kept
      exits := fun i t here leaving => by
        have mem := List.mem_of_getElem? here
        obtain ⟨alone, exitCode, -⟩ := (kept t mem).of_leaving rfl (rounds.of_mem t mem).1 leaving
        exact ⟨rounds.succ_eq_length here leaving, alone, exitCode⟩
      goesOn := fun i t => rounds.succ_lt_length
      begins := rounds.ne_nil rfl
      others := fun t mem => (kept t mem).environment_eq rfl
      session := rounds.last_eq
      requested := fun status asked => by
        simp [conclude, Environment.isLeaving, Session.exitStatus, asked]
      finishes := fun none all => by
        simp [conclude, Session.exitStatus, none, all]
      fails := fun none stops => by
        have staying : last.environment.isLeaving = false := by simp [Environment.isLeaving, none]
        have left_eq := rounds.left_eq
        simp only [staying, Bool.false_eq_true, if_false] at left_eq
        simp [conclude, staying, stops, ← left_eq] }

/-- A shell that reads its lines from the standard input, and begins on the host `opened`, goes through the loop. -/
structure Loops (programs : Programs σ) (words : List Text) (input : Bytes) (h opened : Host) : Prop where
  /-- So it does where every line is executed as the runner does it. -/
  runs : ∀ code left, run programs words input h = some (code, left) → ∃ turns last,
    Loop programs input opened turns last code left ∧
      ∀ t ∈ turns, t.before.execute (runner programs) t.line t.host = some (t.after, t.left)
  /-- So it does in whatever order the parties of the pipelines take their steps. -/
  ends : ∀ code left, Ends (Executes (runner programs)) words input h code left →
    ∃ turns last, Loop programs input opened turns last code left
  /-- It comes to its end if all pipelines do that its lines spell. -/
  returns : (∀ line ∈ (LineInput.ofBytes input).1, ∀ p, Pipeline.ofLine line = .ok (some p) → ∀ ctx g, ∃ w,
      World.Reaches programs ((runner programs).start p ctx g) w ∧ w.progress = .returned) →
    ∃ code left, Ends (Executes (runner programs)) words input h code left

/-- Every line can be executed if the pipeline that it spells comes to an end. -/
theorem exists_executes {line : Text}
    (returns : ∀ p, Pipeline.ofLine line = .ok (some p) → ∀ ctx g, ∃ w,
      World.Reaches programs ((runner programs).start p ctx g) w ∧ w.progress = .returned) (s : Session) (h : Host) :
    ∃ s' h', s.Executes (runner programs) h line s' h' := by
  cases parsed : Pipeline.ofLine line with
  | error err => exact ⟨_, _, .refused parsed⟩
  | ok answer =>
    cases answer with
    | none => exact ⟨_, _, .blank parsed⟩
    | some p =>
      obtain ⟨w, reached, returned⟩ := returns p parsed s.environment.context h
      exact ⟨_, _, .ran parsed reached returned⟩

/-- **The shell executes its lines in order, up to the first `exit`.**  It ends with the code that is requested there,
or with the status of the last line; unless it gets to a line that is no text, which makes it fail. -/
theorem loops_of_reading (reading : Settings.form.read {} words = .accepted s) (asks : s.command = none)
    (opens : openLog s h = .ok opened) (input : Bytes) : Loops programs words input h opened where
  runs code left ran := by
    obtain ⟨turns, last, host, rounds, same⟩ := Ends.exists_rounds reading opens asks (run_eq_some_iff.1 ran)
    obtain ⟨rfl, rfl⟩ := Prod.ext_iff.1 same
    exact ⟨turns, last, loop_of_rounds (rounds.mono executes_of_execute), fun t mem => (rounds.of_mem t mem).2⟩
  ends code left ends := by
    obtain ⟨turns, last, host, rounds, same⟩ := Ends.exists_rounds reading opens asks ends
    obtain ⟨rfl, rfl⟩ := Prod.ext_iff.1 same
    exact ⟨turns, last, loop_of_rounds rounds⟩
  returns all := by
    have answers : ∀ line ∈ (LineInput.ofBytes input).1, ∀ (s : Session) h, ∃ s' h',
        s.Executes (runner programs) h line s' h' := fun line mem => exists_executes (all line mem)
    obtain ⟨turns, last, host, rounds⟩ := Rounds.exists_of_forall answers { environment := Environment.ofHost opened }
      (ready opened)
    exact ⟨_, _, .lines reading opens asks rounds⟩

/-- A line that is refused and a blank one do not keep the shell from the `exit` behind them, and what comes after that
is not looked at. -/
theorem loops_of_reading_exit :
    Settings.form.read {} [] = .accepted {} ∧ openLog {} {} = .ok { logger := ⟨some .warn, .terminal .err, false⟩ } ∧
      (run leaver.programs [] (utf8 "|\n\nexit 3\nexit 4\n".toList ++ [255]) {}).map (·.1) = some 3 ∧
      Loops leaver.programs [] (utf8 "|\n\nexit 3\nexit 4\n".toList ++ [255]) {}
        { logger := ⟨some .warn, .terminal .err, false⟩ } :=
  ⟨rfl, rfl, by decide +kernel, loops_of_reading rfl rfl rfl _⟩

/-- **A line that is no text ends the shell**, although there is a line behind it that would have been executed, and has
requested another exit code. -/
theorem run_of_notText :
    LineInput.linesOf ([255, 10] ++ utf8 "exit 3\n".toList) = [[255, 10], utf8 "exit 3\n".toList] ∧
      (run leaver.programs [] ([255, 10] ++ utf8 "exit 3\n".toList) {}).map (·.1) = some 1 ∧
      (run leaver.programs [] (utf8 "exit 3\n".toList) {}).map (·.1) = some 3 := by
  decide +kernel

end CommandLine

end PipeShell
