import PipeShell.Proofs.CommandLine.Rounds
import PipeShell.Proofs.LineInput
import PipeShell.Proofs.Run.Records

/-!
# A line on the command line, or on the standard input

The shell comes to its exit code on two ways: from a line after `-c`, and from the lines of its standard input.  For
one line both come to the same (`CommandLine.agreement`): the exit code is the same, and so is all of the host that
the shell leaves but for its journal, which has more records where lines are read.

This rests on the records being for nobody inside (`Session.Blind`).  The stages of the line do the same, and in neither
case is there anything to read for the first one.
-/

namespace PipeShell

namespace Session

variable {σ : Type} {r : Runner σ} {schedule : List Party} {s s' : Session} {h h' k left : Host} {line : Text}

/-- Lines are executed without regard to the journal, what is set up before stays so, and an empty line does nothing. -/
structure Blind (E : Session → Host → Text → Session → Host → Prop) : Prop where
  carry : ∀ {s s' h h' k line}, E s h line s' h' → h.EqButJournal k → ∃ k', E s k line s' k' ∧ h'.EqButJournal k'
  setup : ∀ {s s' h h' line}, E s h line s' h' → h'.setup = h.setup
  nothing : ∀ {s s' h h'}, E s h [] s' h' ↔ s' = s ∧ h' = h

/-- The empty line spells nothing. -/
theorem ofLine_nil : Pipeline.ofLine [] = .ok none := rfl

theorem setup_settle (s : Session) (h : Host) (summary : Summary) : (s.settle h summary).2.setup = h.setup := by
  simp only [settle]
  split
  · exact Host.setup_note _ _ _
  · rfl

theorem Executes.setup_eq (unaware : r.programs.Unaware) (builtins : r.registry.Unaware)
    (executes : s.Executes r h line s' h') : h'.setup = h.setup := by
  cases executes with
  | refused parsed => exact Host.setup_report _ _ _
  | blank parsed => rfl
  | ran parsed reached returned =>
    exact (setup_settle _ _ _).trans (Runner.setup_of_reaches unaware builtins reached)

theorem blind_answers (unaware : r.programs.Unaware) (builtins : r.registry.Unaware) : Blind (Answers r) where
  carry answers same := by
    obtain ⟨g, first, second, rfl, rfl⟩ := same.exists_after
    simp only [Answers, execute_after _ unaware builtins, Option.map_eq_some_iff, Prod.exists, Prod.mk.injEq] at answers ⊢
    obtain ⟨s', host, executed, rfl, rfl⟩ := answers
    exact ⟨_, ⟨s', host, executed, rfl, rfl⟩, .of_after host first second⟩
  setup answers := (executes_of_execute answers).setup_eq unaware builtins
  nothing := by simp [Answers, execute, ofLine_nil, eq_comm]

theorem ExecutesBy.carry (unaware : r.programs.Unaware) (builtins : r.registry.Unaware)
    (executes : s.ExecutesBy r schedule h line s' h') (same : h.EqButJournal k) :
    ∃ k', s.ExecutesBy r schedule k line s' k' ∧ h'.EqButJournal k' := by
  obtain ⟨g, first, second, rfl, rfl⟩ := same.exists_after
  cases executes with
  | refused parsed =>
    refine ⟨_, .refused parsed, ?_⟩
    rw [Host.report_after, Host.report_after]
    exact .of_after _ _ _
  | blank parsed => exact ⟨_, .blank parsed, .of_after g first second⟩
  | @ran p trace w parsed replayed returned =>
    have all := Runner.unaware_start builtins p s.environment.context g
    rw [Runner.start_after _ unaware, World.replay_after _ unaware all] at replayed
    obtain ⟨⟨trace, v⟩, found, same⟩ := Option.map_eq_some_iff.1 replayed
    cases same
    have replayed' : (r.start p s.environment.context (g.after second)).replay r.programs schedule =
        some (trace, v.after second) := by
      rw [Runner.start_after _ unaware, World.replay_after _ unaware all, found]
      rfl
    refine ⟨(s.settle (v.host.after second) v.summary).2, .ran (w := v.after second) parsed replayed' returned, ?_⟩
    show (s.settle (v.host.after first) v.summary).2.EqButJournal _
    rw [settle_after, settle_after]
    exact .of_after _ _ _

theorem blind_executesBy (unaware : r.programs.Unaware) (builtins : r.registry.Unaware) (schedule : List Party) :
    Blind (ExecutesBy r schedule) where
  carry executes same := executes.carry unaware builtins same
  setup executes := executes.executes.setup_eq unaware builtins
  nothing := by
    refine fun {s s' h h'} => ⟨fun executes => ?_, ?_⟩
    · cases executes with
      | blank parsed => exact ⟨rfl, rfl⟩
      | refused parsed => cases parsed
      | ran parsed => cases parsed
    · rintro ⟨rfl, rfl⟩
      exact .blank ofLine_nil

end Session

namespace CommandLine

open Session

variable {σ : Type} {programs : Programs σ} {E : Session → Host → Text → Session → Host → Prop} {line : Text}
  {bytes ending input : Bytes} {h h' left : Host} {code : Nat} {last : Session}

/-! ### Hosts on which little is printed -/

/-- Only warnings and errors are printed among the records, and nothing is shown where a line is asked for. -/
structure Quiet (h : Host) : Prop where
  limit : h.logger.limit = Settings.defaultLevel
  noPrompt : isPlainTerminal h.inherited = false

namespace Quiet

theorem of_setup (quiet : Quiet h) (same : h'.setup = h.setup) : Quiet h' := by
  obtain ⟨logger, inherited⟩ := Prod.ext_iff.1 same
  exact ⟨(congrArg Logger.limit logger).trans quiet.limit, (congrArg isPlainTerminal inherited).trans quiet.noPrompt⟩

theorem note (quiet : Quiet h') (same : h.EqButJournal h') {level : Level}
    (silent : level.passes Settings.defaultLevel = false) (text : Text) : h.EqButJournal (h'.note level text) :=
  same.note (quiet.limit ▸ silent) text

theorem askLine (quiet : Quiet h') (same : h.EqButJournal h') : h.EqButJournal (askLine h') := by
  simp only [CommandLine.askLine, quiet.noPrompt]
  exact quiet.note same rfl _

theorem ready (quiet : Quiet h) : h.EqButJournal (ready h) := quiet.note ⟨h.journal, rfl⟩ rfl _

end Quiet

/-! ### The two ways -/

/-- The host with the settings that are made if nothing else is asked for. -/
def logged (h : Host) : Host :=
  { h with logger := ⟨Settings.defaultLevel, .terminal .err, wantsColour h.inherited⟩ }

/-- The session before the first line. -/
def begun (h : Host) : Session := { environment := Environment.ofHost (logged h) }

theorem quiet_logged (noPrompt : isPlainTerminal h.inherited = false) : Quiet (logged h) := ⟨rfl, noPrompt⟩

theorem ends_command_iff :
    Ends E ["-c".toList, line] input h code left ↔
      ∃ last, E (begun h) (logged h) line last left ∧ code = exitCode last.exitStatus := by
  have accepted : Settings.form.read {} ["-c".toList, line] = .accepted { command := some line } := rfl
  have opens : openLog { command := some line } h = .ok (logged h) := rfl
  constructor
  · exact Ends.exists_executes accepted opens rfl
  · rintro ⟨last, executes, rfl⟩
    exact .command accepted opens rfl executes

theorem ends_lines_iff :
    Ends E [] bytes h code left ↔ ∃ turns last host,
      Rounds E askLine (begun h) (ready (logged h)) (LineInput.ofBytes bytes).1 turns last host ∧
        (code, left) = conclude (LineInput.ofBytes bytes).2 last host := by
  have accepted : Settings.form.read {} [] = .accepted {} := rfl
  have opens : openLog {} h = .ok (logged h) := rfl
  constructor
  · exact Ends.exists_rounds accepted opens rfl
  · rintro ⟨turns, last, host, rounds, same⟩
    obtain ⟨rfl, rfl⟩ := Prod.ext_iff.1 same
    exact .lines accepted opens rfl rounds

/-- If all lines are text nothing but a record comes after the last one. -/
theorem conclude_true (s : Session) (h : Host) :
    conclude true s h = (exitCode s.exitStatus, h.note .info "leaving interpreter".toList) := rfl

/-- The host on which the shell has asked for its first line. -/
def asked (h : Host) : Host := askLine (ready (logged h))

theorem quiet_asked (noPrompt : isPlainTerminal h.inherited = false) :
    (logged h).EqButJournal (asked h) :=
  have quiet := quiet_logged noPrompt
  (quiet.of_setup quiet.ready.setup_eq).askLine quiet.ready

/-- The shell that reads one line executes it, and adds to the host only records. -/
theorem exists_executes_of_ends (blind : Blind E) (noPrompt : isPlainTerminal h.inherited = false)
    (given : LineInput.ofBytes bytes = (if line = [] ∧ ending = [] then [] else [line], true))
    (ends : Ends E [] bytes h code left) :
    ∃ last host, E (begun h) (asked h) line last host ∧ code = exitCode last.exitStatus ∧ host.EqButJournal left := by
  have quiet := (quiet_logged noPrompt).of_setup (quiet_asked noPrompt).setup_eq
  obtain ⟨turns, last, host, rounds, concluded⟩ := ends_lines_iff.1 ends
  simp only [given, conclude_true, Prod.mk.injEq] at rounds concluded
  obtain ⟨rfl, rfl⟩ := concluded
  split at rounds
  · rename_i nothing
    cases rounds with
    | left leaving => cases leaving
    | noMore =>
      refine ⟨_, _, by rw [nothing.1]; exact blind.nothing.2 ⟨rfl, rfl⟩, rfl, ?_⟩
      exact quiet.note ⟨_, rfl⟩ rfl _
  · cases rounds with
    | left leaving => cases leaving
    | @turn _ s' _ _ host' _ _ _ _ staying executes later =>
      have calm : Quiet host' := quiet.of_setup (blind.setup executes)
      cases later with
      | left leaving => exact ⟨_, _, executes, rfl, calm.note ⟨_, rfl⟩ rfl _⟩
      | noMore staying =>
        have same := calm.askLine ⟨_, rfl⟩
        exact ⟨_, _, executes, rfl, (calm.of_setup same.setup_eq).note same rfl _⟩

theorem ends_of_rounds {lines : List Text} {turns : List Turn} {host : Host}
    (given : LineInput.ofBytes bytes = (lines, true))
    (rounds : Rounds E askLine (begun h) (ready (logged h)) lines turns last host) :
    Ends E [] bytes h (exitCode last.exitStatus) (host.note .info "leaving interpreter".toList) :=
  ends_lines_iff.2 ⟨turns, last, host, by rwa [given], by rw [given]; rfl⟩

theorem exists_ends_of_executes (blind : Blind E) (noPrompt : isPlainTerminal h.inherited = false)
    (given : LineInput.ofBytes bytes = (if line = [] ∧ ending = [] then [] else [line], true)) {host : Host}
    (executes : E (begun h) (asked h) line last host) :
    ∃ left, Ends E [] bytes h (exitCode last.exitStatus) left ∧ host.EqButJournal left := by
  have quiet := (quiet_logged noPrompt).of_setup (quiet_asked noPrompt).setup_eq
  have calm : Quiet host := quiet.of_setup (blind.setup executes)
  have staying : (begun h).environment.isLeaving = false := rfl
  by_cases nothing : line = [] ∧ ending = []
  · rw [if_pos nothing] at given
    obtain ⟨rfl, rfl⟩ := nothing
    obtain ⟨rfl, rfl⟩ := blind.nothing.1 executes
    exact ⟨_, ends_of_rounds given (.noMore staying), calm.note (.refl _) rfl _⟩
  · rw [if_neg nothing] at given
    cases leaving : last.environment.isLeaving with
    | true => exact ⟨_, ends_of_rounds given (.turn staying executes (.left leaving)), calm.note (.refl _) rfl _⟩
    | false =>
      have same := calm.askLine (.refl host)
      exact ⟨_, ends_of_rounds given (.turn staying executes (.noMore leaving)),
        (calm.of_setup same.setup_eq).note same rfl _⟩

/-- Two shells on the same host, with words and input of their own, end with the same exit codes, and what they leave
differs in the journal at most. -/
def EndAlike (E : Session → Host → Text → Session → Host → Prop) (h : Host) (words : List Text) (input : Bytes)
    (words' : List Text) (input' : Bytes) : Prop :=
  ∀ code,
    (∀ left, Ends E words input h code left → ∃ left', Ends E words' input' h code left' ∧ left.EqButJournal left') ∧
    ∀ left', Ends E words' input' h code left' → ∃ left, Ends E words input h code left ∧ left.EqButJournal left'

/-- The shell that is given a line after `-c` ends as the one that reads the line. -/
theorem endAlike_of_blind (blind : Blind E) (noPrompt : isPlainTerminal h.inherited = false)
    (given : LineInput.ofBytes bytes = (if line = [] ∧ ending = [] then [] else [line], true)) :
    EndAlike E h ["-c".toList, line] input [] bytes := by
  intro code
  constructor
  · intro left ends
    obtain ⟨last, executes, rfl⟩ := ends_command_iff.1 ends
    obtain ⟨host, executes', same⟩ := blind.carry executes (quiet_asked noPrompt)
    obtain ⟨left', ends', same'⟩ := exists_ends_of_executes blind noPrompt given executes'
    exact ⟨left', ends', same.trans same'⟩
  · intro left' ends'
    obtain ⟨last, host, executes', rfl, same'⟩ := exists_executes_of_ends blind noPrompt given ends'
    obtain ⟨left, executes, same⟩ := blind.carry executes' (quiet_asked noPrompt).symm
    exact ⟨left, ends_command_iff.2 ⟨last, executes, rfl⟩, same.symm.trans same'⟩

/-! ### Agreement -/

/-- A line is executed alike after `-c` and on the standard input, where `ending` is behind it.  While the one shell
executes its line, `input` is on its standard input. -/
structure Agreement (programs : Programs σ) (line : Text) (ending input : Bytes) (h : Host) : Prop where
  /-- The exit code is the same, and so is the host but for its journal. -/
  runs : Option.Rel (fun a b => a.1 = b.1 ∧ a.2.EqButJournal b.2) (run programs ["-c".toList, line] input h)
    (run programs [] (utf8 line ++ ending) h)
  /-- So it is under every schedule of the stages and relays, if both shells run under the same one. -/
  schedules : ∀ schedule, EndAlike (ExecutesBy (runner programs) schedule) h ["-c".toList, line] input []
    (utf8 line ++ ending)
  /-- Under the same schedule all stages read and write the same. -/
  stages : ∀ p, Pipeline.ofLine line = .ok (some p) → ∀ schedule,
    Option.Rel (fun a b => a.1 = b.1 ∧ a.2.seats = b.2.seats ∧ a.2.host.EqButJournal b.2.host)
      (((runner programs).start p (begun h).environment.context (logged h)).replay programs schedule)
      (((runner programs).start p (begun h).environment.context (asked h)).replay programs schedule)
  /-- The first stage finds its input at the end, in both cases. -/
  input : ∀ p, Pipeline.ofLine line = .ok (some p) → ∀ g ∈ [logged h, asked h], ∀ w,
    World.Reaches programs ((runner programs).start p (begun h).environment.context g) w →
      ∀ limit, (w.input 0).read? limit = some ([], w.input 0)

theorem rel_run_of_endAlike {words words' : List Text} {input' : Bytes}
    (alike : EndAlike (Answers (runner programs)) h words input words' input') :
    Option.Rel (fun a b => a.1 = b.1 ∧ a.2.EqButJournal b.2) (run programs words input h)
      (run programs words' input' h) := by
  cases one : run programs words input h with
  | some a =>
    obtain ⟨left', ends', same⟩ := (alike a.1).1 a.2 (run_eq_some_iff.1 one)
    rw [run_eq_some_iff.2 ends']
    exact .some ⟨rfl, same⟩
  | none =>
    cases other : run programs words' input' h with
    | none => exact .none
    | some b =>
      obtain ⟨left, ends, -⟩ := (alike b.1).2 b.2 (run_eq_some_iff.1 other)
      rw [run_eq_some_iff.2 ends] at one
      cases one

/-- Stages do the same on hosts that differ in the journal. -/
theorem rel_replay_of_eqButJournal {r : Runner σ} (unaware : r.programs.Unaware) (builtins : r.registry.Unaware)
    (same : h.EqButJournal h') (p : Pipeline) (ctx : Context) (schedule : List Party) :
    Option.Rel (fun a b => a.1 = b.1 ∧ a.2.seats = b.2.seats ∧ a.2.host.EqButJournal b.2.host)
      ((r.start p ctx h).replay r.programs schedule) ((r.start p ctx h').replay r.programs schedule) := by
  obtain ⟨g, first, second, rfl, rfl⟩ := same.exists_after
  have all := Runner.unaware_start builtins p ctx g
  simp only [Runner.start_after _ unaware, World.replay_after _ unaware all]
  cases (r.start p ctx g).replay r.programs schedule with
  | none => exact .none
  | some result => exact .some ⟨rfl, rfl, .of_after _ _ _⟩

/-- **A line after `-c` and the same line on the standard input** come to the same.  The line has no line feed, no
carriage return at its end, and no backspace that takes anything back; and no prompt is shown. -/
theorem agreement (unaware : programs.Unaware) (whole : '\n' ∉ line) (noReturn : line.getLast? ≠ some '\r')
    (typed : LineInput.edited line = line) (ends : ending = [] ∨ ending = [10])
    (noPrompt : isPlainTerminal h.inherited = false) : Agreement programs line ending input h := by
  have builtins : (runner programs).registry.Unaware := Registry.standard_unaware
  have given := LineInput.ofBytes_of_line ends whole noReturn typed
  exact
    { runs := rel_run_of_endAlike (endAlike_of_blind (blind_answers unaware builtins) noPrompt given)
      schedules := fun schedule => endAlike_of_blind (blind_executesBy unaware builtins schedule) noPrompt given
      stages := fun p _ schedule => rel_replay_of_eqButJournal unaware builtins (quiet_asked noPrompt) p _ schedule
      input := fun p _ g _ w reached limit => by
        have unfed : ¬ (runner programs).Fed p (begun h).environment.context g 0 := by
          rintro ⟨k, _, _, _, zero, -⟩
          cases zero
        have wiring := Runner.wiring_of_reaches (r := runner programs) reached
        rw [World.input_eq_absent wiring (Runner.start_input_of_not_fed unfed)]
        rfl }

/-- A line that asks for an exit, on a host with nothing on it. -/
theorem agreement_exit :
    ('\n' ∉ "exit 3".toList ∧ LineInput.edited "exit 3".toList = "exit 3".toList) ∧
      (run leaver.programs ["-c".toList, "exit 3".toList] [65] {}).map (·.1) = some 3 ∧
      Agreement leaver.programs "exit 3".toList [10] [65] {} := by
  have unaware : leaver.programs.Unaware := ⟨fun _ _ _ => rfl, fun _ => trivial⟩
  exact ⟨by decide, by decide +kernel,
    agreement unaware (by decide) (by decide) (by decide) (.inr rfl) (by decide)⟩

end CommandLine

end PipeShell
