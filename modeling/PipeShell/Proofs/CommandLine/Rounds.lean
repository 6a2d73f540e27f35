import PipeShell.CommandLine
import PipeShell.Proofs.Session

/-!
# The shell from its start to its exit code

A shell executes one line, or line after line until one has requested an exit (`Session.Rounds`), and then it ends with
an exit code (`CommandLine.Ends`).  How a line is executed is left open: it may be in the order of steps that the runner
takes, under a given schedule (`Session.ExecutesBy`), or in any order at all (`Session.Executes`).
-/

namespace PipeShell

namespace Session

variable {σ : Type} {r : Runner σ} {s s' : Session} {h h' : Host} {line : Text} {lines : List Text}
  {asked : Host → Host} {E F : Session → Host → Text → Session → Host → Prop} {turns : List Turn} {t t' : Turn} {i : Nat}

/-- A line is executed in the order of steps that the runner takes. -/
def Answers (r : Runner σ) (s : Session) (h : Host) (line : Text) (s' : Session) (h' : Host) : Prop :=
  s.execute r line h = some (s', h')

/-- A line is executed, and the parties of its pipeline take their steps in the order of the schedule. -/
inductive ExecutesBy (r : Runner σ) (schedule : List Party) (s : Session) (h : Host) (line : Text) :
    Session → Host → Prop
  | refused {err : SyntaxError} (parsed : Pipeline.ofLine line = .error err) :
      ExecutesBy r schedule s h line { s with lastStatus := refusedStatus }
        (h.report r.err ("lineshell: ".toList ++ err.message))
  | blank (parsed : Pipeline.ofLine line = .ok none) : ExecutesBy r schedule s h line s h
  | ran {p : Pipeline} {trace : List Event} {w : World σ} (parsed : Pipeline.ofLine line = .ok (some p))
      (replayed : (r.start p s.environment.context h).replay r.programs schedule = some (trace, w))
      (returned : w.progress = .returned) :
      ExecutesBy r schedule s h line (s.settle w.host w.summary).1 (s.settle w.host w.summary).2

theorem ExecutesBy.executes {schedule : List Party} (executes : s.ExecutesBy r schedule h line s' h') :
    s.Executes r h line s' h' := by
  cases executes with
  | refused parsed => exact .refused parsed
  | blank parsed => exact .blank parsed
  | ran parsed replayed returned => exact .ran parsed (World.Runs.of_replay replayed).reaches returned

/-- Lines are executed one after the other, as long as no exit has been requested.  The host hears of each attempt to
get a line. -/
inductive Rounds (E : Session → Host → Text → Session → Host → Prop) (asked : Host → Host) :
    Session → Host → List Text → List Turn → Session → Host → Prop
  /-- An exit has been requested. -/
  | left {s : Session} {h : Host} {lines : List Text} (leaving : s.environment.isLeaving = true) :
      Rounds E asked s h lines [] s h
  /-- There are no more lines. -/
  | noMore {s : Session} {h : Host} (staying : s.environment.isLeaving = false) : Rounds E asked s h [] [] s (asked h)
  | turn {s s' last : Session} {h h' left : Host} {line : Text} {lines : List Text} {turns : List Turn}
      (staying : s.environment.isLeaving = false) (executes : E s (asked h) line s' h')
      (later : Rounds E asked s' h' lines turns last left) :
      Rounds E asked s h (line :: lines) (⟨s, asked h, line, s', h'⟩ :: turns) last left

theorem Rounds.mono (weaker : ∀ {s h line s' h'}, E s h line s' h' → F s h line s' h')
    (rounds : Rounds E asked s h lines turns s' h') : Rounds F asked s h lines turns s' h' := by
  induction rounds with
  | left leaving => exact .left leaving
  | noMore staying => exact .noMore staying
  | turn staying executes later ih => exact .turn staying (weaker executes) ih

/-- The rounds in which every line is executed as the runner does it. -/
theorem executeAll_eq_some_iff :
    s.executeAll r asked h lines = some (s', h') ↔ ∃ turns, Rounds (Answers r) asked s h lines turns s' h' := by
  induction lines generalizing s h with
  | nil =>
    simp only [executeAll, Option.some.injEq, Prod.mk.injEq]
    constructor
    · rintro ⟨rfl, rfl⟩
      cases leaving : s.environment.isLeaving with
      | true => exact ⟨[], .left leaving⟩
      | false => exact ⟨[], .noMore leaving⟩
    · rintro ⟨turns, rounds⟩
      cases rounds with
      | left leaving => simp [leaving]
      | noMore staying => simp [staying]
  | cons line lines ih =>
    cases leaving : s.environment.isLeaving with
    | true =>
      simp only [executeAll, leaving, if_true, Option.some.injEq, Prod.mk.injEq]
      constructor
      · rintro ⟨rfl, rfl⟩
        exact ⟨[], .left leaving⟩
      · rintro ⟨turns, rounds⟩
        cases rounds with
        | left => exact ⟨rfl, rfl⟩
        | turn staying => simp [leaving] at staying
    | false =>
      simp only [executeAll, leaving, Bool.false_eq_true, if_false, Option.bind_eq_some_iff, Prod.exists]
      constructor
      · rintro ⟨s₁, h₁, answers, later⟩
        obtain ⟨turns, rounds⟩ := ih.1 later
        exact ⟨_, .turn leaving answers rounds⟩
      · rintro ⟨turns, rounds⟩
        cases rounds with
        | left gone => simp [leaving] at gone
        | turn staying answers rounds => exact ⟨_, _, answers, ih.2 ⟨_, rounds⟩⟩

namespace Rounds

variable (rounds : Rounds E asked s h lines turns s' h')

include rounds

/-- The lines are executed in order, from the first one on. -/
theorem lines_eq : turns.map (·.line) = lines.take turns.length := by
  induction rounds with
  | left | noMore => rfl
  | turn staying executes later ih => simp [ih]

/-- No line is executed after an exit has been requested. -/
theorem of_mem : ∀ t ∈ turns, t.before.environment.isLeaving = false ∧ E t.before t.host t.line t.after t.left := by
  induction rounds with
  | left | noMore => simp
  | turn staying executes later ih => exact List.forall_mem_cons.2 ⟨⟨staying, executes⟩, ih⟩

theorem first_eq (first : turns[0]? = some t) : t.before = s ∧ t.host = asked h := by
  cases rounds with
  | left | noMore => cases first
  | turn staying executes later =>
    cases first
    exact ⟨rfl, rfl⟩

/-- Each line is executed in the session that the line before it has left. -/
theorem next_eq (here : turns[i]? = some t) (next : turns[i + 1]? = some t') :
    t'.before = t.after ∧ t'.host = asked t.left := by
  induction rounds generalizing i with
  | left | noMore => cases here
  | turn staying executes later ih =>
    cases i with
    | zero =>
      cases here
      exact later.first_eq next
    | succ i => exact ih here next

/-- The line after which an exit has been requested is the last one. -/
theorem succ_eq_length (here : turns[i]? = some t) (leaving : t.after.environment.isLeaving = true) :
    i + 1 = turns.length := by
  obtain ⟨hi, -⟩ := List.getElem?_eq_some_iff.1 here
  by_contra more
  obtain ⟨t', next⟩ : ∃ t', turns[i + 1]? = some t' := ⟨_, List.getElem?_eq_getElem (by omega)⟩
  have staying := (rounds.of_mem t' (List.mem_of_getElem? next)).1
  rw [(rounds.next_eq here next).1, leaving] at staying
  cases staying

/-- If none has been requested all lines are executed. -/
theorem length_eq (staying : s'.environment.isLeaving = false) : turns.length = lines.length := by
  induction rounds with
  | left leaving => simp [leaving] at staying
  | noMore => rfl
  | turn _ _ _ ih => simp [ih staying]

theorem last_eq : s' = (turns.getLast?.map (·.after)).getD s := by
  induction rounds with
  | left | noMore => rfl
  | @turn _ _ _ _ _ _ _ _ turns _ _ _ ih =>
    rw [List.getLast?_cons]
    cases last : turns.getLast? <;> simpa [last] using ih

/-- After a line that requests no exit the next one is executed. -/
theorem succ_lt_length (here : turns[i]? = some t) (staying : t.after.environment.isLeaving = false)
    (more : i + 1 < lines.length) : i + 1 < turns.length := by
  obtain ⟨hi, -⟩ := List.getElem?_eq_some_iff.1 here
  by_contra none
  have final : turns.getLast? = some t := by rw [List.getLast?_eq_getElem?, show turns.length - 1 = i by omega, here]
  have last := rounds.last_eq
  rw [final] at last
  have all := rounds.length_eq (last ▸ staying)
  omega

theorem ne_nil (staying : s.environment.isLeaving = false) (some : lines ≠ []) : turns ≠ [] := by
  rintro rfl
  cases rounds with
  | left leaving => simp [leaving] at staying
  | noMore => exact some rfl

/-- The host has heard of the attempt to get a further line, unless an exit has been requested. -/
theorem left_eq : h' = if s'.environment.isLeaving then (turns.getLast?.map (·.left)).getD h
    else asked ((turns.getLast?.map (·.left)).getD h) := by
  induction rounds with
  | left leaving => simp [leaving]
  | noMore staying => simp [staying]
  | @turn _ _ _ _ _ _ _ _ turns _ _ _ ih =>
    rw [List.getLast?_cons]
    cases last : turns.getLast? <;> simpa [last] using ih

/-- The shell leaves with the exit code of a line that requests one, if no line before it does. -/
theorem exitCode_eq {status : Int} (staying : s.environment.isLeaving = false) (here : lines[i]? = some line)
    (earlier : ∀ j < i, ∀ other, lines[j]? = some other → ∀ {s s' h h'}, E s h other s' h' →
      s.environment.isLeaving = false → s'.environment.isLeaving = false)
    (requests : ∀ {s s' h h'}, E s h line s' h' → s'.environment.exitCode = some status) :
    s'.environment.exitCode = some status := by
  induction rounds generalizing i with
  | left leaving =>
    rw [staying] at leaving
    cases leaving
  | noMore => cases here
  | turn _ executes later ih =>
    cases i with
    | zero =>
      cases here
      have code := requests executes
      -- Nothing is executed after that.
      cases later with
      | left => exact code
      | noMore staying | turn staying => simp [Environment.isLeaving, code] at staying
    | succ i =>
      have staying := earlier 0 (Nat.zero_lt_succ i) _ rfl executes staying
      exact ih staying here fun j hj other there => earlier (j + 1) (Nat.succ_lt_succ hj) other there

omit rounds in
/-- If every line can be executed the session comes to an end. -/
theorem exists_of_forall (answers : ∀ line ∈ lines, ∀ s h, ∃ s' h', E s h line s' h') (s : Session) (h : Host) :
    ∃ turns last left, Rounds E asked s h lines turns last left := by
  induction lines generalizing s h with
  | nil =>
    cases leaving : s.environment.isLeaving with
    | true => exact ⟨[], s, h, .left leaving⟩
    | false => exact ⟨[], s, asked h, .noMore leaving⟩
  | cons line lines ih =>
    cases leaving : s.environment.isLeaving with
    | true => exact ⟨[], s, h, .left leaving⟩
    | false =>
      obtain ⟨first, later⟩ := List.forall_mem_cons.1 answers
      obtain ⟨s', h', executes⟩ := first s (asked h)
      obtain ⟨turns, last, left, rounds⟩ := ih later s' h'
      exact ⟨_, last, left, .turn leaving executes rounds⟩

end Rounds

end Session

namespace CommandLine

open Session

variable {σ : Type} {programs : Programs σ} {words : List Text} {input : Bytes} {h left : Host} {code : Nat}
  {E F : Session → Host → Text → Session → Host → Prop}

/-- What runs the pipelines of the shell. -/
def runner (programs : Programs σ) : Runner σ := { registry := Registry.standard, programs }

/-- The host on which the shell begins to read lines. -/
def ready (h : Host) : Host := h.note .debug ("GraphemeClusterMode: ".toList ++ clusterMode h.inherited)

/-- What the shell ends with after its last line, where `allText` tells whether it has got all lines: the exit code
that has been requested, else the status; and a failure if there is a line left that is no text and no exit has been
requested. -/
def conclude (allText : Bool) (s : Session) (h : Host) : Nat × Host :=
  if allText ∨ s.environment.isLeaving then (exitCode s.exitStatus, h.note .info "leaving interpreter".toList)
  else (1, print h .err (failure notText notText))

/-- The shell ends with an exit code.  Its lines are executed in one of the ways that `E` allows. -/
inductive Ends (E : Session → Host → Text → Session → Host → Prop) (words : List Text) (input : Bytes) (h : Host) :
    Nat → Host → Prop
  | usage (reading : Settings.form.read {} words = .usage) :
      Ends E words input h 0 (print h .out (Settings.usage.text ++ ['\n']))
  | mistake {text : Text} (reading : Settings.form.read {} words = .mistake text) :
      Ends E words input h 1 (print h .err (text ++ "\nRun lineshell --help for more information.\n".toList))
  | unopened {s : Settings} {message : Text} (reading : Settings.form.read {} words = .accepted s)
      (failed : openLog s h = .error message) : Ends E words input h 1 (print h .err message)
  /-- A single line is executed. -/
  | command {s : Settings} {line : Text} {opened left : Host} {last : Session}
      (reading : Settings.form.read {} words = .accepted s) (opens : openLog s h = .ok opened)
      (asks : s.command = some line) (executes : E { environment := Environment.ofHost opened } opened line last left) :
      Ends E words input h (exitCode last.exitStatus) left
  /-- The lines of the standard input are executed. -/
  | lines {s : Settings} {opened left : Host} {last : Session} {turns : List Turn}
      (reading : Settings.form.read {} words = .accepted s) (opens : openLog s h = .ok opened)
      (asks : s.command = none)
      (rounds : Rounds E askLine { environment := Environment.ofHost opened } (ready opened)
        (LineInput.ofBytes input).1 turns last left) :
      Ends E words input h (conclude (LineInput.ofBytes input).2 last left).1
        (conclude (LineInput.ofBytes input).2 last left).2

section Reading

variable {s : Settings} {opened : Host} (reading : Settings.form.read {} words = .accepted s)
  (opens : openLog s h = .ok opened)

include reading opens

/-- A shell that is asked for a single line ends when that is executed. -/
theorem Ends.exists_executes {line : Text} (asks : s.command = some line) (ends : Ends E words input h code left) :
    ∃ last, E { environment := Environment.ofHost opened } opened line last left ∧ code = exitCode last.exitStatus := by
  cases ends with
  | usage reading' | mistake reading' => cases reading.symm.trans reading'
  | unopened reading' failed =>
    cases reading.symm.trans reading'
    cases opens.symm.trans failed
  | command reading' opens' asks' executes =>
    cases reading.symm.trans reading'
    cases opens.symm.trans opens'
    cases asks.symm.trans asks'
    exact ⟨_, executes, rfl⟩
  | lines reading' opens' asks' rounds =>
    cases reading.symm.trans reading'
    cases asks.symm.trans asks'

/-- A shell that is asked for none goes through its rounds. -/
theorem Ends.exists_rounds (asks : s.command = none) (ends : Ends E words input h code left) : ∃ turns last host,
    Rounds E askLine { environment := Environment.ofHost opened } (ready opened) (LineInput.ofBytes input).1 turns last
      host ∧ (code, left) = conclude (LineInput.ofBytes input).2 last host := by
  cases ends with
  | usage reading' | mistake reading' => cases reading.symm.trans reading'
  | unopened reading' failed =>
    cases reading.symm.trans reading'
    cases opens.symm.trans failed
  | command reading' opens' asks' executes =>
    cases reading.symm.trans reading'
    cases asks.symm.trans asks'
  | lines reading' opens' asks' rounds =>
    cases reading.symm.trans reading'
    cases opens.symm.trans opens'
    exact ⟨_, _, _, rounds, rfl⟩

end Reading

/-- The run of the shell is what it ends with where every line is executed as the runner does it. -/
theorem run_eq_some_iff :
    run programs words input h = some (code, left) ↔ Ends (Answers (runner programs)) words input h code left := by
  constructor
  · intro ran
    simp only [run] at ran
    split at ran
    · rename_i reading
      cases ran
      exact .usage reading
    · rename_i text reading
      cases ran
      exact .mistake reading
    · rename_i s reading
      simp only [runWith] at ran
      split at ran
      · rename_i message failed
        cases ran
        exact .unopened reading failed
      · rename_i opened opens
        split at ran
        · rename_i line asks
          obtain ⟨⟨last, host⟩, executed, same⟩ := Option.map_eq_some_iff.1 ran
          cases same
          exact .command reading opens asks executed
        · rename_i asks
          obtain ⟨⟨last, host⟩, executed, same⟩ := Option.map_eq_some_iff.1 ran
          obtain ⟨turns, rounds⟩ := executeAll_eq_some_iff.1 executed
          have ends := Ends.lines (E := Answers (runner programs)) reading opens asks rounds
          rwa [show conclude (LineInput.ofBytes input).2 last host = (code, left) from same] at ends
  · intro ends
    cases ends with
    | usage reading => simp only [run, reading]
    | mistake reading => simp only [run, reading]
    | unopened reading failed => simp only [run, reading, runWith, failed]
    | command reading opens asks executes =>
      simp only [run, reading, runWith, opens, asks]
      exact congrArg (Option.map _) executes
    | lines reading opens asks rounds =>
      simp only [run, reading, runWith, opens, asks]
      exact congrArg (Option.map _) (executeAll_eq_some_iff.2 ⟨_, rounds⟩)

end CommandLine

end PipeShell
