import PipeShell.Session
import PipeShell.Proofs.Pipeline.Grammar
import PipeShell.Proofs.Run.Request

/-!
# What a session keeps

A session is a row of lines, and between two of them anything may happen to the host (`Session.History`).  Each line
changes the session in one of a few ways (`Session.Turn.Kept`): a line that is refused is reported and has the status 2,
a blank line changes nothing, and all other lines have the status of their last stage.  The directory and the exit code
change only if the only stage of a line is a builtin and asks for it.  So the variables stay as they are, and an exit
that has been requested stays requested (`Session.History.kept`).
-/

namespace PipeShell

/-- What a pipeline leaves behind when the shell has returned. -/
def World.summary {σ : Type} (w : World σ) : Summary := ⟨w.fates, w.request.directory, w.request.exit⟩

namespace Session

variable {σ : Type} {r : Runner σ} {s s' : Session} {h h' : Host} {line : Text}

/-- A line is executed, and the parties of its pipeline take their steps in any order. -/
inductive Executes (r : Runner σ) (s : Session) (h : Host) (line : Text) : Session → Host → Prop
  | refused {err : SyntaxError} (parsed : Pipeline.ofLine line = .error err) :
      Executes r s h line { s with lastStatus := refusedStatus } (h.report r.err ("lineshell: ".toList ++ err.message))
  | blank (parsed : Pipeline.ofLine line = .ok none) : Executes r s h line s h
  | ran {p : Pipeline} {w : World σ} (parsed : Pipeline.ofLine line = .ok (some p))
      (reached : World.Reaches r.programs (r.start p s.environment.context h) w) (returned : w.progress = .returned) :
      Executes r s h line (s.settle w.host w.summary).1 (s.settle w.host w.summary).2

/-- The order in which the parties are asked is one of them. -/
theorem executes_of_execute (executed : s.execute r line h = some (s', h')) : s.Executes r h line s' h' := by
  unfold execute at executed
  split at executed
  · rename_i err parsed
    cases executed
    exact .refused parsed
  · rename_i parsed
    cases executed
    exact .blank parsed
  · rename_i p parsed
    obtain ⟨⟨summary, host⟩, ran, settled⟩ := Option.map_eq_some_iff.1 executed
    obtain ⟨w, reached, returned, rfl, rfl⟩ := Runner.reaches_of_run ran
    have whole : s.Executes r h line _ _ := .ran parsed reached returned
    rwa [World.summary, show s.settle _ _ = (s', h') from settled] at whole

/-- The session with another exit code, or with none. -/
def withExit (s : Session) (code : Option Int) : Session := { s with environment.exitCode := code }

/-- Whether an exit has been requested does not matter to what a line does. -/
theorem Executes.withExit (executes : s.Executes r h line s' h') (code : Option Int) :
    ∃ code', (s.withExit code).Executes r h line (s'.withExit code') h' := by
  cases executes with
  | refused parsed => exact ⟨code, .refused parsed⟩
  | blank parsed => exact ⟨code, .blank parsed⟩
  | @ran p w parsed reached returned =>
    exact ⟨w.request.exit <|> code, .ran (s := s.withExit code) parsed reached returned⟩

/-- A line that is given to a session, with the session and the host before and after it. -/
structure Turn where
  before : Session
  host : Host
  line : Text
  after : Session
  left : Host

/-- A session, line by line.  Between the lines anything may happen to the host. -/
inductive History (r : Runner σ) (first : Session) : List Turn → Session → Prop
  | start : History r first [] first
  | line {turns : List Turn} {last after : Session} {host left : Host} {line : Text}
      (before : History r first turns last) (executes : last.Executes r host line after left) :
      History r first (turns ++ [⟨last, host, line, after, left⟩]) after

/-- What is kept by a line that spells the pipeline `p`, which has come to its end as `w`. -/
structure Turn.Passes (r : Runner σ) (t : Turn) (p : Pipeline) (w : World σ) : Prop where
  /-- Every stage has ended, and the status is that of the last one. -/
  statuses : w.fates.length = p.stages.length ∧ ∀ i, w.actor? i = w.fates[i]?.map .ended
  status : ∃ fate, w.fates.getLast? = some fate ∧ t.after.lastStatus = fate.code
  /-- The streams of the stages go where the rules of connection say. -/
  connected : r.Wired p t.before.environment.context t.host ∧
    w.wiring = (r.start p t.before.environment.context t.host).wiring
  /-- Every builtin that starts is run to its end, and its status counts. -/
  replied : ∀ k, (r.start p t.before.environment.context t.host).role k = .builtin →
    ∃ reply, r.Replied p t.before.environment.context t.host w k reply
  /-- What a builtin asks for that is the only stage is done. -/
  alone : ∀ reply, r.RepliesAlone p t.before.environment.context t.host reply →
    w.fates = [.exited reply.status] ∧
      t.after.environment.directory = reply.directory.getD t.before.environment.directory ∧
      t.after.environment.exitCode = (reply.exit <|> t.before.environment.exitCode)
  /-- All other pipelines change neither. -/
  others : (¬ ∃ reply, r.RepliesAlone p t.before.environment.context t.host reply) →
    t.after.environment = t.before.environment
  several : 2 ≤ p.stages.length → t.after.environment = t.before.environment
  /-- With the standard builtins a new directory is an old one of the host, by its canonical name. -/
  canonical : r.registry = Registry.standard → t.host.Rooted → ∀ reply directory,
    r.RepliesAlone p t.before.environment.context t.host reply → reply.directory = some directory →
      isAbsolute directory = true ∧ t.host.canonical? directory = some directory ∧
        t.host.isDirectory directory = true

/-- What is kept by a line. -/
structure Turn.Kept (r : Runner σ) (t : Turn) : Prop where
  vars : t.after.environment.vars = t.before.environment.vars
  leaving : t.before.environment.isLeaving = true → t.after.environment.isLeaving = true
  /-- After an exit has been requested a line does what it would have done before. -/
  heedless : ∀ code, ∃ code', (t.before.withExit code).Executes r t.host t.line (t.after.withExit code') t.left
  /-- A line that is refused is reported, and it does nothing else. -/
  refused : ∀ err, Pipeline.ofLine t.line = .error err →
    t.before.execute r t.line t.host = some (t.after, t.left) ∧ t.after = { t.before with lastStatus := 2 } ∧
      t.left = t.host.report r.err ("lineshell: ".toList ++ err.message) ∧
      (r.err = .terminal .err → t.left =
        { t.host with terminalErr := t.host.terminalErr ++ utf8 ("lineshell: ".toList ++ err.message ++ ['\n']) })
  blank : Pipeline.ofLine t.line = .ok none →
    t.before.execute r t.line t.host = some (t.after, t.left) ∧ t.after = t.before ∧ t.left = t.host
  passes : ∀ p, Pipeline.ofLine t.line = .ok (some p) → ∃ w, World.Reaches r.programs
    (r.start p t.before.environment.context t.host) w ∧ w.progress = .returned ∧ t.Passes r p w
  /-- The directory changes only if the only stage of the line asks for it. -/
  moves : t.after.environment.directory ≠ t.before.environment.directory → ∃ p reply,
    Pipeline.ofLine t.line = .ok (some p) ∧ r.RepliesAlone p t.before.environment.context t.host reply ∧
      reply.directory = some t.after.environment.directory
  /-- The exit code changes only if the only stage of the line asks for it. -/
  exits : t.after.environment.exitCode ≠ t.before.environment.exitCode → ∃ p reply code,
    Pipeline.ofLine t.line = .ok (some p) ∧ r.RepliesAlone p t.before.environment.context t.host reply ∧
      reply.exit = some code ∧ t.after.environment.exitCode = some code
  /-- A line without programs is executed to its end, given the time. -/
  returns : (∀ p, Pipeline.ofLine t.line = .ok (some p) →
      ∀ k, (r.start p t.before.environment.context t.host).role k ≠ .program) →
    ∃ steps, ∀ patience, steps ≤ patience →
      t.before.execute { r with patience } t.line t.host = some (t.after, t.left)

end Session

/-- A line that spells a pipeline has a stage. -/
theorem Pipeline.stages_ne_nil {p : Pipeline} {line : Text} (parsed : Pipeline.ofLine line = .ok (some p)) :
    p.stages ≠ [] := by
  obtain ⟨answer, verdict⟩ := exists_verdict (Lexed.ofLine line)
  obtain rfl : .ok (some p) = answer := parsed.symm.trans verdict.ofLine_eq
  generalize Lexed.ofLine line = lexed at verdict
  cases verdict with
  | accepted cut spelled =>
    rintro empty
    rw [empty] at spelled
    exact cut.ne_nil (List.forall₂_nil_left_iff.1 spelled)

namespace Session

variable {σ : Type} {r : Runner σ} {s s' : Session} {h h' : Host} {line : Text} {p : Pipeline} {w : World σ}

/-- What the shell asks for while a pipeline runs is done when it has returned. -/
theorem environment_settle (s : Session) (h : Host) (w : World σ) :
    (s.settle h w.summary).1.environment = { s.environment with
      directory := w.request.directory.getD s.environment.directory
      exitCode := w.request.exit <|> s.environment.exitCode } := rfl

theorem environment_settle_of_unasked (unasked : w.request = {}) (s : Session) (h : Host) :
    (s.settle h w.summary).1.environment = s.environment := by
  rw [environment_settle, unasked]
  rfl

theorem passes_settle (parsed : Pipeline.ofLine line = .ok (some p))
    (reached : World.Reaches r.programs (r.start p s.environment.context h) w) (returned : w.progress = .returned) :
    Turn.Passes r ⟨s, h, line, (s.settle w.host w.summary).1, (s.settle w.host w.summary).2⟩ p w where
  statuses := Runner.statuses_of_reaches reached returned
  status := by
    have length := (Runner.statuses_of_reaches reached returned).1
    have some_fate : w.fates ≠ [] := by
      rw [← List.length_pos_iff, length, List.length_pos_iff]
      exact Pipeline.stages_ne_nil parsed
    refine ⟨w.fates.getLast some_fate, List.getLast?_eq_some_getLast some_fate, ?_⟩
    simp [settle, Summary.status, World.summary, List.getLast?_eq_some_getLast some_fate]
  connected := ⟨Runner.wired _ _ _ _, Runner.wiring_of_reaches reached⟩
  replied k builtin := Runner.exists_replied reached returned builtin
  alone reply alone := by
    obtain ⟨fates, directory, exit⟩ := alone.of_reaches reached returned
    exact ⟨fates, by rw [environment_settle, directory], by rw [environment_settle, exit]⟩
  others nobody := by
    rcases Runner.request_eq_or_repliesAlone reached returned with ⟨unasked, -⟩ | ⟨reply, alone, -⟩
    · exact environment_settle_of_unasked unasked s w.host
    · exact absurd ⟨reply, alone⟩ nobody
  several many := by
    refine environment_settle_of_unasked (World.request_eq_of_reaches (.inl ?_) reached) s w.host
    rw [(Runner.wired r p _ h).seats.1]
    exact Nat.ne_of_gt many
  canonical standard rooted reply directory alone asked := by
    have grounded : r.registry.Grounded := standard ▸ Registry.standard_grounded
    have canonical := alone.isCanonicalDirectory grounded rooted asked
    exact ⟨canonical.isAbsolute, Host.isCanonicalDirectory_iff.1 canonical⟩

/-- A line without programs comes to its end whatever the order of steps, and always to the same one. -/
theorem exists_execute_eq (parsed : Pipeline.ofLine line = .ok (some p))
    (reached : World.Reaches r.programs (r.start p s.environment.context h) w) (returned : w.progress = .returned)
    (builtins : ∀ k, (r.start p s.environment.context h).role k ≠ .program) :
    ∃ steps, ∀ patience, steps ≤ patience →
      s.execute { r with patience } line h = some (s.settle w.host w.summary) := by
  obtain ⟨h', prepared, ready⟩ := Runner.exists_prepareAll_of_roles builtins
  have simple := Runner.simple_start ready
  refine ⟨(r.start p s.environment.context h).work, fun patience enough => ?_⟩
  obtain ⟨v, ran⟩ := simple.exists_run r.programs enough
  obtain ⟨reached', returned'⟩ := World.Reaches.of_run ran
  -- The upshot of both orders is that of the start.
  have same : (v.summary, v.host) = (w.summary, w.host) := by
    obtain ⟨first, one⟩ := simple.of_reaches reached'
    obtain ⟨second, other⟩ := simple.of_reaches reached
    have upshots := one.trans other.symm
    rwa [first.upshot_of_returned returned', second.upshot_of_returned returned] at upshots
  have run : { r with patience }.run p s.environment.context h = some (v.summary, v.host) := by
    simp only [Runner.run, Runner.start_with_patience, Option.map_eq_some_iff]
    exact ⟨v, ran, rfl⟩
  rw [execute, parsed]
  simp only [run, same, Option.map_some]

/-- **What every line keeps.** -/
theorem Executes.turn_kept (executes : s.Executes r h line s' h') : Turn.Kept r ⟨s, h, line, s', h'⟩ := by
  have heedless := executes.withExit
  cases executes with
  | @refused err parsed =>
    have executed : s.execute r line h = some (({ s with lastStatus := refusedStatus } : Session),
        h.report r.err ("lineshell: ".toList ++ err.message)) := by rw [execute, parsed]
    exact
      { vars := rfl
        leaving := id
        heedless
        refused := fun err' parsed' => by
          obtain rfl : err = err' := by simpa using parsed.symm.trans parsed'
          exact ⟨executed, rfl, rfl, fun terminal => by rw [terminal]; rfl⟩
        blank := fun parsed' => by cases parsed.symm.trans parsed'
        passes := fun p parsed' => by cases parsed.symm.trans parsed'
        moves := fun moved => absurd rfl moved
        exits := fun moved => absurd rfl moved
        returns := fun _ => ⟨0, fun patience _ => by rw [execute, parsed]⟩ }
  | blank parsed =>
    have executed : s.execute r line h = some (s, h) := by rw [execute, parsed]
    exact
      { vars := rfl
        leaving := id
        heedless
        refused := fun err' parsed' => by cases parsed.symm.trans parsed'
        blank := fun _ => ⟨executed, rfl, rfl⟩
        passes := fun p parsed' => by cases parsed.symm.trans parsed'
        moves := fun moved => absurd rfl moved
        exits := fun moved => absurd rfl moved
        returns := fun _ => ⟨0, fun patience _ => by rw [execute, parsed]⟩ }
  | @ran p w parsed reached returned =>
    have passes := passes_settle parsed reached returned
    have asked := Runner.request_eq_or_repliesAlone reached returned
    exact
      { vars := rfl
        leaving := fun leaving => by
          simp only [Environment.isLeaving, environment_settle] at leaving ⊢
          cases w.request.exit <;> simp [leaving]
        heedless
        refused := fun err' parsed' => by cases parsed.symm.trans parsed'
        blank := fun parsed' => by cases parsed.symm.trans parsed'
        passes := fun p' parsed' => by
          obtain rfl : p = p' := by simpa using parsed.symm.trans parsed'
          exact ⟨w, reached, returned, passes⟩
        moves := fun moved => by
          rcases asked with ⟨unasked, -⟩ | ⟨reply, alone, -, directory, -⟩
          · exact absurd (congrArg Environment.directory (environment_settle_of_unasked unasked s w.host)) moved
          · refine ⟨p, reply, parsed, alone, ?_⟩
            simp only [environment_settle, directory] at moved ⊢
            cases asked : reply.directory with
            | none => simp [asked] at moved
            | some directory => rfl
        exits := fun moved => by
          rcases asked with ⟨unasked, -⟩ | ⟨reply, alone, -, -, exit⟩
          · exact absurd (congrArg Environment.exitCode (environment_settle_of_unasked unasked s w.host)) moved
          · refine ⟨p, reply, ?_⟩
            simp only [environment_settle, exit] at moved ⊢
            cases asked : reply.exit with
            | none => simp [asked] at moved
            | some code => exact ⟨code, parsed, alone, rfl, rfl⟩
        returns := fun builtins => exists_execute_eq parsed reached returned (builtins p parsed) }

/-- What a whole session keeps. -/
structure History.Kept (r : Runner σ) (first : Session) (turns : List Turn) (last : Session) : Prop where
  lines : ∀ t ∈ turns, t.Kept r
  vars : last.environment.vars = first.environment.vars
  /-- An exit that has been requested stays requested. -/
  leaving : first.environment.isLeaving = true ∨ (∃ t ∈ turns, t.after.environment.isLeaving = true) →
    last.environment.isLeaving = true
  /-- As long as all lines are blank nothing happens. -/
  blank : (∀ t ∈ turns, Pipeline.ofLine t.line = .ok none) → last = first

/-- **A session keeps its variables**, its directory and exit code change only where a builtin that is the only stage of
a line asks for it, and each line gives the status that is its due. -/
theorem History.kept {first last : Session} {turns : List Turn} (history : History r first turns last) :
    History.Kept r first turns last := by
  induction history with
  | start =>
    exact
      { lines := by simp
        vars := rfl
        leaving := by simp
        blank := fun _ => rfl }
  | @line turns last after host left line before executes ih =>
    have kept := executes.turn_kept
    exact
      { lines := fun t mem => by
          rcases List.mem_append.1 mem with earlier | now
          · exact ih.lines t earlier
          · obtain rfl := List.mem_singleton.1 now
            exact kept
        vars := kept.vars.trans ih.vars
        leaving := fun leaving => by
          rcases leaving with first | ⟨t, mem, leaving⟩
          · exact kept.leaving (ih.leaving (.inl first))
          · rcases List.mem_append.1 mem with earlier | now
            · exact kept.leaving (ih.leaving (.inr ⟨t, earlier, leaving⟩))
            · obtain rfl := List.mem_singleton.1 now
              exact leaving
        blank := fun blank => by
          have same := kept.blank (blank _ (List.mem_append_right _ List.mem_cons_self))
          exact same.2.1.trans (ih.blank fun t mem => blank t (List.mem_append_left _ mem)) }

/-- A shell with one builtin, which asks for the root directory and for an exit. -/
def leaver : Runner Unit where
  registry := ⟨[⟨['x'], fun _ => .done { status := 7, directory := some ['/'], exit := some 3 }⟩]⟩
  programs := ⟨fun _ _ => .error .brokenPipe, fun _ => .done (.exited 0)⟩
  patience := 10

/-- Two builtins in a row are not heard, one alone is, and what it asks for outlasts a blank line and a refused one. -/
theorem kept_of_leaver :
    ∃ turns last, History leaver { environment := {} } turns last ∧
      turns.map (fun t => (t.line, t.after.environment.exitCode, t.after.lastStatus)) =
        [([], none, 0), (['x', ' ', '|', ' ', 'x'], none, 7), (['x'], some 3, 7), ([], some 3, 7), (['|'], some 3, 2)] ∧
      last.environment.directory = ['/'] ∧ History.Kept leaver { environment := {} } turns last := by
  have executes : ∀ (s : Session) (line : Text) (after : Session), (s.execute leaver line {}).map (·.1) = some after →
      ∃ left, s.Executes leaver {} line after left := by
    intro s line after executed
    obtain ⟨⟨after', left⟩, ran, rfl⟩ := Option.map_eq_some_iff.1 executed
    exact ⟨left, executes_of_execute ran⟩
  obtain ⟨h₁, blank⟩ := executes { environment := {} } [] { environment := {} } (by decide +kernel)
  obtain ⟨h₂, unheard⟩ := executes { environment := {} } ['x', ' ', '|', ' ', 'x'] ⟨{}, 7⟩ (by decide +kernel)
  obtain ⟨h₃, heard⟩ := executes ⟨{}, 7⟩ ['x'] ⟨{ directory := ['/'], exitCode := some 3 }, 7⟩ (by decide +kernel)
  obtain ⟨h₄, blank'⟩ := executes ⟨{ directory := ['/'], exitCode := some 3 }, 7⟩ []
    ⟨{ directory := ['/'], exitCode := some 3 }, 7⟩ (by decide +kernel)
  obtain ⟨h₅, refused⟩ := executes ⟨{ directory := ['/'], exitCode := some 3 }, 7⟩ ['|']
    ⟨{ directory := ['/'], exitCode := some 3 }, 2⟩ (by decide +kernel)
  have history := ((((History.start.line blank).line unheard).line heard).line blank').line refused
  exact ⟨_, _, history, rfl, rfl, history.kept⟩

end Session

end PipeShell
