import PipeShell.Proofs.CommandLine.Loop
import PipeShell.Proofs.Operands
import PipeShell.Proofs.Pipeline.Spelling
import PipeShell.Proofs.Run.Records
import PipeShell.Proofs.Run.Single

/-!
# From the number behind `exit` to the exit code of the shell

A number of 32 bits behind `exit` is written in decimal.  If it is not negative, or if it stands behind two dashes, it is
the operand of the command, and its residue modulo 256 is the status everywhere (`CommandLine.Gives`): of the line, of
the stage among other stages, and of the shell, whether it is asked for the line by `-c` or reads it from its standard
input.  A negative number without the dashes is no operand, for it begins with a dash itself: the command refuses it with
the status 1, and no exit is requested (`CommandLine.exit_of_int32`).
-/

namespace PipeShell

/-! ### The words and the line -/

theorem mem_joinWith {c : Char} {sep : Text} {words : List Text} (mem : c ∈ joinWith sep words) :
    c ∈ sep ∨ ∃ word ∈ words, c ∈ word := by
  fun_induction joinWith sep words with
  | case1 => cases mem
  | case2 word => exact .inr ⟨word, List.mem_cons_self, mem⟩
  | case3 word rest _ ih =>
    rw [List.mem_append, List.mem_append, or_assoc] at mem
    rcases mem with own | between | later
    · exact .inr ⟨word, List.mem_cons_self, own⟩
    · exact .inl between
    · rcases ih later with between | ⟨other, there, mem⟩
      · exact .inl between
      · exact .inr ⟨other, List.mem_cons_of_mem _ there, mem⟩

theorem isBare_of_isDigit {c : Char} (digit : c.isDigit = true) : isBare c = true := by
  have other : ∀ d : Char, d.isDigit = false → c ≠ d := by
    rintro d none rfl
    rw [digit] at none
    cases none
  simp [isBare, isBlank, other ' ', other '\t', other '\'', other '"', other '\\', other '>', other '|']

/-- A number has no other characters than digits and the sign. -/
theorem mem_showInt {c : Char} {n : Int} (mem : c ∈ showInt n) : c.isDigit = true ∨ c = '-' := by
  unfold showInt at mem
  split at mem
  · rcases List.mem_cons.1 mem with rfl | mem
    · exact .inr rfl
    · exact .inl (isDigit_of_mem_showNat mem)
  · exact .inl (isDigit_of_mem_showNat mem)

theorem showInt_ne_nil (n : Int) : showInt n ≠ [] := by
  unfold showInt
  split
  · exact List.cons_ne_nil _ _
  · exact showNat_ne_nil n.natAbs

theorem head?_showInt {n : Int} (least : 0 ≤ n) : (showInt n).head? ≠ some '-' := by
  rw [showInt, if_neg (Int.not_lt.2 least)]
  intro dash
  cases isDigit_of_mem_showNat (List.mem_of_mem_head? dash)

theorem exists_showInt_eq {n : Int} (negative : n < 0) :
    ∃ d digits, showInt n = '-' :: d :: digits ∧ d.isDigit = true := by
  obtain ⟨d, digits, shown⟩ := List.exists_cons_of_ne_nil (showNat_ne_nil n.natAbs)
  refine ⟨d, digits, by rw [showInt, if_pos negative, shown], isDigit_of_mem_showNat (m := n.natAbs) ?_⟩
  rw [shown]
  exact List.mem_cons_self

namespace Builtin

/-- The words of `exit` with this number, which may stand behind two dashes. -/
def exitWords (dashed : Bool) (n : Int) : List Text :=
  "exit".toList :: ((if dashed then [['-', '-']] else []) ++ [showInt n])

variable {dashed : Bool} {n : Int} {ctx : Context} {builtins : List Text}

theorem mem_exitWords {word : Text} (mem : word ∈ exitWords dashed n) :
    word ≠ [] ∧ ∀ c ∈ word, c.isDigit = true ∨ c ∈ ['e', 'x', 'i', 't', '-'] := by
  rcases List.mem_cons.1 mem with rfl | operands
  · exact ⟨by decide, fun c mem => .inr (List.mem_append_left ['-'] mem)⟩
  rcases List.mem_append.1 operands with dashes | last
  · cases dashed with
    | false => cases dashes
    | true =>
      obtain rfl := List.mem_singleton.1 dashes
      refine ⟨by decide, fun c mem => .inr ?_⟩
      obtain rfl : c = '-' := by simpa using mem
      decide
  · obtain rfl := List.mem_singleton.1 last
    refine ⟨showInt_ne_nil n, fun c mem => (mem_showInt mem).imp_right ?_⟩
    rintro rfl
    decide

theorem bare_exitWords : ∀ word ∈ exitWords dashed n, word ≠ [] ∧ ∀ c ∈ word, isBare c := by
  have letters : ∀ c ∈ ['e', 'x', 'i', 't', '-'], isBare c := by simp [isBare, isBlank]
  intro word mem
  obtain ⟨some_char, chars⟩ := mem_exitWords mem
  exact ⟨some_char, fun c mem => (chars c mem).elim isBare_of_isDigit (letters c)⟩

/-- The number is read as an operand if it does not begin with a dash, or if the options have ended. -/
theorem read_exitWords (range : IsInt32 n) (operand : 0 ≤ n ∨ dashed = true) :
    exitForm.read none (exitWords dashed n).tail = .accepted (some n) := by
  have taken : exitForm.takeAll none [showInt n] = .ok (some n) :=
    Form.takeAll_of_ok (takeOperand_exitForm (spells_showInt n) range)
  cases dashed with
  | true =>
    have read : exitForm.read none [['-', '-'], showInt n] = exitForm.readFrom false true none [showInt n] := by
      simp [Form.read, Form.readFrom, Form.isHelp]
    exact read.trans (by rw [Form.readFrom_of_ended, taken]; rfl)
  | false =>
    have least : 0 ≤ n := by simpa using operand
    have plain : Plain [showInt n] := by
      intro word mem
      obtain rfl := List.mem_singleton.1 mem
      exact head?_showInt least
    have noHelp : helpWord ∉ [showInt n] := by simpa using (spells_showInt n).ne_help.symm
    exact Form.read_of_operands rfl plain noHelp taken

theorem run_exitWords (range : IsInt32 n) (operand : 0 ≤ n ∨ dashed = true) :
    exit.run ⟨exitWords dashed n, ctx, builtins⟩ = .done { status := n % 256, exit := some (n % 256) } := by
  have read : exitForm.read none (Call.mk (exitWords dashed n) ctx builtins).argv.tail = .accepted (some n) :=
    read_exitWords range operand
  exact run_ofForm_of_read read

/-- Without the dashes a negative number is not recognized. -/
theorem read_exitWords_of_negative (negative : n < 0) :
    exitForm.read none (exitWords false n).tail = .mistake (Form.unrecognized (showInt n)) := by
  -- The first digit tells the word from two dashes, and from `--help`.
  obtain ⟨d, digits, word, digit⟩ := exists_showInt_eq negative
  have other : d ≠ '-' := by
    rintro rfl
    cases digit
  have tail : (exitWords false n).tail = [showInt n] := rfl
  rw [tail, word]
  simp [Form.read, Form.readFrom, Form.isHelp, exitForm, other]

/-- The line with these words, a blank between any two of them. -/
def exitLine (dashed : Bool) (n : Int) : Text := joinWith [' '] (exitWords dashed n)

theorem ofLine_exitLine : Pipeline.ofLine (exitLine dashed n) = .ok (some ⟨[⟨exitWords dashed n, {}⟩]⟩) :=
  Pipeline.ofLine_of_bare (by simp [exitWords]) bare_exitWords

theorem mem_exitLine {c : Char} (mem : c ∈ exitLine dashed n) :
    c.isDigit = true ∨ c ∈ ['e', 'x', 'i', 't', '-', ' '] := by
  rcases mem_joinWith mem with blank | ⟨word, there, mem⟩
  · obtain rfl := List.mem_singleton.1 blank
    exact .inr (by decide)
  · exact ((mem_exitWords there).2 c mem).imp_right (List.mem_append_left [' '])

/-- Nothing in the line is a key or the end of a line. -/
theorem notMem_exitLine {c : Char} (noDigit : c.isDigit = false) (other : c ∉ ['e', 'x', 'i', 't', '-', ' ']) :
    c ∉ exitLine dashed n := fun mem => by
  rcases mem_exitLine mem with digit | letter
  · rw [noDigit] at digit
    cases digit
  · exact other letter

/-- The line is given to a shell whose input begins with it. -/
theorem head?_ofBytes_exitLine {rest : Bytes} (ended : ∀ b ∈ rest.head?, b = 10) :
    (LineInput.ofBytes (utf8 (exitLine dashed n) ++ rest)).1.head? = some (exitLine dashed n) := by
  have noKey : LineInput.backspace ∉ exitLine dashed n := notMem_exitLine (by decide) (by decide)
  have noReturn : '\r' ∉ exitLine dashed n := notMem_exitLine (by decide) (by decide)
  refine LineInput.head?_ofBytes_of_line ?_ (notMem_exitLine (by decide) (by decide))
    (fun last => noReturn (List.mem_of_getLast? last)) ?_ ended
  · cases dashed <;> simp [exitLine, exitWords, joinWith]
  · rw [LineInput.edited, if_neg (by simpa using noKey)]

end Builtin

namespace CommandLine

open Session

/-- There is nothing on the line but the command `exit`. -/
def LoneExit (line : Text) : Prop :=
  ∃ p stage, Pipeline.ofLine line = .ok (some p) ∧ p.stages = [stage] ∧ stage.name = "exit".toList

/-- A line that is executed and is no lone `exit` requests no exit. -/
theorem isLeaving_of_not_loneExit {σ : Type} {r : Runner σ} {s s' : Session} {h h' : Host} {line : Text}
    (standard : r.registry = Registry.standard) (other : ¬ LoneExit line) (executes : s.Executes r h line s' h')
    (staying : s.environment.isLeaving = false) : s'.environment.isLeaving = false := by
  by_contra leaving
  exact other (executes.turn_kept.of_leaving standard staying (by simpa using leaving)).1

/-- The words of a command that has this status, and requests an exit with it or not. -/
structure Gives {σ : Type} (r : Runner σ) (words : List Text) (status : Int) (leaving : Bool) : Prop where
  /-- On a line of its own the command gives its status to the line, in whatever order the parties take their steps.  If
  it leaves, the exit code is the same, and nothing else changes in the session. -/
  alone : ∀ {s s' : Session} {h h' : Host}, s.Executes r h (joinWith [' '] words) s' h' →
    s' = ⟨{ s.environment with exitCode := if leaving then some status else s.environment.exitCode }, status⟩
  /-- A few steps are enough. -/
  executes : ∀ (s : Session) (h : Host), 9 ≤ r.patience → ∃ s' h', s.execute r (joinWith [' '] words) h = some (s', h')
  /-- Among other stages it gives the status to its stage, and is not heard by the shell. -/
  inside : ∀ {p : Pipeline} {s : Session} {h : Host} {w : World σ} {k : Nat}, 2 ≤ p.stages.length →
    p.stages[k]? = some ⟨words, {}⟩ → World.Reaches r.programs (r.start p s.environment.context h) w →
      w.progress = .returned →
        w.fates[k]? = some (.exited status) ∧ (s.settle w.host w.summary).1.environment = s.environment
  /-- A shell that is asked for the line ends with the status as its exit code … -/
  command : ∀ {given : List Text} {settings : Settings} {h opened : Host} (input : Bytes),
    Settings.form.read {} given = .accepted settings → settings.command = some (joinWith [' '] words) →
      openLog settings h = .ok opened →
        (∃ left, run r.programs given input h = some (status.toNat, left)) ∧
          ∀ code left, Ends (Executes (runner r.programs)) given input h code left → (code : Int) = status
  /-- … and so does one that reads it from its standard input, if the command leaves and no lone `exit` stands before
  it. -/
  lines : leaving = true → ∀ {given : List Text} {settings : Settings} {h opened : Host} {input : Bytes} {i : Nat},
    Settings.form.read {} given = .accepted settings → settings.command = none → openLog settings h = .ok opened →
      (LineInput.ofBytes input).1[i]? = some (joinWith [' '] words) →
        (∀ j < i, ∀ other, (LineInput.ofBytes input).1[j]? = some other → ¬ LoneExit other) →
          ∀ code left, Ends (Executes (runner r.programs)) given input h code left → (code : Int) = status
  /-- It does end, at least if this is the first line. -/
  first : leaving = true → ∀ {given : List Text} {settings : Settings} {h opened : Host} {input : Bytes},
    Settings.form.read {} given = .accepted settings → settings.command = none → openLog settings h = .ok opened →
      (LineInput.ofBytes input).1.head? = some (joinWith [' '] words) →
        ∃ left, run r.programs given input h = some (status.toNat, left)

/-- The words of a command `exit` that is the only one on its line, and replies in one way, after a few steps. -/
structure Steady (words : List Text) (status : Int) (leaving : Bool) : Prop where
  parsed : Pipeline.ofLine (joinWith [' '] words) = .ok (some ⟨[⟨words, {}⟩]⟩)
  named : Stage.name ⟨words, {}⟩ = "exit".toList
  replies : ∀ {ctx : Context} {builtins : List Text} {answers : List Answered} {reply : Reply},
    (Builtin.exit.run ⟨words, ctx, builtins⟩).Course answers (.done reply) →
      reply = { status, exit := if leaving then some status else none }
  short : ∀ (ctx : Context) (builtins : List Text) (w : Surroundings),
    (Builtin.exit.run ⟨words, ctx, builtins⟩).steps w ≤ 3
  isByte : 0 ≤ status ∧ status < 256

theorem exit_mem_standard : Builtin.exit ∈ Registry.standard.builtins :=
  List.mem_cons_of_mem _ (List.mem_cons_of_mem _ List.mem_cons_self)

namespace Steady

variable {σ : Type} {r : Runner σ} {words : List Text} {status : Int} {leaving : Bool} {s s' : Session} {h h' : Host}

theorem find?_eq (steady : Steady words status leaving) (standard : r.registry = Registry.standard) :
    r.registry.find? (Stage.name ⟨words, {}⟩) = some Builtin.exit := by
  rw [standard, steady.named]
  rfl

theorem alone_eq (steady : Steady words status leaving) (ctx : Context) (h : Host) :
    (r.alone Builtin.exit words ctx h).1 = { status, exit := if leaving then some status else none } := by
  obtain ⟨answers, course, -⟩ := (Builtin.standard_looks exit_mem_standard _).exists_course _
  exact steady.replies course

/-- The session after the line. -/
theorem session_eq (steady : Steady words status leaving) (standard : r.registry = Registry.standard)
    (executes : s.Executes r h (joinWith [' '] words) s' h') :
    s' = ⟨{ s.environment with exitCode := if leaving then some status else s.environment.exitCode }, status⟩ := by
  have left := Executes.of_alone steady.parsed (steady.find?_eq standard) executes
  refine (Prod.ext_iff.1 left).1.trans ?_
  simp only [settle, Runner.upshotAlone, steady.alone_eq, Summary.status]
  cases leaving <;> rfl

theorem exists_execute_eq_some (steady : Steady words status leaving) (standard : r.registry = Registry.standard)
    (s : Session) (h : Host) (patient : 9 ≤ r.patience) :
    ∃ s' h', s.execute r (joinWith [' '] words) h = some (s', h') := by
  have found := steady.find?_eq standard
  refine ⟨_, _, execute_of_alone steady.parsed found ?_⟩
  rw [Runner.work_start_of_found found]
  exact (Nat.add_le_add_right (steady.short _ _ _) 6).trans patient

theorem answers (steady : Steady words status leaving) (programs : Programs σ) (s : Session) (h : Host) :
    ∃ s' h', Answers (runner programs) s h (joinWith [' '] words) s' h' :=
  steady.exists_execute_eq_some rfl s h (show 9 ≤ 1000000000 by decide)

theorem exitCode_eq (steady : Steady words status leaving) : exitCode status = status.toNat := by
  rw [exitCode, Int.emod_eq_of_lt steady.isByte.1 steady.isByte.2]

/-- A session that begins with the line ends with its status. -/
theorem exitStatus_eq (steady : Steady words status leaving) (standard : r.registry = Registry.standard)
    (fresh : s.environment.exitCode = none) (executes : s.Executes r h (joinWith [' '] words) s' h') :
    exitCode s'.exitStatus = status.toNat := by
  rw [steady.session_eq standard executes, Session.exitStatus, fresh, ← steady.exitCode_eq]
  cases leaving <;> rfl

/-- The shell ends with the exit code that has been requested. -/
theorem conclude_eq (steady : Steady words status leaving) (requested : s.environment.exitCode = some status)
    (allText : Bool) (h : Host) :
    conclude allText s h = (status.toNat, h.note .info "leaving interpreter".toList) := by
  simp [conclude, Environment.isLeaving, Session.exitStatus, requested, steady.exitCode_eq]

/-- **What a command gives that always replies in one way.** -/
theorem gives (steady : Steady words status leaving) (standard : r.registry = Registry.standard) :
    Gives r words status leaving := by
  have toNat : (status.toNat : Int) = status := Int.toNat_of_nonneg steady.isByte.1
  constructor
  case alone => exact steady.session_eq standard
  case executes => exact steady.exists_execute_eq_some standard
  case inside =>
    intro p s h w k several stage reached returned
    obtain ⟨answers, reply, course, fate⟩ :=
      Runner.exists_replied_of_found stage (steady.find?_eq standard) reached returned
    rw [steady.replies course] at fate
    have many : (r.start p s.environment.context h).seats.length ≠ 1 := by
      rw [(Runner.wired r p _ h).seats.1]
      exact Nat.ne_of_gt several
    exact ⟨fate, environment_settle_of_unasked (World.request_eq_of_reaches (.inl many) reached) s w.host⟩
  case command =>
    intro given settings h opened input reading asks opens
    constructor
    · obtain ⟨last, left, answers⟩ := steady.answers r.programs { environment := Environment.ofHost opened } opened
      have ends : Ends _ given input h _ left := .command reading opens asks answers
      rw [steady.exitStatus_eq rfl rfl (executes_of_execute answers)] at ends
      exact ⟨left, run_eq_some_iff.2 ends⟩
    · intro code left ends
      obtain ⟨last, executes, rfl⟩ := Ends.exists_executes reading opens asks ends
      rw [steady.exitStatus_eq rfl rfl executes, toNat]
  case lines =>
    rintro rfl given settings h opened input i reading asks opens here others code left ends
    obtain ⟨turns, last, host, rounds, concluded⟩ := Ends.exists_rounds reading opens asks ends
    have requested : last.environment.exitCode = some status := rounds.exitCode_eq rfl here
      (fun j hj other there => isLeaving_of_not_loneExit rfl (others j hj other there))
      fun executes => by rw [steady.session_eq rfl executes]; rfl
    rw [steady.conclude_eq requested] at concluded
    obtain ⟨rfl, -⟩ := Prod.mk.inj concluded
    exact toNat
  case first =>
    rintro rfl given settings h opened input reading asks opens here
    obtain ⟨line, later, lines⟩ := List.exists_cons_of_ne_nil (l := (LineInput.ofBytes input).1)
      (by rintro none; rw [none] at here; cases here)
    obtain rfl : line = joinWith [' '] words := by simpa [lines] using here
    obtain ⟨last, left, answered⟩ := steady.answers r.programs { environment := Environment.ofHost opened }
      (askLine (ready opened))
    have requested : last.environment.exitCode = some status := by
      rw [steady.session_eq rfl (executes_of_execute answered)]
      rfl
    obtain ⟨turns, rounds⟩ : ∃ turns, Rounds (Answers (runner r.programs)) askLine
        { environment := Environment.ofHost opened } (ready opened) (LineInput.ofBytes input).1 turns last left := by
      rw [lines]
      exact ⟨_, .turn rfl answered (.left (by simp [Environment.isLeaving, requested]))⟩
    have ends := Ends.lines reading opens asks rounds
    rw [steady.conclude_eq requested] at ends
    exact ⟨_, run_eq_some_iff.2 ends⟩

end Steady

section Numbers

open Builtin (exitWords exitLine)

variable {σ : Type} {r : Runner σ} {dashed : Bool} {n : Int}

/-- A number that is an operand is requested. -/
theorem steady_of_operand (range : IsInt32 n) (operand : 0 ≤ n ∨ dashed = true) :
    Steady (exitWords dashed n) (n % 256) true where
  parsed := Builtin.ofLine_exitLine
  named := rfl
  replies course := by
    rw [Builtin.run_exitWords range operand] at course
    cases course.of_done.2
    rfl
  short ctx builtins w := by
    rw [Builtin.run_exitWords range operand]
    exact Nat.le_add_left 1 2
  isByte := ⟨Int.emod_nonneg _ (by decide), Int.emod_lt_of_pos _ (by decide)⟩

/-- A negative number that is none is refused. -/
theorem steady_of_negative (negative : n < 0) : Steady (exitWords false n) 1 false where
  parsed := Builtin.ofLine_exitLine
  named := rfl
  replies course := (Builtin.refuses_of_read (Builtin.read_exitWords_of_negative negative) course).1
  short ctx builtins w := by
    rw [Builtin.exit, Builtin.run_ofForm_of_mistake (Builtin.read_exitWords_of_negative negative)]
    exact Builtin.steps_fail_le _ w
  isByte := by decide

/-- What comes of a number behind `exit`. -/
structure ExitTakes (r : Runner σ) (n : Int) : Prop where
  /-- A number that does not begin with a dash, or stands behind two of them, is the exit code, but for multiples of 256,
  and the status of the line, of the stage, and of the shell. -/
  leaves : ∀ dashed, 0 ≤ n ∨ dashed = true → Gives r (exitWords dashed n) (n % 256) true
  /-- Nothing happens to the host but that it hears of the start and of the end of the command. -/
  silent : ∀ dashed, 0 ≤ n ∨ dashed = true → ∀ {s s' : Session} {h h' : Host},
    s.Executes r h (exitLine dashed n) s' h' →
      h' = (h.note .debug "stage exit: builtin".toList).note .debug
          ("builtin exit exited with ".toList ++ showInt (n % 256)) ∧
        (Level.debug.passes h.logger.limit = false → h.EqButJournal h')
  /-- The line is the first one that a shell gets whose input begins with it. -/
  typed : ∀ dashed, ∀ {rest : Bytes}, (∀ b ∈ rest.head?, b = 10) →
    (LineInput.ofBytes (utf8 (exitLine dashed n) ++ rest)).1.head? = some (exitLine dashed n)
  /-- A negative number without the dashes gives the status 1, and requests no exit … -/
  refuses : n < 0 → Gives r (exitWords false n) 1 false
  /-- … for it is not recognized as an operand. -/
  complains : n < 0 → ∀ ctx builtins,
    Builtin.Refuses Builtin.exit ⟨exitWords false n, ctx, builtins⟩ (Form.unrecognized (showInt n))

/-- **The number behind `exit` is the exit code, modulo 256**, unless it is negative and no two dashes are before it. -/
theorem exit_of_int32 (standard : r.registry = Registry.standard) (range : IsInt32 n) : ExitTakes r n where
  leaves dashed operand := (steady_of_operand range operand).gives standard
  silent dashed operand s s' h h' executes := by
    have left := Executes.of_alone Builtin.ofLine_exitLine ((steady_of_operand range operand).find?_eq standard) executes
    have heard : h' = (h.note .debug "stage exit: builtin".toList).note .debug
        ("builtin exit exited with ".toList ++ showInt (n % 256)) := by
      refine (Prod.ext_iff.1 left).2.trans ?_
      simp only [Runner.upshotAlone, Runner.alone, Task.perform, Builtin.run_exitWords range operand]
      rfl
    refine ⟨heard, fun unseen => ?_⟩
    have first := (Host.EqButJournal.refl h).note unseen "stage exit: builtin".toList
    rw [heard]
    exact first.note ((congrArg (Level.debug.passes ·.limit) (Prod.ext_iff.1 first.setup_eq).1).trans unseen) _
  typed dashed rest ended := Builtin.head?_ofBytes_exitLine ended
  refuses negative := (steady_of_negative negative).gives standard
  complains negative ctx builtins := Builtin.refuses_of_read (Builtin.read_exitWords_of_negative negative)

/-- Behind two dashes -3 is the exit code 253. -/
theorem exit_of_int32_dashed :
    (runner leaver.programs).registry = Registry.standard ∧ IsInt32 (-3) ∧ ExitTakes (runner leaver.programs) (-3) ∧
      ∃ left, run leaver.programs ["-c".toList, "exit -- -3".toList] [] {} = some (253, left) := by
  have takes : ExitTakes (runner leaver.programs) (-3) := exit_of_int32 rfl ⟨by decide, by decide⟩
  exact ⟨rfl, ⟨by decide, by decide⟩, takes, ((takes.leaves true (.inr rfl)).command [] rfl rfl rfl).1⟩

/-- Without them a negative number is not the exit code. -/
theorem not_forall_exit :
    ¬ ∀ n : Int, IsInt32 n → (run leaver.programs ["-c".toList, "exit ".toList ++ showInt n] [] {}).map (·.1) =
      some (n % 256).toNat := by
  intro always
  have negative := always (-1) ⟨by decide, by decide⟩
  revert negative
  decide +kernel

end Numbers

end CommandLine

end PipeShell
