import PipeShell.Proofs.Arguments
import PipeShell.Proofs.Destination
import PipeShell.Proofs.Run.Truth

/-!
# What the builtins do with words without a dash

Without a dash all words are operands, except that the word `help` asks for usage, as `--help` does
(`Builtin.TellsUsage`): everywhere among the operands of `cd`, `exit` and `pwd`, and in front of those of `type`.
With the operands that it can take a builtin goes to work, and the first one that it cannot take it refuses
(`Builtin.Refuses`), whether usage was asked for or not (`Builtin.takesWords_of_plain`).  So `cd help` does not go
to a directory of this name (`Builtin.not_forall_goes`).
-/

namespace PipeShell

theorem Usage.prefix_text (u : Usage) : "Usage: ".toList ++ u.synopsis <+: u.text := by
  unfold Usage.text
  iterate 4 refine List.IsPrefix.trans ?_ (List.prefix_append _ _)
  exact List.prefix_append _ _

/-! ### Operands of the single forms -/

namespace Builtin

variable {a : Option Text} {n : Int} {word second : Text} {words rest : List Text}

theorem takeAll_pwdForm : ({} : Form Unit).takeAll () (word :: rest) = .error (Form.unrecognized word) :=
  Form.takeAll_of_error rfl

theorem takeAll_cdForm (short : words.length ≤ 1) : cdForm.takeAll none words = .ok words.head? := by
  match words, short with
  | [], _ => rfl
  | [_], _ => rfl

theorem takeAll_cdForm_second : cdForm.takeAll none (word :: second :: rest) = .error (Form.unrecognized second) := by
  rw [Form.takeAll_of_ok (b := some word) rfl]
  exact Form.takeAll_of_error rfl

/-- The operands are a number, or there are none, which stands for zero. -/
def SpellsCode (operands : List Text) (n : Int) : Prop :=
  operands = [] ∧ n = 0 ∨ ∃ word, operands = [word] ∧ Spells word n ∧ IsInt32 n

theorem SpellsCode.notMem_help (code : SpellsCode words n) : helpWord ∉ words := by
  obtain ⟨rfl, -⟩ | ⟨word, rfl, spells, -⟩ := code
  · exact List.not_mem_nil
  · simpa using spells.ne_help.symm

theorem takeOperand_exitForm (spells : Spells word n) (range : IsInt32 n) :
    exitForm.takeOperand none word = .ok (some n) := by
  have read := readInt32_eq_ok_iff.2 ⟨spells, range⟩
  simp [Form.takeOperand, exitForm, read, Except.map, Except.mapError]

theorem takeAll_exitForm (code : SpellsCode words n) : ∃ a, exitForm.takeAll none words = .ok a ∧ a.getD 0 = n := by
  obtain ⟨rfl, rfl⟩ | ⟨word, rfl, spells, range⟩ := code
  · exact ⟨none, rfl, rfl⟩
  · exact ⟨some n, Form.takeAll_of_ok (takeOperand_exitForm spells range), rfl⟩

theorem takeAll_exitForm_word (none : ∀ n, Spells word n → ¬ IsInt32 n) :
    ∃ reason, exitForm.takeAll .none (word :: rest) = .error (Form.badOperand "code".toList word reason) := by
  cases read : readInt32 word with
  | ok n =>
    obtain ⟨spells, range⟩ := readInt32_eq_ok_iff.1 read
    exact absurd range (none n spells)
  | error reason =>
    exact ⟨reason, Form.takeAll_of_error (by simp [Form.takeOperand, exitForm, read, Except.map, Except.mapError])⟩

theorem takeAll_exitForm_second (spells : Spells word n) (range : IsInt32 n) :
    exitForm.takeAll none (word :: second :: rest) = .error (Form.unrecognized second) := by
  rw [Form.takeAll_of_ok (takeOperand_exitForm spells range)]
  exact Form.takeAll_of_error rfl

theorem takeAll_typeForm (words names : List Text) : typeForm.takeAll names words = .ok (names ++ words) := by
  induction words generalizing names with
  | nil => simp
  | cons word rest ih =>
    rw [Form.takeAll_of_ok (b := names ++ [word]) rfl, ih]
    simp

/-! ### Usage and refusals -/

/-- A builtin tells how it is used, just as if it was asked by `--help`. -/
structure TellsUsage (b : Builtin) (call : Call) : Prop where
  asked : b.run call = b.run { call with argv := [b.name, "--help".toList] }
  /-- It says so on the standard output and has the status 0. -/
  said : ∀ {answers : List Answered} {reply : Reply}, (b.run call).Course answers (.done reply) →
    reply = {} ∧ (∀ answer ∈ answers, answer.IsOn .out) ∧
      ((∀ answer ∈ answers, answer.fault? = none) →
        ∃ text, "Usage: ".toList ++ b.name <+: text ∧ Answered.Say .out text answers)

/-- A builtin refuses its words: it says why on the standard error and has the status 1, and nothing else happens. -/
def Refuses (b : Builtin) (call : Call) (why : Text) : Prop :=
  ∀ {answers : List Answered} {reply : Reply}, (b.run call).Course answers (.done reply) →
    reply = { status := 1 } ∧ (∀ answer ∈ answers, answer.IsOn .err) ∧
      ((∀ answer ∈ answers, answer.fault? = none) → Answered.Say .err (why ++ ['\n']) answers)

section OfForm

variable {α : Type} {name details why : Text} {usage : Usage} {form : Form α} {start value : α}
  {body : α → Call → Act Reply} {call : Call}

theorem tellsUsage_of_read (synopsis : usage.synopsis = name ++ details)
    (read : form.read start call.argv.tail = .usage) : TellsUsage (ofForm name usage form start body) call where
  asked := by simp only [ofForm, read, List.tail_cons, Form.read_help]
  said course := by
    simp only [ofForm, read] at course
    obtain ⟨first, rest, fault, rfl, said, after⟩ := Act.Course.of_bind course
    obtain ⟨rfl, same⟩ := after.of_done
    cases same
    rw [List.append_nil]
    obtain ⟨on, say | ⟨failed, answer, mem, same⟩⟩ := said.of_sayAll
    · have begins := usage.prefix_text
      rw [synopsis, ← List.append_assoc] at begins
      refine ⟨rfl, on, fun _ => ⟨[usage.text, ['\n']].flatten, ?_, say.2⟩⟩
      exact ((List.prefix_append _ _).trans begins).trans (List.prefix_append _ _)
    · refine ⟨rfl, on, fun taken => ?_⟩
      rw [← same, taken answer mem] at failed
      cases failed

theorem run_ofForm_of_mistake (read : form.read start call.argv.tail = .mistake why) :
    (ofForm name usage form start body).run call = fail [why] := by
  simp only [ofForm, read]

theorem refuses_of_read (read : form.read start call.argv.tail = .mistake why) :
    Refuses (ofForm name usage form start body) call why := by
  intro answers reply course
  rw [run_ofForm_of_mistake read] at course
  simpa using course_of_fail course

theorem run_ofForm_of_read (read : form.read start call.argv.tail = .accepted value) :
    (ofForm name usage form start body).run call = body value call := by
  simp only [ofForm, read]

end OfForm

/-- The builtins of a standard shell only look at the host. -/
theorem standard_looks {b : Builtin} (mem : b ∈ Registry.standard.builtins) (call : Call) : (b.run call).Looks Eq := by
  rcases Registry.mem_standard mem with rfl | rfl | rfl | rfl | rfl
  · exact cd_looks (by rintro h _ path rfl; rfl) (by rintro h _ path rfl; rfl)
  · exact echo_looks call
  · exact exit_looks call
  · exact pwd_looks call
  · exact type_looks (by rintro h _ name rfl; rfl)

theorem cd_mem_standard : cd ∈ Registry.standard.builtins := List.mem_cons_self

/-- A text that can be written is printed, and that is a success. -/
theorem course_of_print {texts : List Text} {answers : List Answered} {reply : Reply}
    (course : (print texts).Course answers (.done reply)) (taken : ∀ answer ∈ answers, answer.fault? = none) :
    reply = {} ∧ Answered.Say .out texts.flatten answers := by
  obtain ⟨first, rest, fault, rfl, said, after⟩ := Act.Course.of_bind course
  obtain ⟨-, ⟨rfl, say⟩ | ⟨failed, answer, mem, same⟩⟩ := said.of_sayAll
  · obtain ⟨rfl, same⟩ := after.of_done
    cases same
    rw [List.append_nil]
    exact ⟨rfl, say⟩
  · rw [← same, taken answer (List.mem_append_left _ mem)] at failed
    cases failed

/-! ### All words -/

/-- What the builtins do with their words, of which `operands` do not ask for usage. -/
structure TakesWords (call : Call) (operands : List Text) : Prop where
  /-- Without words `pwd` shows the working directory. -/
  shows : call.argv.tail = [] → ∀ {answers : List Answered} {reply : Reply}, (pwd.run call).Course answers (.done reply) →
    (∀ answer ∈ answers, answer.fault? = none) → reply = {} ∧ Answered.Say .out (call.context.cwd ++ ['\n']) answers
  /-- `type` tells what all of its words stand for, in their order. -/
  tells : call.argv.tail.head? ≠ some helpWord → ∀ {answers : List Answered} {reply : Reply},
    (type.run call).Course answers (.done reply) → (∀ answer ∈ answers, answer.fault? = none) →
      ∃ verdicts, Tells call call.argv.tail verdicts answers ∧
        reply = { status := if .unknown ∈ verdicts then 1 else 0 }
  /-- With one word, or none, `cd` goes to the directory that is its destination … -/
  goes : helpWord ∉ call.argv.tail → call.argv.tail.length ≤ 1 → ∀ {h : Host} {destination path : Text}
    {answers : List Answered} {reply : Reply}, h.Rooted → Answered.See h answers →
      (cd.run call).Course answers (.done reply) → cdDestination call.context call.argv.tail.head? = some destination →
        h.IsGoal destination path → reply = { directory := some path } ∧ ∀ answer ∈ answers, answer.IsLook
  /-- … that is, of a word without a tilde, to where it leads from the working directory … -/
  follows : ∀ {target : Text}, call.argv.tail = [target] → target ≠ [] → target ≠ ['~'] →
    (∀ rest, target ≠ '~' :: '/' :: rest) →
      cdDestination call.context call.argv.tail.head? = some (joinPath call.context.cwd target)
  /-- … and if that is none, it stays. -/
  stays : helpWord ∉ call.argv.tail → call.argv.tail.length ≤ 1 → ∀ {h : Host} {answers : List Answered} {reply : Reply},
    h.Rooted → Answered.See h answers → (cd.run call).Course answers (.done reply) →
      (∀ destination path, cdDestination call.context call.argv.tail.head? = some destination →
        ¬ h.IsGoal destination path) → reply = { status := 1 } ∧ Complains call.argv.tail.head? answers
  /-- With a number of 32 bits, or with no word for zero, `exit` asks for an exit and does nothing else. -/
  leaves : ∀ {n : Int}, SpellsCode call.argv.tail n →
    exit.run call = .done { status := n % 256, exit := some (n % 256) }
  /-- `pwd` refuses any operand. -/
  pwd_refuses : ∀ {word : Text} {rest : List Text}, operands = word :: rest →
    Refuses pwd call (Form.unrecognized word)
  /-- `cd` refuses a second operand. -/
  cd_refuses : ∀ {word second : Text} {rest : List Text}, operands = word :: second :: rest →
    Refuses cd call (Form.unrecognized second)
  /-- `exit` refuses an operand that is no number of 32 bits … -/
  exit_refuses : ∀ {word : Text} {rest : List Text}, operands = word :: rest → (∀ n, Spells word n → ¬ IsInt32 n) →
    ∃ reason, Refuses exit call (Form.badOperand "code".toList word reason)
  /-- … and a second one behind a number. -/
  exit_refuses_second : ∀ {word second : Text} {rest : List Text} {n : Int}, operands = word :: second :: rest →
    Spells word n → IsInt32 n → Refuses exit call (Form.unrecognized second)
  /-- If there is nothing to refuse, and one of the words asks for usage, then usage is told. -/
  pwd_usage : helpWord ∈ call.argv.tail → operands = [] → TellsUsage pwd call
  cd_usage : helpWord ∈ call.argv.tail → operands.length ≤ 1 → TellsUsage cd call
  exit_usage : helpWord ∈ call.argv.tail → (∃ n, SpellsCode operands n) → TellsUsage exit call
  /-- Only the first word of `type` can ask for usage. -/
  type_usage : call.argv.tail.head? = some helpWord → TellsUsage type call
  /-- All builtins come to their end. -/
  ends : ∀ {b : Builtin}, b ∈ Registry.standard.builtins → ∀ w : Surroundings,
    ∃ answers, (b.run call).Course answers (.done ((b.run call).runAlone w).1) ∧ Answered.See w.host answers

/-- **Words without a dash are operands**, except for `help`. -/
theorem takesWords_of_plain {call : Call} (plain : Plain call.argv.tail) :
    TakesWords call (call.argv.tail.filter (· ≠ helpWord)) where
  shows none answers reply course taken := by
    have read : ({} : Form Unit).read () call.argv.tail = .accepted () := by rw [none]; rfl
    rw [pwd, run_ofForm_of_read read] at course
    simpa using course_of_print course taken
  tells first answers reply course taken := by
    have read := Form.read_of_greedy rfl plain first (takeAll_typeForm _ [])
    rw [type, run_ofForm_of_read read] at course
    rcases course_of_sayVerdicts course with told | ⟨-, answer, mem, fault⟩
    · exact told
    · exact absurd (taken answer mem) fault
  goes none short h destination path answers reply rooted see course destination_eq goal := by
    have read := Form.read_of_operands rfl plain none (takeAll_cdForm short)
    rcases course_of_cd read rooted see course destination_eq with ⟨path', goal', same, looks⟩ | ⟨nowhere, -⟩
    · rw [goal.unique goal'] at same
      exact ⟨same, looks⟩
    · exact absurd goal (nowhere path)
  follows same some_target notHome notBelow := by
    rw [same]
    exact cdDestination_other some_target notHome notBelow
  stays none short h answers reply rooted see course nowhere := by
    have read := Form.read_of_operands rfl plain none (takeAll_cdForm short)
    cases destination : cdDestination call.context call.argv.tail.head? with
    | some target =>
      rcases course_of_cd read rooted see course destination with ⟨path, goal, -⟩ | ⟨-, failed⟩
      · exact absurd goal (nowhere _ path destination)
      · exact failed
    | none =>
      rw [run_cd read, destination] at course
      exact complains_of_fail course fun _ => by decide
  leaves code := by
    obtain ⟨a, taken, rfl⟩ := takeAll_exitForm code
    exact run_ofForm_of_read (Form.read_of_operands rfl plain code.notMem_help taken)
  pwd_refuses same := refuses_of_read (Form.read_of_refused rfl plain (by rw [same]; exact takeAll_pwdForm))
  cd_refuses same := refuses_of_read (Form.read_of_refused rfl plain (by rw [same]; exact takeAll_cdForm_second))
  exit_refuses same none := by
    obtain ⟨reason, refused⟩ := takeAll_exitForm_word none
    exact ⟨reason, refuses_of_read (Form.read_of_refused rfl plain (by rw [same]; exact refused))⟩
  exit_refuses_second same spells range :=
    refuses_of_read (Form.read_of_refused rfl plain (by rw [same]; exact takeAll_exitForm_second spells range))
  pwd_usage asks none := tellsUsage_of_read rfl (Form.read_of_help rfl plain asks (by rw [none]; rfl))
  cd_usage asks short := tellsUsage_of_read rfl (Form.read_of_help rfl plain asks (takeAll_cdForm short))
  exit_usage asks code := by
    obtain ⟨n, code⟩ := code
    obtain ⟨a, taken, -⟩ := takeAll_exitForm code
    exact tellsUsage_of_read rfl (Form.read_of_help rfl plain asks taken)
  type_usage first := tellsUsage_of_read rfl (Form.read_of_greedy_help rfl plain first (takeAll_typeForm _ []))
  ends mem w := (standard_looks mem call).exists_course w

/-- From the root `cd h` goes to the directory of this name, which `pwd` and `exit` would refuse. -/
theorem takesWords_of_plain_goes :
    Plain [['h']] ∧ TakesWords ⟨["cd".toList, ['h']], atHome, []⟩ [['h']] ∧
      ((cd.run ⟨["cd".toList, ['h']], atHome, []⟩).runAlone { host := settled }).1 =
        { directory := some ['/', 'h'] } ∧
      Refuses pwd ⟨["cd".toList, ['h']], atHome, []⟩ (Form.unrecognized ['h']) ∧
      ∃ reason, Refuses exit ⟨["cd".toList, ['h']], atHome, []⟩ (Form.badOperand "code".toList ['h'] reason) := by
  have plain : Plain [['h']] := by simp [Plain]
  have takes : TakesWords ⟨["cd".toList, ['h']], atHome, []⟩ [['h']] := takesWords_of_plain plain
  have goal : settled.IsGoal ['/', 'h'] ['/', 'h'] := settled_isCanonicalDirectory.isGoal settled_rooted
  have noNumber : ∀ n, Spells ['h'] n → ¬ IsInt32 n := by
    intro n spells
    cases spells with
    | digits _ all => exact absurd (all 'h' List.mem_cons_self) (by decide)
  obtain ⟨answers, course, see⟩ := takes.ends cd_mem_standard { host := settled }
  have destination := takes.follows rfl (by decide) (by decide) (by simp)
  exact ⟨plain, takes, (takes.goes (by decide) (by decide) settled_rooted see course destination goal).1,
    takes.pwd_refuses rfl, takes.exit_refuses rfl noNumber⟩

/-! ### A directory that is called `help` -/

/-- A host with such a directory. -/
def helpful : Host := { tree := ⟨[([helpWord], .directory)]⟩ }

/-- A lone word does not always stand for the directory of this name. -/
theorem not_forall_goes :
    ¬ ∀ (h : Host) (call : Call) (target path : Text), h.Rooted → isAbsolute call.context.cwd = true →
      call.argv.tail = [target] → target.head? ≠ some '-' → target.head? ≠ some '~' →
        h.IsGoal (joinPath call.context.cwd target) path →
          ((cd.run call).runAlone { host := h }).1 = { directory := some path } := by
  intro always
  have rooted : helpful.Rooted := fun _ => helpful.tree.isStraight_nil
  have straight : helpful.tree.IsStraight [helpWord] :=
    helpful.tree.isStraight_singleton ⟨by decide, by decide, by decide, by decide⟩
  have canonical : helpful.IsCanonicalDirectory ('/' :: helpWord) :=
    ⟨⟨[helpWord], rfl, straight, rfl⟩, by decide, by decide⟩
  have replied := always helpful ⟨["cd".toList, helpWord], { cwd := ['/'] }, []⟩ helpWord _ rooted rfl rfl (by decide)
    (by decide) (canonical.isGoal rooted)
  have usage : TellsUsage cd ⟨["cd".toList, helpWord], { cwd := ['/'] }, []⟩ := tellsUsage_of_read rfl rfl
  obtain ⟨answers, course, -⟩ := (standard_looks cd_mem_standard
    ⟨["cd".toList, helpWord], { cwd := ['/'] }, []⟩).exists_course { host := helpful }
  cases (usage.said course).1.symm.trans replied

end Builtin

end PipeShell
