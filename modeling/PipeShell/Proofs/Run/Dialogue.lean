import PipeShell.Proofs.Run.Course

/-!
# What a builtin says in its course

A course to the end is taken apart as the act is put together: the answers to `act.bind f` are those to `act` and then
those to what comes of it (`Act.Course.of_bind`).  A text that is said in parts has been written as a whole, unless a
write of it has failed (`Act.Course.of_sayAll`), and a builtin that fails says one message, on its standard error alone
(`Builtin.course_of_fail`).
-/

namespace PipeShell

namespace Answered

/-- What went wrong. -/
def fault? : Answered → Option Fault
  | .wrote _ _ fault => fault
  | _ => none

/-- This is an answer to a write on this stream. -/
def IsOn (stream : StdStream) : Answered → Prop
  | .wrote s _ _ => s = stream
  | _ => False

/-- The bytes that are written. -/
def written : Answered → Bytes
  | .wrote _ data none => data
  | _ => []

/-- With these answers `text` is written on a stream, and nothing else happens. -/
structure Say (stream : StdStream) (text : Text) (answers : List Answered) : Prop where
  on : ∀ answer ∈ answers, answer.IsOn stream
  taken : ∀ answer ∈ answers, answer.fault? = none
  written : answers.flatMap Answered.written = utf8 text

end Answered

namespace Act

variable {ρ τ : Type} {act act' act'' : Act ρ} {answers : List Answered} {answer : Answered}

/-! ### Courses from their beginning -/

/-- With this answer `act` goes on as another act. -/
inductive Heeds : Act ρ → Answered → Act ρ → Prop
  | got {limit : Nat} {next : Bytes → Act ρ} (data : Bytes) : Heeds (.read limit next) (.got data) (next data)
  | wrote {stream : StdStream} {data : Bytes} {next : Option Fault → Act ρ} (fault : Option Fault) :
      Heeds (.write stream data next) (.wrote stream data fault) (next fault)
  | saw {change : Host → Host} {next : Host → Act ρ} (host : Host) : Heeds (.call change next) (.saw host) (next host)

theorem Heeds.course (heeds : act'.Heeds answer act'') (before : act.Course answers act') :
    act.Course (answers ++ [answer]) act'' := by
  cases heeds with
  | got data => exact before.got data
  | wrote fault => exact before.wrote fault
  | saw host => exact before.saw host

/-- A course that starts with this answer. -/
theorem Heeds.cons (heeds : act.Heeds answer act') (course : act'.Course answers act'') :
    act.Course (answer :: answers) act'' := by
  induction course with
  | start => exact heeds.course .start
  | got _ data ih => exact ih.got data
  | wrote _ fault ih => exact ih.wrote fault
  | saw _ host ih => exact ih.saw host

/-- A course has no answers yet, or it has a first one. -/
inductive Begins (act : Act ρ) : List Answered → Act ρ → Prop
  | none : Begins act [] act
  | cons {answer : Answered} {rest : List Answered} {next act' : Act ρ} (heeds : act.Heeds answer next)
      (course : next.Course rest act') : Begins act (answer :: rest) act'

theorem Course.begins (course : act.Course answers act') : act.Begins answers act' := by
  -- A course grows at its end, which moves its beginning only if it had no answer yet.
  have goes_on : ∀ {answers : List Answered} {answer : Answered} {act' act'' : Act ρ}, act.Begins answers act' →
      act'.Heeds answer act'' → act.Begins (answers ++ [answer]) act'' := by
    intro answers answer act' act'' begins heeds
    cases begins with
    | none => exact .cons heeds .start
    | cons first course => exact .cons first (heeds.course course)
  induction course with
  | start => exact .none
  | got _ data ih => exact goes_on ih (.got data)
  | wrote _ fault ih => exact goes_on ih (.wrote fault)
  | saw _ host ih => exact goes_on ih (.saw host)

theorem Course.of_done {result : ρ} (course : (done result).Course answers act') : answers = [] ∧ act' = .done result := by
  cases course.begins with
  | none => exact ⟨rfl, rfl⟩
  | cons heeds => cases heeds

/-- A course to the end of two acts in a row comes to the end of the first one on its way. -/
theorem Course.of_bind {f : ρ → Act τ} {result : τ} (course : (act.bind f).Course answers (.done result)) :
    ∃ first rest given, answers = first ++ rest ∧ act.Course first (.done given) ∧
      (f given).Course rest (.done result) := by
  -- As long as the first act asks, the next answer is one to it.
  induction act generalizing answers with
  | done given => exact ⟨[], answers, given, rfl, .start, course⟩
  | read limit next ih =>
    cases course.begins with
    | cons heeds course =>
      cases heeds with
      | got data =>
        obtain ⟨first, rest, given, rfl, course, after⟩ := ih data course
        exact ⟨.got data :: first, rest, given, rfl, (Heeds.got data).cons course, after⟩
  | write stream data next ih =>
    cases course.begins with
    | cons heeds course =>
      cases heeds with
      | wrote fault =>
        obtain ⟨first, rest, given, rfl, course, after⟩ := ih fault course
        exact ⟨.wrote stream data fault :: first, rest, given, rfl, (Heeds.wrote fault).cons course, after⟩
  | call change next ih =>
    cases course.begins with
    | cons heeds course =>
      cases heeds with
      | saw host =>
        obtain ⟨first, rest, given, rfl, course, after⟩ := ih host course
        exact ⟨.saw host :: first, rest, given, rfl, (Heeds.saw host).cons course, after⟩

/-- A look at the host comes first, and the rest goes on with what is seen. -/
theorem Course.of_ask {f : Host → ρ} {next : ρ → Act τ} {result : τ}
    (course : (ask f >>= next).Course answers (.done result)) :
    ∃ host rest, answers = .saw host :: rest ∧ (next (f host)).Course rest (.done result) := by
  obtain ⟨first, rest, given, rfl, asked, after⟩ := course.of_bind
  cases asked.begins with
  | cons heeds asked =>
    cases heeds with
    | saw host =>
      obtain ⟨rfl, same⟩ := asked.of_done
      cases same
      exact ⟨host, rest, rfl, after⟩

/-! ### What is said -/

/-- A text that is said in parts is written, unless a write fails. -/
theorem Course.of_sayAll {stream : StdStream} {texts : List Text} {fault : Option Fault}
    (course : (sayAll stream texts).Course answers (.done fault)) :
    (∀ answer ∈ answers, answer.IsOn stream) ∧
      (fault = none ∧ Answered.Say stream texts.flatten answers ∨
        fault.isSome ∧ ∃ answer ∈ answers, answer.fault? = fault) := by
  induction texts generalizing answers with
  | nil =>
    obtain ⟨rfl, same⟩ := course.of_done
    cases same
    exact ⟨nofun, .inl ⟨rfl, nofun, nofun, rfl⟩⟩
  | cons text texts ih =>
    unfold sayAll at course
    split at course
    · rename_i empty
      subst empty
      exact ih course
    · cases course.begins with
      | cons heeds course =>
        cases heeds with
        | wrote failed =>
          cases failed with
          | some fault' =>
            obtain ⟨rfl, same⟩ := course.of_done
            cases same
            refine ⟨fun answer mem => ?_, .inr ⟨rfl, _, List.mem_cons_self, rfl⟩⟩
            cases List.mem_singleton.1 mem
            rfl
          | none =>
            obtain ⟨on, said | failed⟩ := ih course
            · refine ⟨List.forall_mem_cons.2 ⟨rfl, on⟩, .inl ⟨said.1, List.forall_mem_cons.2 ⟨rfl, said.2.on⟩,
                List.forall_mem_cons.2 ⟨rfl, said.2.taken⟩, ?_⟩⟩
              rw [List.flatMap_cons, said.2.written, List.flatten_cons, utf8_append]
              rfl
            · obtain ⟨failed, answer, mem, fault⟩ := failed
              exact ⟨List.forall_mem_cons.2 ⟨rfl, on⟩, .inr ⟨failed, answer, List.mem_cons_of_mem _ mem, fault⟩⟩

end Act

/-- A builtin that fails says its message and a line end on the standard error, and has the status 1. -/
theorem Builtin.course_of_fail {message : List Text} {answers : List Answered} {reply : Reply}
    (course : (fail message).Course answers (.done reply)) :
    reply = { status := 1 } ∧ (∀ answer ∈ answers, answer.IsOn .err) ∧
      ((∀ answer ∈ answers, answer.fault? = none) → Answered.Say .err (message.flatten ++ ['\n']) answers) := by
  obtain ⟨first, rest, fault, rfl, said, after⟩ := Act.Course.of_bind course
  obtain ⟨rfl, same⟩ := after.of_done
  cases same
  obtain ⟨on, said | ⟨failed, answer, mem, fault⟩⟩ := said.of_sayAll
  · rw [List.append_nil]
    exact ⟨rfl, on, fun _ => by simpa using said.2⟩
  · rw [List.append_nil]
    refine ⟨rfl, on, fun taken => ?_⟩
    rw [← fault, taken answer mem] at failed
    cases failed

end PipeShell
