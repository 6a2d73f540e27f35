import PipeShell.Proofs.Run.Alone
import PipeShell.Proofs.Host.Canonical

/-!
# What the standard builtins reply

Only `cd` asks for another directory, and it asks for the canonical form of its destination, if that is a directory
(`Registry.standard_grounded`).  Only `exit` asks for an exit, with its own status as the code
(`Registry.standard_befits`).
-/

namespace PipeShell

/-- A program that goes on with what another has given runs after it. -/
theorem Act.runAlone_bind {ρ τ : Type} (act : Act ρ) (f : ρ → Act τ) (w : Surroundings) :
    (act.bind f).runAlone w = (f (act.runAlone w).1).runAlone (act.runAlone w).2 := by
  induction act generalizing w with
  | done r => rfl
  | read n next ih =>
    simp only [bind, runAlone]
    split
    · exact ih _ _
    · exact ih _ _
  | write s data next ih =>
    simp only [bind, runAlone]
    split
    · exact ih _ _
    · exact ih _ _
  | call change next ih => exact ih _ _

/-- Looking at the host changes nothing. -/
theorem Act.runAlone_ask {ρ τ : Type} (f : Host → ρ) (next : ρ → Act τ) (w : Surroundings) :
    (Act.ask f >>= next).runAlone w = (next (f w.host)).runAlone w := rfl

/-- A program that does what another one does first, and then replies in this way. -/
theorem Act.reply_bind {ρ : Type} {P : Reply → Prop} {act : Act ρ} {f : ρ → Act Reply}
    (rest : ∀ result w, P ((f result).runAlone w).1) (w : Surroundings) : P ((act.bind f).runAlone w).1 := by
  rw [runAlone_bind]
  exact rest _ _

namespace Builtin

variable {P : Reply → Prop} {w : Surroundings}

theorem fail_reply (message : List Text) (w : Surroundings) : ((fail message).runAlone w).1 = { status := 1 } :=
  Act.reply_bind (P := (· = { status := 1 })) (fun _ _ => rfl) w

/-- Usage and mistakes ask for nothing. -/
theorem ofForm_reply {α : Type} {name : Text} {usage : Usage} {form : Form α} {start : α} {body : α → Call → Act Reply}
    {call : Call} (success : P {}) (failure : P { status := 1 }) (rest : ∀ a, P ((body a call).runAlone w).1) :
    P (((ofForm name usage form start body).run call).runAlone w).1 := by
  simp only [ofForm]
  split
  · exact rest _
  · rw [fail_reply]
    exact failure
  · exact Act.reply_bind (fun _ _ => success) w

theorem print_reply (success : P {}) (failure : P { status := 1 }) (texts : List Text) (w : Surroundings) :
    P ((print texts).runAlone w).1 := by
  refine Act.reply_bind (fun fault w => ?_) w
  cases fault with
  | none => exact success
  | some fault =>
    rw [fail_reply]
    exact failure

theorem sayVerdicts_reply (status : ∀ status, P { status }) (call : Call) (names : List Text) (so_far : Int)
    (w : Surroundings) : P ((sayVerdicts call so_far names).runAlone w).1 := by
  induction names generalizing so_far w with
  | nil => exact status so_far
  | cons name names ih =>
    refine Act.reply_bind (fun answer w => ?_) w
    cases answer <;> refine Act.reply_bind (fun fault w => ?_) w <;> cases fault with
    | none => exact ih _ _
    | some fault =>
      rw [fail_reply]
      exact status 1

/-- A directory that `cd` asks for is the canonical form of its destination. -/
theorem changeDirectory_reply {shown destination directory : Text}
    (asked : ((changeDirectory shown destination).runAlone w).1.directory = some directory) :
    w.host.canonical? destination = some directory ∧ w.host.isDirectory directory = true := by
  rw [changeDirectory, Act.runAlone_ask] at asked
  split at asked
  · rw [fail_reply] at asked
    cases asked
  · rename_i path canonical
    rw [Act.runAlone_ask] at asked
    split at asked
    · rename_i isDirectory
      cases asked
      exact ⟨canonical, isDirectory⟩
    · rw [fail_reply] at asked
      cases asked

theorem changeDirectory_exit (shown destination : Text) (w : Surroundings) :
    ((changeDirectory shown destination).runAlone w).1.exit = none := by
  rw [changeDirectory, Act.runAlone_ask]
  split
  · rw [fail_reply]
  · rw [Act.runAlone_ask]
    split
    · rfl
    · rw [fail_reply]

end Builtin

/-- A reply that asks for no directory, or for the canonical form of a path to one. -/
def Reply.IsGrounded (h : Host) (reply : Reply) : Prop :=
  ∀ directory, reply.directory = some directory →
    ∃ path, h.canonical? path = some directory ∧ h.isDirectory directory = true

theorem Reply.isGrounded_of_none {h : Host} {reply : Reply} (none : reply.directory = none) : reply.IsGrounded h := by
  intro directory asked
  rw [none] at asked
  cases asked

/-- All builtins reply so on the host that they are run on. -/
def Registry.Grounded (r : Registry) : Prop :=
  ∀ b ∈ r.builtins, ∀ call w, ((b.run call).runAlone w).1.IsGrounded w.host

theorem Registry.Grounded.register {r : Registry} (all : r.Grounded) {b : Builtin}
    (grounded : ∀ call w, ((b.run call).runAlone w).1.IsGrounded w.host) : (r.register b).Grounded := by
  intro c hc
  rcases mem_insert hc with rfl | hc
  · exact grounded
  · exact all c hc

/-- **Only `cd` asks for a directory**, and it is the canonical form of a path that leads to one. -/
theorem Registry.standard_grounded : Registry.standard.Grounded := by
  have none : Registry.Grounded {} := fun _ hb => by cases hb
  have asksNothing : ∀ {h : Host} (status : Int), Reply.IsGrounded h { status } := fun _ =>
    Reply.isGrounded_of_none rfl
  refine ((((none.register ?cd).register ?echo).register ?exit).register ?pwd).register ?type
  case cd =>
    refine fun call w => Builtin.ofForm_reply (asksNothing 0) (asksNothing 1) fun target => ?_
    split
    · rw [Builtin.fail_reply]
      exact asksNothing 1
    · exact fun directory asked => ⟨_, Builtin.changeDirectory_reply asked⟩
  case echo => exact fun call w => Builtin.print_reply (asksNothing 0) (asksNothing 1) _ w
  case exit =>
    exact fun call w => Builtin.ofForm_reply (asksNothing 0) (asksNothing 1) fun code => Reply.isGrounded_of_none rfl
  case pwd =>
    exact fun call w => Builtin.ofForm_reply (asksNothing 0) (asksNothing 1) fun _ =>
      Builtin.print_reply (asksNothing 0) (asksNothing 1) _ w
  case type =>
    exact fun call w => Builtin.ofForm_reply (asksNothing 0) (asksNothing 1) fun names =>
      Builtin.sayVerdicts_reply asksNothing _ names 0 w

/-- A reply that befits the builtin `name`: only `cd` asks for a directory, and only `exit` for an exit, with the
status as the code. -/
structure Reply.Befits (name : Text) (reply : Reply) : Prop where
  directory : reply.directory ≠ none → name = "cd".toList
  exit : ∀ code, reply.exit = some code → name = "exit".toList ∧ reply.status = code ∧ 0 ≤ code ∧ code < 256

theorem Reply.befits_of_status (name : Text) (status : Int) : Reply.Befits name { status } :=
  ⟨fun asked => absurd rfl asked, fun code asked => by cases asked⟩

/-- **Only `exit` asks for an exit**, and only `cd` for a directory. -/
theorem Registry.standard_befits {b : Builtin} (mem : b ∈ Registry.standard.builtins) (call : Call) (w : Surroundings) :
    ((b.run call).runAlone w).1.Befits b.name := by
  have plain := fun status => Reply.befits_of_status b.name status
  rcases mem_standard mem with rfl | rfl | rfl | rfl | rfl
  · refine Builtin.ofForm_reply (plain 0) (plain 1) fun target => ?_
    split
    · rw [Builtin.fail_reply]
      exact plain 1
    · exact ⟨fun _ => rfl, fun code asked => by rw [Builtin.changeDirectory_exit] at asked; cases asked⟩
  · exact Builtin.print_reply (plain 0) (plain 1) _ w
  · refine Builtin.ofForm_reply (plain 0) (plain 1) fun code => ⟨fun asked => absurd rfl asked, fun code' asked => ?_⟩
    obtain rfl : code.getD 0 % 256 = code' := Option.some.inj asked
    exact ⟨rfl, rfl, Int.emod_nonneg _ (by decide), Int.emod_lt_of_pos _ (by decide)⟩
  · exact Builtin.ofForm_reply (plain 0) (plain 1) fun _ => Builtin.print_reply (plain 0) (plain 1) _ w
  · exact Builtin.ofForm_reply (plain 0) (plain 1) fun names => Builtin.sayVerdicts_reply plain _ names 0 w

end PipeShell
