import PipeShell.Proofs.Run.Scene
import PipeShell.Proofs.Run.Sequence

/-!
# A part of a pipeline and the whole

Stages of a running pipeline `w` that stand side by side, the first of them at `n`, are compared with a pipeline `v` of
these stages alone: `World.Window` says that each of them is doing the same in both, apart from a process that the
shell has waited for in one and not yet in the other.

The part and the whole go in lockstep.  Whatever one of these stages can do in the one it can do in the other
(`Window.stepStage?`, `Window.stepRelay?`), with the same to be seen of it (`Window.served?_eq`), and what goes on
elsewhere in the whole is nothing to the part (`Window.frame`).  Only what the part passes on at its end needs an
agreement, `World.Meets`, since its last stage may have a next one in the whole.
-/

namespace PipeShell

/-- A process that is gone counts as one that the shell has waited for. -/
def Actor.settle {σ : Type} : Actor σ → Actor σ
  | .gone ending => .ended (.exited ending.status)
  | a => a

@[simp] theorem Actor.role_settle {σ : Type} (a : Actor σ) : a.settle.role = a.role := by cases a <;> rfl

theorem Actor.eq_of_settle {σ : Type} {a b : Actor σ} (same : a.settle = b.settle) (runs : b.role ≠ .idle) : a = b := by
  cases a <;> cases b <;> simp_all [settle, role]

/-- Where an output goes for somebody to whom the next stage is `next`. -/
def Output.via (o next : Output) : Output :=
  match o with
  | .to d => .to d
  | .nextStage => next

@[simp] theorem Output.via_nextStage (o : Output) : o.via .nextStage = o := by cases o <;> rfl

/-- All stages of a part pass on to the next one, as they do in the whole. -/
def Output.onward (_ : Nat) : Output := .nextStage

/-- What happens in the whole, as it is seen in a part of `m` stages, the first of them at `n`.  The next stage is to
each of them what `next` says. -/
def Event.seen (next : Nat → Output) (n m : Nat) (e : Event) : Option Event :=
  if n ≤ e.stage ∧ e.stage < n + m then
    match e with
    | .read k limit data => some (.read (k - n) limit data)
    | .wrote k stream target data => some (.wrote (k - n) stream (target.via (next (k - n))) data)
  else none

section Seats

variable {σ : Type} {next : Output} {s s' t t' : Seat σ}

/-- Two seats at which the same is going on, with the same in front of them; `next` is to the one what the next stage
is to the other. -/
structure Seat.Like (next : Output) (s t : Seat σ) : Prop where
  actor : s.actor.settle = t.actor.settle
  out : s.out = t.out.via next
  err : s.err = t.err
  input : s.input = t.input
  unsent : t.actor.role ≠ .idle → s.unsent = t.unsent

theorem Seat.Like.output (like : s.Like next t) (stream : StdStream) : s.output stream = (t.output stream).via next := by
  cases stream with
  | out => exact like.out
  | err =>
    simp only [Seat.output, like.err]
    rfl

/-- The shell may have waited for a process that is gone. -/
def Seat.Settles (t t' : Seat σ) : Prop :=
  t' = t ∨ ∃ ending, t.actor = .gone ending ∧
    t' = { t with actor := .ended (.exited ending.status), unsent := none }

theorem Seat.Like.settles (like : s.Like next t) (settles : t.Settles t') : s.Like next t' := by
  rcases settles with rfl | ⟨ending, gone, rfl⟩
  · exact like
  · exact
      { actor := by rw [like.actor, gone]; rfl
        out := like.out
        err := like.err
        input := like.input
        unsent := fun runs => absurd rfl runs }

theorem Seat.Like.of_settles (like : s.Like next t) (settles : s.Settles s') : s'.Like next t := by
  rcases settles with rfl | ⟨ending, gone, rfl⟩
  · exact like
  · have actor : (Actor.ended (.exited ending.status)).settle = t.actor.settle := by
      rw [← like.actor, gone]
      rfl
    exact
      { actor
        out := like.out
        err := like.err
        input := like.input
        unsent := fun runs => absurd (by rw [← Actor.role_settle, ← actor]; rfl) runs }

end Seats

namespace World

variable {σ : Type} {programs : Programs σ} {next : Nat → Output} {n m k : Nat} {v v' w w' : World σ} {party : Party}
  {s t : Seat σ} {request : Request Finish (Actor σ)}

/-! ### Who takes the next step -/

/-- The first of the builtins is run next. -/
theorem nextBuiltin?_of_first {act : Act Reply} (seat : w.seats[k]? = some s) (actor : s.actor = .builtin act)
    (isFirst : ∀ i, i < k → w.role i ≠ .builtin) : w.nextBuiltin? = some (k, s, act) := by
  have role : w.role k = .builtin := by rw [role_eq seat, actor]; rfl
  cases found : w.nextBuiltin? with
  | none => exact absurd role (role_of_nextBuiltin?_eq_none found k)
  | some first =>
    obtain ⟨i, t, a⟩ := first
    obtain ⟨seat', actor', before⟩ := nextBuiltin?_eq_some found
    have notBefore : ¬ i < k := fun hi => isFirst i hi (by rw [role_eq seat', actor']; rfl)
    have notAfter : ¬ k < i := fun hi => before k s act hi seat actor
    obtain rfl : i = k := by omega
    rw [seat] at seat'
    cases seat'
    rw [actor] at actor'
    cases actor'
    rfl

theorem exists_acts_of_builtin {act : Act Reply} (running : w.progress = .running) (seat : w.seats[k]? = some s)
    (actor : s.actor = .builtin act) (isFirst : ∀ i, i < k → w.role i ≠ .builtin) :
    Acts programs w .shell k s (act.request.map .reply .builtin) :=
  .builtin running (nextBuiltin?_of_first seat actor isFirst)

/-- Serving a stage changes its own seat and the join behind it, and no other. -/
theorem serve_frame {answer : Answer Finish (Actor σ)} (served : w.serve k s request = some (v, answer)) :
    v.progress = w.progress ∧ ∀ i, i ≠ k → i ≠ k + 1 → v.seats[i]? = w.seats[i]? := by
  have setInput : ∀ (u : World σ) (i j : Nat) (join : Join), i ≠ j → (u.setInput j join).seats[i]? = u.seats[i]? :=
    fun u i j join other => by simp [World.setInput, modifyInput, Ne.symm other]
  cases request with
  | done result =>
    cases served
    refine ⟨rfl, fun i own behind => ?_⟩
    simp [closeEnds, modifyInput, Ne.symm own, Ne.symm behind]
  | read limit next =>
    obtain ⟨given, -, same⟩ := Option.map_eq_some_iff.1 served
    cases same
    exact ⟨rfl, fun i own _ => setInput _ _ _ _ own⟩
  | write stream data next =>
    obtain ⟨⟨u, outcome⟩, written, same⟩ := Option.map_eq_some_iff.1 served
    obtain rfl : u = v := by cases outcome <;> cases same <;> rfl
    unfold serveWrite at written
    split at written <;> split at written <;> cases written
    · exact ⟨rfl, fun i _ _ => rfl⟩
    · exact ⟨rfl, fun i _ _ => rfl⟩
    · exact ⟨rfl, fun i _ _ => rfl⟩
    · exact ⟨rfl, fun i _ behind => setInput _ _ _ _ behind⟩
  | call change next =>
    cases served
    exact ⟨rfl, fun i _ _ => rfl⟩

/-- What a stage does changes its own seat and the join behind it, and no other. -/
theorem stepStage?_frame (step : w.stepStage? k s request = some w') :
    w'.progress = w.progress ∧ ∀ i, i ≠ k → i ≠ k + 1 → w'.seats[i]? = w.seats[i]? := by
  obtain ⟨⟨u, answer⟩, served, same⟩ := Option.map_eq_some_iff.1 step
  obtain ⟨progress, frame⟩ := serve_frame served
  have setActor : ∀ (a : Actor σ) (i : Nat), i ≠ k → (u.setActor k a).seats[i]? = u.seats[i]? :=
    fun a i own => by simp [World.setActor, Ne.symm own]
  cases answer with
  | ended result =>
    obtain ⟨a, -, seats⟩ := u.finish_seats k s.name result
    rw [← same]
    refine ⟨(progress_finish _ _ _ _).trans progress, fun i own behind => ?_⟩
    rw [seats, setActor a i own, frame i own behind]
  | goesOn actor =>
    rw [← same]
    exact ⟨progress, fun i own behind => (setActor actor i own).trans (frame i own behind)⟩
  | unsent rest =>
    rw [← same]
    refine ⟨progress, fun i own behind => ?_⟩
    rw [← frame i own behind]
    simp [setUnsent, Ne.symm own]

theorem stepRelay?_eq_some (step : w.stepRelay? k = some w') :
    k < w.seats.length ∧ ∃ j, (w.input k).stepRelay? = some j ∧ w' = w.setInput k j := by
  unfold stepRelay? at step
  split at step
  · rename_i seat
    obtain ⟨j, copied, rfl⟩ := Option.map_eq_some_iff.1 step
    exact ⟨(List.getElem?_eq_some_iff.1 seat).1, j, by rw [input_eq seat, copied], rfl⟩
  · cases step

/-- A relay changes its own join, and no other. -/
theorem stepRelay?_frame (step : w.stepRelay? k = some w') :
    w'.progress = w.progress ∧ ∀ i, i ≠ k → w'.seats[i]? = w.seats[i]? := by
  obtain ⟨-, j, -, rfl⟩ := stepRelay?_eq_some step
  exact ⟨rfl, fun i own => by simp [setInput, modifyInput, Ne.symm own]⟩

/-- Nothing has happened but that the shell may have waited for processes that are gone. -/
def Settles (w w' : World σ) : Prop :=
  ∀ (i : Nat) (t : Seat σ), w.seats[i]? = some t → ∃ t', w'.seats[i]? = some t' ∧ t.Settles t'

theorem Settles.of_eq (same : w'.seats = w.seats) : w.Settles w' :=
  fun i t seat => ⟨t, by rw [same, seat], .inl rfl⟩

theorem awaitStage?_settles (past : w.awaitStage? k = some w') (other : w.role k ≠ .builtin) : w.Settles w' := by
  cases pastStage_of_awaitStage? past with
  | noMore | ended => exact .of_eq rfl
  | neverRun own builtin => exact absurd (by rw [role_eq own, builtin]; rfl) other
  | gone own gone =>
    intro i t seat
    by_cases same : k = i
    · subst same
      rw [own] at seat
      cases seat
      exact ⟨_, by simp [note, setActor, own], .inr ⟨_, gone, rfl⟩⟩
    · exact ⟨t, by simp [note, setActor, same, seat], .inl rfl⟩

/-- Whoever takes a step acts for a stage, or copies in a join, or else it is the shell, which goes past something. -/
theorem Step.acts_or_settles (step : Step programs w party w') (held : w.Held) :
    (∃ k s request, Acts programs w party k s request) ∨ (∃ k, party = .relay k) ∨
      party = .shell ∧ w.event? programs .shell = none ∧ w'.waits < w.waits ∧ w.Settles w' := by
  have length := step.length_seats
  cases step with
  | done acts | read acts | wrote acts | refused acts | passed acts | passedPart acts | broken acts | called acts =>
    exact .inl ⟨_, _, _, acts⟩
  | relayed => exact .inr (.inl ⟨_, rfl⟩)
  | turned running last =>
    refine .inr (.inr ⟨rfl, event?_shell_of_last last, ?_, .of_eq rfl⟩)
    simp only [World.waits, running]
    omega
  | @awaited k _ waiting past =>
    have waits : w.progress ≠ .running := by simp [waiting]
    refine .inr (.inr ⟨rfl, event?_shell_of_waiting waits, ?_, awaitStage?_settles past (held.settled waits k)⟩)
    rcases awaitStage?_progress past with ⟨progress, hk, -⟩ | ⟨progress, -⟩
    · simp only [World.waits, progress, waiting, length]
      omega
    · simp only [World.waits, progress, waiting, length]
      omega
  | @joined k _ joining past =>
    refine .inr (.inr ⟨rfl, event?_shell_of_waiting (by simp [joining]), ?_, .of_eq (awaitRelay?_seats past)⟩)
    rcases awaitRelay?_progress past with ⟨progress, hk, -⟩ | ⟨progress, -⟩
    · simp only [World.waits, progress, joining, length]
      omega
    · simp only [World.waits, progress, joining]
      omega

/-! ### The window -/

/-- The stages of `v` are those of `w` from `n` on, and each is doing the same in both. -/
structure Window (next : Nat → Output) (n : Nat) (v w : World σ) : Prop where
  scene : v.host.scene = w.host.scene
  seats : ∀ (k : Nat) (s : Seat σ), v.seats[k]? = some s → ∃ t, w.seats[n + k]? = some t ∧ s.Like (next k) t

namespace Window

theorem of_seats (seats : ∀ k, k < v.seats.length → w.seats[n + k]? = v.seats[k]?) (host : v.host = w.host) :
    Window Output.onward n v w := by
  refine ⟨congrArg Host.scene host, fun k s seat => ⟨s, ?_, rfl, (Output.via_nextStage _).symm, rfl, rfl, fun _ => rfl⟩⟩
  rw [seats k (List.getElem?_eq_some_iff.1 seat).1, seat]

theorem congr (window : Window next n v w) (seats : v'.seats = v.seats) (seats' : w'.seats = w.seats)
    (scene : v'.host.scene = w'.host.scene) : Window next n v' w' := by
  refine ⟨scene, fun k s seat => ?_⟩
  rw [seats'] at *
  exact window.seats k s (seats ▸ seat)

theorem modify (window : Window next n v w) (k : Nat) {f g : Seat σ → Seat σ}
    (alike : ∀ s t : Seat σ, s.Like (next k) t → (f s).Like (next k) (g t)) :
    Window next n { v with seats := v.seats.modify k f } { w with seats := w.seats.modify (n + k) g } := by
  refine ⟨window.scene, fun i s seat => ?_⟩
  simp only [List.getElem?_modify, Option.map_eq_map, Option.map_eq_some_iff] at seat ⊢
  obtain ⟨s, seat, rfl⟩ := seat
  obtain ⟨t, seat', like⟩ := window.seats i s seat
  refine ⟨_, ⟨t, seat', rfl⟩, ?_⟩
  by_cases own : k = i
  · subst own
    simpa using alike s t like
  · simpa [own] using like

theorem modifyInput (window : Window next n v w) (k : Nat) (f : Join → Join) :
    Window next n (v.modifyInput k f) (w.modifyInput (n + k) f) :=
  window.modify k fun _ _ like => ⟨like.actor, like.out, like.err, congrArg f like.input, like.unsent⟩

theorem setActor (window : Window next n v w) (k : Nat) (a : Actor σ) :
    Window next n (v.setActor k a) (w.setActor (n + k) a) :=
  window.modify k fun _ _ like => ⟨rfl, like.out, like.err, like.input, fun _ => rfl⟩

theorem setUnsent (window : Window next n v w) (k : Nat) (rest : Bytes) :
    Window next n (v.setUnsent k rest) (w.setUnsent (n + k) rest) :=
  window.modify k fun _ _ like => ⟨like.actor, like.out, like.err, like.input, fun _ => rfl⟩

theorem finish (window : Window next n v w) (k : Nat) (name name' : Text) (result : Finish) :
    Window next n (v.finish k name result) (w.finish (n + k) name' result) := by
  cases result with
  | ending e => exact window.setActor k _
  | reply r =>
    refine (window.setActor k (.ended (.exited r.status))).congr (finishBuiltin_seats _ _ _ _)
      (finishBuiltin_seats _ _ _ _) ?_
    exact ((scene_finish v k name (.reply r)).trans window.scene).trans (scene_finish w (n + k) name' (.reply r)).symm

/-- Nothing goes on in the part of the whole. -/
theorem frame (window : Window next n v w) (same : ∀ k, k < v.seats.length → w'.seats[n + k]? = w.seats[n + k]?)
    (scene : w'.host.scene = w.host.scene) : Window next n v w' := by
  refine ⟨window.scene.trans scene.symm, fun k s seat => ?_⟩
  rw [same k (List.getElem?_eq_some_iff.1 seat).1]
  exact window.seats k s seat

theorem settles (window : Window next n v w) (settles : w.Settles w')
    (scene : w'.host.scene = w.host.scene) : Window next n v w' := by
  refine ⟨window.scene.trans scene.symm, fun k s seat => ?_⟩
  obtain ⟨t, seat', like⟩ := window.seats k s seat
  obtain ⟨t', seat'', settled⟩ := settles _ t seat'
  exact ⟨t', seat'', like.settles settled⟩

theorem of_settles (window : Window next n v w) (length : v'.seats.length = v.seats.length) (settles : v.Settles v')
    (scene : v'.host.scene = v.host.scene) : Window next n v' w := by
  refine ⟨scene.trans window.scene, fun k s' seat => ?_⟩
  have hk : k < v.seats.length := by
    rw [← length]
    exact (List.getElem?_eq_some_iff.1 seat).1
  obtain ⟨t, seat', like⟩ := window.seats k _ (List.getElem?_eq_getElem hk)
  obtain ⟨s'', seat'', settled⟩ := settles k _ (List.getElem?_eq_getElem hk)
  rw [seat] at seat''
  cases seat''
  exact ⟨t, seat', like.of_settles settled⟩

theorem role_eq (window : Window next n v w) (hk : k < v.seats.length) : v.role k = w.role (n + k) := by
  have seat := List.getElem?_eq_getElem hk
  obtain ⟨t, seat', like⟩ := window.seats k _ seat
  rw [World.role_eq seat, World.role_eq seat', ← Actor.role_settle, like.actor, Actor.role_settle]

theorem input_eq (window : Window next n v w) (hk : k < v.seats.length) : v.input k = w.input (n + k) := by
  have seat := List.getElem?_eq_getElem hk
  obtain ⟨t, seat', like⟩ := window.seats k _ seat
  rw [World.input_eq seat, World.input_eq seat', like.input]

/-! ### Steps of the stages -/

/-- Whoever acts for a stage of the part in the whole does so in the part, as long as the shell runs builtins there. -/
theorem follow (window : Window next n v w) (acts : Acts programs w party (n + k) t request)
    (hk : k < v.seats.length) (running : v.progress = .running) :
    ∃ party' s, Acts programs v party' k s request ∧ s.Like (next k) t := by
  have seat := List.getElem?_eq_getElem hk
  obtain ⟨t', seat', like⟩ := window.seats k _ seat
  rw [acts.seat] at seat'
  cases seat'
  have same := Actor.eq_of_settle like.actor acts.role_ne_idle
  cases acts with
  | builtin _ first =>
    obtain ⟨-, actor, before⟩ := nextBuiltin?_eq_some first
    refine ⟨_, _, exists_acts_of_builtin running seat (same.trans actor) fun i hi builtin => ?_, like⟩
    rw [window.role_eq (by omega)] at builtin
    obtain ⟨u, a, seat', actor'⟩ := exists_of_role_eq_builtin builtin
    exact before (n + i) u a (by omega) seat' actor'
  | process _ actor => exact ⟨_, _, .process seat (same.trans actor), like⟩

/-- Whoever acts for a stage in the part does so in the whole, if the shell runs builtins there and there is none before
the part. -/
theorem lead (window : Window next n v w) (acts : Acts programs v party k s request) (running : w.progress = .running)
    (first : ∀ i, i < n → w.role i ≠ .builtin) :
    ∃ party' t, Acts programs w party' (n + k) t request ∧ s.Like (next k) t := by
  obtain ⟨t, seat, like⟩ := window.seats k s acts.seat
  have runs : t.actor.role ≠ .idle := by
    rw [← Actor.role_settle, ← like.actor, Actor.role_settle]
    exact acts.role_ne_idle
  have same := Actor.eq_of_settle like.actor runs
  have hk := (List.getElem?_eq_some_iff.1 acts.seat).1
  cases acts with
  | builtin _ isFirst =>
    obtain ⟨-, actor, before⟩ := nextBuiltin?_eq_some isFirst
    refine ⟨_, _, exists_acts_of_builtin running seat (same.symm.trans actor) fun i hi builtin => ?_, like⟩
    by_cases inside : n ≤ i
    · obtain ⟨i, rfl⟩ := Nat.exists_eq_add_of_le inside
      rw [← window.role_eq (by omega)] at builtin
      obtain ⟨u, a, seat', actor'⟩ := exists_of_role_eq_builtin builtin
      exact before i u a (by omega) seat' actor'
    · exact first i (by omega) builtin
  | process _ actor => exact ⟨_, _, .process seat (same.symm.trans actor), like⟩

end Window

/-- What stage `k` of the part passes on is taken alike by what it passes it to, in the part and in the whole. -/
def Meets (next : Nat → Output) (n : Nat) (v w : World σ) (k : Nat) : Prop :=
  ∀ data, Option.Rel (fun a b => Window next n a.1 b.1 ∧ a.2 = b.2) (v.serveWrite k (next k) data)
    (w.serveWrite (n + k) .nextStage data)

namespace Window

/-- Inside the part, stages pass on to the same join. -/
theorem meets (window : Window next n v w) (inside : next k = .nextStage) (same : v.input (k + 1) = w.input (n + k + 1)) :
    Meets next n v w k := by
  intro data
  rw [inside]
  simp only [serveWrite, same]
  rcases (w.input (n + k + 1)).write? data with - | fault | ⟨rest, j⟩
  · exact .none
  · exact .some ⟨window, rfl⟩
  · exact .some ⟨window.modifyInput (k + 1) fun _ => j, rfl⟩

theorem serveWrite (window : Window next n v w) (like : s.Like (next k) t)
    (meets : t.out = .nextStage → Meets next n v w k) (stream : StdStream) (data : Bytes) :
    Option.Rel (fun a b => Window next n a.1 b.1 ∧ a.2 = b.2) (v.serveWrite k (s.output stream) data)
      (w.serveWrite (n + k) (t.output stream) data) := by
  rw [like.output]
  rcases target : t.output stream with d | _
  · simp only [Output.via, World.serveWrite]
    rcases Host.write_congr window.scene d data with ⟨host, host', taken, taken', same⟩ | ⟨fault, failed, failed'⟩
    · rw [taken, taken']
      exact .some ⟨window.congr rfl rfl same, rfl⟩
    · rw [failed, failed']
      exact .some ⟨window, rfl⟩
  · exact meets (out_of_output target).1 data

/-- A stage does in the part what it does in the whole. -/
theorem stepStage? (window : Window next n v w) (like : s.Like (next k) t) (runs : t.actor.role ≠ .idle)
    (oblivious : request.IsOblivious) (meets : t.out = .nextStage → Meets next n v w k) :
    Option.Rel (Window next n) (v.stepStage? k s request) (w.stepStage? (n + k) t request) := by
  cases request with
  | done result =>
    exact .some (((window.modifyInput k _).modifyInput (k + 1) _).finish k _ _ result)
  | read limit goOn =>
    simp only [World.stepStage?, serve, like.input]
    rcases t.input.read? limit with - | ⟨data, j⟩
    · exact .none
    · exact .some ((window.modifyInput k fun _ => j).setActor k _)
  | write stream data goOn =>
    simp only [World.stepStage?, serve, like.unsent runs]
    have written := window.serveWrite like meets stream (t.unsent.getD data)
    generalize v.serveWrite k (s.output stream) (t.unsent.getD data) = here at written ⊢
    generalize w.serveWrite (n + k) (t.output stream) (t.unsent.getD data) = there at written ⊢
    cases written with
    | none => exact .none
    | @some a b both =>
      obtain ⟨v', outcome⟩ := a
      obtain ⟨w', outcome'⟩ := b
      obtain ⟨window', rfl⟩ : Window next n v' w' ∧ outcome = outcome' := both
      cases outcome with
      | error fault => exact .some (window'.setActor k _)
      | ok rest =>
        by_cases all : rest = []
        · simp only [Option.map_some, all, if_true]
          exact .some (window'.setActor k _)
        · simp only [Option.map_some, all, if_false]
          exact .some (window'.setUnsent k rest)
  | call change goOn =>
    have changed : Window next n { v with host := change v.host } { w with host := change w.host } :=
      window.congr rfl rfl (((oblivious.1 _).trans window.scene).trans (oblivious.1 _).symm)
    simp only [World.stepStage?, serve, oblivious.2 _ _ window.scene]
    exact .some (changed.setActor k _)

/-- The same is to be seen of it. -/
theorem served?_eq (window : Window next n v w) (like : s.Like (next k) t) (runs : t.actor.role ≠ .idle)
    (meets : t.out = .nextStage → Meets next n v w k) (hk : k < m) :
    v.served? k s request = (w.served? (n + k) t request).bind (Event.seen next n m) := by
  cases request with
  | done | call => rfl
  | read limit goOn =>
    simp only [World.served?, like.input]
    rcases t.input.read? limit with - | ⟨data, j⟩
    · rfl
    · simp [Event.seen, Event.stage, hk]
  | write stream data goOn =>
    simp only [World.served?, like.unsent runs]
    have written := window.serveWrite like meets stream (t.unsent.getD data)
    generalize v.serveWrite k (s.output stream) (t.unsent.getD data) = here at written ⊢
    generalize w.serveWrite (n + k) (t.output stream) (t.unsent.getD data) = there at written ⊢
    cases written with
    | none => rfl
    | @some a b both =>
      obtain ⟨v', outcome⟩ := a
      obtain ⟨w', outcome'⟩ := b
      obtain ⟨-, rfl⟩ : Window next n v' w' ∧ outcome = outcome' := both
      cases outcome with
      | error fault => rfl
      | ok rest => simp [Event.seen, Event.stage, hk, like.output]

/-- A relay does in the part what it does in the whole. -/
theorem stepRelay? (window : Window next n v w) (hk : k < v.seats.length) :
    Option.Rel (Window next n) (v.stepRelay? k) (w.stepRelay? (n + k)) := by
  have seat := List.getElem?_eq_getElem hk
  obtain ⟨t, seat', like⟩ := window.seats k _ seat
  simp only [World.stepRelay?, seat, seat', like.input]
  rcases t.input.stepRelay? with - | j
  · exact .none
  · exact .some (window.modifyInput k fun _ => j)

end Window

end World

end PipeShell
