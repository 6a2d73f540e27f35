import PipeShell.Builtin.Standard
import PipeShell.Proofs.Run.Ends
import PipeShell.Proofs.Run.Wiring

/-!
# What output does not change

The scene of a host is all of it but what is changed by writing to files and terminals and by keeping the journal.
Whether a write succeeds depends on the scene only (`Host.fault?_scene`), and no write changes it
(`Host.scene_of_write`).  A program is oblivious if it sees of the host only the scene, and leaves that as it is.  So
what other stages write is nothing to it, unless it reads it from its input.  The standard builtins are oblivious
(`Registry.standard_oblivious`).

In a pipeline of oblivious programs no step changes the scene (`World.Step.scene_eq`).
-/

namespace PipeShell

namespace Host

variable {h h' : Host} {d : Destination} {data : Bytes}

/-- The host without contents of files, offsets, terminals and journal. -/
def scene (h : Host) : Host :=
  { h with
    files := h.files.map fun f => { f with contents := [] }
    handles := h.handles.map fun d => { d with offset := 0 }
    terminalOut := []
    terminalErr := []
    journal := [] }

theorem scene_setContents (h : Host) (number : Nat) (contents : Bytes) :
    (h.setContents number contents).scene = h.scene := by
  have files : ((h.files.modify number fun f => { f with contents }).map fun f => { f with contents := [] }) =
      h.files.map fun f => { f with contents := [] } := World.map_modify_of_eq _ _ fun _ => rfl
  simp only [scene, setContents, files]

theorem scene_setOffset {handle : Nat} {description : Description} (h : Host)
    (present : h.handles[handle]? = some description) (offset : Nat) :
    { h with handles := h.handles.set handle { description with offset } }.scene = h.scene := by
  have handles : ((h.handles.set handle { description with offset }).map fun d => { d with offset := 0 }) =
      h.handles.map fun d => { d with offset := 0 } := by
    apply List.ext_getElem?
    intro i
    rw [List.getElem?_map, List.getElem?_map, List.getElem?_set]
    split
    · rename_i own
      subst own
      rw [present]
      split <;> simp_all
    · rfl
  simp only [scene, handles]

theorem scene_of_write (written : h.write d data = .ok h') : h'.scene = h.scene := by
  cases d with
  | nowhere =>
    cases written
    rfl
  | terminal stream => cases stream <;> cases written <;> rfl
  | file handle =>
    simp only [write, writeHandle] at written
    split at written
    · cases written
      rfl
    · rename_i description present
      split at written
      · cases written
      · split at written
        · cases written
        · cases written
        · cases written
          rfl
        · split at written <;> cases written
          rfl
        · cases written
          exact (scene_setOffset (h.setContents _ _) present _).trans (scene_setContents _ _ _)

theorem scene_tryWrite (h : Host) (d : Destination) (data : Bytes) : (h.tryWrite d data).scene = h.scene := by
  unfold tryWrite
  split
  · rename_i written
    exact scene_of_write written
  · rfl

@[simp] theorem scene_note (h : Host) (level : Level) (text : Text) : (h.note level text).scene = h.scene := by
  simp only [note]
  split
  · exact scene_tryWrite _ _ _
  · rfl

/-- What goes wrong with a write. -/
def fault? (h : Host) (d : Destination) (data : Bytes) : Option Fault :=
  match h.write d data with
  | .ok _ => none
  | .error fault => some fault

/-- Whether a write succeeds depends on the scene only. -/
theorem fault?_scene (h : Host) (d : Destination) (data : Bytes) : h.scene.fault? d data = h.fault? d data := by
  cases d with
  | nowhere => rfl
  | terminal stream => cases stream <;> rfl
  | file handle =>
    have handles : h.scene.handles[handle]? = h.handles[handle]?.map fun d => { d with offset := 0 } := List.getElem?_map
    simp only [fault?, write, writeHandle, handles]
    cases h.handles[handle]? with
    | none => rfl
    | some description =>
      simp only [Option.map_some]
      cases description.writable with
      | false => rfl
      | true =>
        cases description.backing with
        | directory | rest | file => rfl
        | device d =>
          cases d with
          | null => rfl
          | full => by_cases empty : data = [] <;> simp [empty]

theorem write_congr (same : h.scene = h'.scene) (d : Destination) (data : Bytes) :
    (∃ host host', h.write d data = .ok host ∧ h'.write d data = .ok host' ∧ host.scene = host'.scene) ∨
      ∃ fault, h.write d data = .error fault ∧ h'.write d data = .error fault := by
  have faults : h.fault? d data = h'.fault? d data := by rw [← fault?_scene h, same, fault?_scene]
  unfold fault? at faults
  cases here : h.write d data with
  | ok host =>
    cases there : h'.write d data with
    | ok host' => exact .inl ⟨host, host', rfl, rfl, by rw [scene_of_write here, same, scene_of_write there]⟩
    | error fault => simp [here, there] at faults
  | error fault =>
    cases there : h'.write d data with
    | ok host' => simp [here, there] at faults
    | error fault' => exact .inr ⟨fault, rfl, by simp_all⟩

/-! ### What a program may see -/

theorem isExecutable_scene (h : Host) (path : Text) : h.scene.isExecutable path = h.isExecutable path := by
  have node : h.scene.node? path = h.node? path := rfl
  simp only [isExecutable, node]
  split
  · rename_i n found
    have files : (h.scene.files.getD n {}).permissions = (h.files.getD n {}).permissions := by
      simp only [scene, List.getD_eq_getElem?_getD, List.getElem?_map]
      cases h.files[n]? <;> rfl
    rw [files]
  · rfl

theorem program?_scene (h : Host) (ctx : Context) (name : Text) : h.scene.program? ctx name = h.program? ctx name := by
  unfold program?
  congr 1
  funext path
  exact isExecutable_scene h path

end Host

/-- A program that sees of the host only the scene, and leaves that as it is. -/
inductive Act.Oblivious {ρ : Type} : Act ρ → Prop
  | done (result : ρ) : Oblivious (.done result)
  | read {limit : Nat} {next : Bytes → Act ρ} (later : ∀ data, (next data).Oblivious) : Oblivious (.read limit next)
  | write {stream : StdStream} {data : Bytes} {next : Option Fault → Act ρ} (later : ∀ fault, (next fault).Oblivious) :
      Oblivious (.write stream data next)
  | call {change : Host → Host} {next : Host → Act ρ} (keeps : ∀ h, (change h).scene = h.scene)
      (sees : ∀ h h', h.scene = h'.scene → next h = next h') (later : ∀ h, (next h).Oblivious) :
      Oblivious (.call change next)

/-- A program that changes nothing on the host, and goes on alike on hosts that are related. -/
inductive Act.Looks (R : Host → Host → Prop) {ρ : Type} : Act ρ → Prop
  | done (result : ρ) : Looks R (.done result)
  | read {limit : Nat} {next : Bytes → Act ρ} (later : ∀ data, (next data).Looks R) : Looks R (.read limit next)
  | write {stream : StdStream} {data : Bytes} {next : Option Fault → Act ρ} (later : ∀ fault, (next fault).Looks R) :
      Looks R (.write stream data next)
  | ask {next : Host → Act ρ} (sees : ∀ h h', R h h' → next h = next h') (later : ∀ h, (next h).Looks R) :
      Looks R (.call id next)

namespace Act.Looks

variable {ρ τ : Type} {R : Host → Host → Prop}

theorem bind {act : Act ρ} {f : ρ → Act τ} (first : act.Looks R) (rest : ∀ result, (f result).Looks R) :
    (act.bind f).Looks R := by
  induction first with
  | done result => exact rest result
  | read _ ih => exact .read ih
  | write _ ih => exact .write ih
  | ask sees _ ih => exact .ask (fun h h' related => by rw [sees h h' related]) ih

theorem sayAll (stream : StdStream) (texts : List Text) : (Act.sayAll stream texts).Looks R := by
  induction texts with
  | nil => exact .done _
  | cons text texts ih =>
    unfold Act.sayAll
    split
    · exact ih
    · refine .write fun fault => ?_
      split
      · exact .done _
      · exact ih

theorem query {f : Host → ρ} (sees : ∀ h h', R h h' → f h = f h') : (Act.ask f).Looks R :=
  .ask (fun h h' related => congrArg Act.done (sees h h' related)) fun _ => .done _

/-- A program that looks at the scene only. -/
theorem oblivious {act : Act ρ} (looks : act.Looks fun h h' => h.scene = h'.scene) : act.Oblivious := by
  induction looks with
  | done result => exact .done result
  | read _ ih => exact .read ih
  | write _ ih => exact .write ih
  | ask sees _ ih => exact .call (fun _ => rfl) sees ih

end Act.Looks

/-- All builtins are oblivious. -/
def Registry.Oblivious (r : Registry) : Prop := ∀ b ∈ r.builtins, ∀ call, (b.run call).Oblivious

/-! ### The standard builtins -/

namespace Builtin

variable {R : Host → Host → Prop}

theorem fail_looks (message : List Text) : (fail message).Looks R :=
  (Act.Looks.sayAll _ _).bind fun _ => .done _

theorem ofForm_looks {α : Type} {name : Text} {usage : Usage} {form : Form α} {start : α}
    {body : α → Call → Act Reply} {call : Call} (looks : ∀ a, (body a call).Looks R) :
    ((ofForm name usage form start body).run call).Looks R := by
  simp only [ofForm]
  split
  · exact looks _
  · exact fail_looks _
  · exact (Act.Looks.sayAll _ _).bind fun _ => .done _

theorem print_looks (texts : List Text) : (print texts).Looks R := by
  refine (Act.Looks.sayAll _ _).bind fun fault => ?_
  cases fault with
  | none => exact .done _
  | some fault => exact fail_looks _

theorem changeDirectory_looks (shown : Text) {destination : Text}
    (leads : ∀ h h', R h h' → h.canonical? destination = h'.canonical? destination)
    (directories : ∀ h h' path, R h h' → h.isDirectory path = h'.isDirectory path) :
    (changeDirectory shown destination).Looks R := by
  refine (Act.Looks.query leads).bind fun path => ?_
  cases path with
  | none => exact fail_looks _
  | some path =>
    refine (Act.Looks.query fun h h' => directories h h' path).bind fun isDirectory => ?_
    cases isDirectory with
    | false => exact fail_looks _
    | true => exact .done _

theorem sayVerdicts_looks {call : Call}
    (programs : ∀ h h' name, R h h' → h.program? call.context name = h'.program? call.context name) (status : Int)
    (names : List Text) : (sayVerdicts call status names).Looks R := by
  induction names generalizing status with
  | nil => exact .done _
  | cons name names ih =>
    refine (Act.Looks.query fun h h' related => ?_).bind fun answer => ?_
    · simp only [verdict, programs h h' name related]
    · cases answer <;> refine (Act.Looks.sayAll _ _).bind fun fault => ?_ <;> cases fault with
      | none => exact ih _
      | some fault => exact fail_looks _

/-! What the standard builtins look at. -/

theorem cd_looks {call : Call} (leads : ∀ h h' path, R h h' → h.canonical? path = h'.canonical? path)
    (directories : ∀ h h' path, R h h' → h.isDirectory path = h'.isDirectory path) : (cd.run call).Looks R := by
  refine ofForm_looks fun target => ?_
  split
  · exact fail_looks _
  · exact changeDirectory_looks _ (fun h h' => leads h h' _) directories

theorem echo_looks (call : Call) : (echo.run call).Looks R := print_looks _

theorem exit_looks (call : Call) : (exit.run call).Looks R := ofForm_looks fun _ => .done _

theorem pwd_looks (call : Call) : (pwd.run call).Looks R := ofForm_looks fun _ => print_looks _

theorem type_looks {call : Call}
    (programs : ∀ h h' name, R h h' → h.program? call.context name = h'.program? call.context name) :
    (type.run call).Looks R := ofForm_looks fun _ => sayVerdicts_looks programs _ _

end Builtin

theorem Registry.mem_insert {b c : Builtin} {builtins : List Builtin} (h : c ∈ insert b builtins) :
    c = b ∨ c ∈ builtins := by
  induction builtins with
  | nil => exact .inl (List.mem_singleton.1 h)
  | cons x rest ih =>
    simp only [insert] at h
    split at h
    · exact (List.mem_cons.1 h).imp_right (List.mem_cons_of_mem _)
    · split at h
      · exact List.mem_cons.1 h
      · rcases List.mem_cons.1 h with rfl | h
        · exact .inr List.mem_cons_self
        · exact (ih h).imp_right (List.mem_cons_of_mem _)

theorem Registry.mem_standard {b : Builtin} (mem : b ∈ Registry.standard.builtins) :
    b = .cd ∨ b = .echo ∨ b = .exit ∨ b = .pwd ∨ b = .type := by
  rcases mem_insert mem with rfl | mem
  · exact .inr (.inr (.inr (.inr rfl)))
  rcases mem_insert mem with rfl | mem
  · exact .inr (.inr (.inr (.inl rfl)))
  rcases mem_insert mem with rfl | mem
  · exact .inr (.inr (.inl rfl))
  rcases mem_insert mem with rfl | mem
  · exact .inr (.inl rfl)
  rcases mem_insert mem with rfl | mem
  · exact .inl rfl
  · cases mem

/-- The standard builtins see of the host only what output does not change. -/
theorem Registry.standard_oblivious : Registry.standard.Oblivious := by
  intro b mem call
  rcases mem_standard mem with rfl | rfl | rfl | rfl | rfl
  · refine (Builtin.cd_looks (fun h h' path same => ?_) fun h h' path same => ?_).oblivious
    · exact show h.scene.canonical? path = h'.scene.canonical? path by rw [same]
    · exact show h.scene.isDirectory path = h'.scene.isDirectory path by rw [same]
  · exact (Builtin.echo_looks call).oblivious
  · exact (Builtin.exit_looks call).oblivious
  · exact (Builtin.pwd_looks call).oblivious
  · refine (Builtin.type_looks fun h h' name same => ?_).oblivious
    rw [← Host.program?_scene h, same, Host.program?_scene]

/-! ### Pipelines -/

/-- What is asked of the host, if anything, shows the scene only, and leaves it as it is. -/
def Request.IsOblivious {ρ τ : Type} : Request ρ τ → Prop
  | .call change next => (∀ h, (change h).scene = h.scene) ∧ ∀ h h', h.scene = h'.scene → next h = next h'
  | _ => True

theorem Request.IsOblivious.map {ρ ρ' τ τ' : Type} {request : Request ρ τ} (oblivious : request.IsOblivious)
    (f : ρ → ρ') (g : τ → τ') : (request.map f g).IsOblivious := by
  cases request with
  | done | read | write => trivial
  | call change next => exact ⟨oblivious.1, fun h h' same => congrArg g (oblivious.2 h h' same)⟩

theorem Act.Oblivious.request {ρ : Type} {act : Act ρ} (oblivious : act.Oblivious) :
    act.request.IsOblivious ∧ act.request.Leads Act.Oblivious := by
  cases oblivious with
  | done => exact ⟨trivial, trivial⟩
  | read later | write later => exact ⟨trivial, later⟩
  | call keeps sees later => exact ⟨⟨keeps, sees⟩, later⟩

/-- The programs behave by what they are started with and by what they read.  Where their output goes is nothing to
them, and of the host they see the scene only. -/
structure Programs.Oblivious {σ : Type} (programs : Programs σ) : Prop where
  start : ∀ (l : Launch) (out : Destination) (h : Host), programs.start { l with out } h = programs.start l h
  next : ∀ state, (programs.next state).IsOblivious

/-- A builtin that is oblivious, or anything else. -/
def Actor.Oblivious {σ : Type} : Actor σ → Prop
  | .builtin act => act.Oblivious
  | _ => True

namespace World

variable {σ : Type} {programs : Programs σ} {w w' : World σ} {party : Party} {k : Nat} {s : Seat σ}
  {request : Request Finish (Actor σ)}

/-- What every stage is doing has this property. -/
def All (P : Actor σ → Prop) (w : World σ) : Prop := ∀ (k : Nat) (a : Actor σ), w.actor? k = some a → P a

/-- All builtins that are still to be run are oblivious. -/
def Oblivious (w : World σ) : Prop := ∀ (k : Nat) (a : Actor σ), w.actor? k = some a → a.Oblivious

variable {P : Actor σ → Prop}

theorem All.modifyInput (all : w.All P) (k : Nat) (f : Join → Join) : (w.modifyInput k f).All P := by
  intro i a hi
  rw [actor?_modifyInput] at hi
  exact all i a hi

theorem All.setUnsent (all : w.All P) (k : Nat) (rest : Bytes) : (w.setUnsent k rest).All P := by
  intro i a hi
  rw [actor?_setUnsent] at hi
  exact all i a hi

theorem All.setActor (all : w.All P) (k : Nat) {a : Actor σ} (ha : P a) : (w.setActor k a).All P := by
  intro i b hi
  by_cases own : i = k
  · subst own
    obtain ⟨hk, -⟩ := List.getElem?_eq_some_iff.1 (Option.map_eq_some_iff.1 hi).choose_spec.1
    rw [actor?_setActor_self w (by simpa [World.setActor] using hk)] at hi
    cases hi
    exact ha
  · rw [actor?_setActor_of_ne w own] at hi
    exact all i b hi

theorem All.congr (all : w.All P) (same : w'.seats = w.seats) : w'.All P := by
  intro i a hi
  rw [actor?_congr same] at hi
  exact all i a hi

theorem All.of_acts (all : w.All P) (acts : Acts programs w party k s request) : P s.actor :=
  all k s.actor (by simp [actor?, acts.seat])

/-- Every step keeps what a program keeps as it goes on, and what is true of a stage that is idle. -/
theorem Step.all (step : Step programs w party w') (all : w.All P)
    (leads : ∀ {k : Nat} {s : Seat σ} {request : Request Finish (Actor σ)}, Acts programs w party k s request →
      P s.actor → request.Leads P)
    (rest : ∀ a, a.role = .idle → P a) : w'.All P := by
  have goesOn : ∀ {k : Nat} {s : Seat σ} {request : Request Finish (Actor σ)}, Acts programs w party k s request →
      request.Leads P := fun acts => leads acts (all.of_acts acts)
  cases step with
  | @done _ k s result acts =>
    obtain ⟨a, idle, seats⟩ := (w.closeEnds k).finish_seats k s.name result
    exact All.congr (((all.modifyInput _ _).modifyInput _ _).setActor k (rest a idle)) seats
  | read acts given => exact (all.modifyInput _ _).setActor _ (goesOn acts _)
  | wrote acts target taken => exact (all.congr rfl).setActor _ (goesOn acts none)
  | refused acts target failed | broken acts target failed => exact all.setActor _ (goesOn acts (some _))
  | passed acts target taken => exact (all.modifyInput _ _).setActor _ (goesOn acts none)
  | passedPart acts target taken more => exact (all.modifyInput _ _).setUnsent _ _
  | called acts => exact (all.congr rfl).setActor _ (goesOn acts _)
  | relayed hk copied => exact all.modifyInput _ _
  | turned running last => exact all
  | awaited waiting past =>
    rcases awaitStage?_seats past with same | ⟨fate, seats, -⟩
    · exact all.congr same
    · exact (all.setActor _ (rest (.ended fate) rfl)).congr seats
  | joined joining past => exact all.congr (awaitRelay?_seats past)

/-- An oblivious program goes on so. -/
theorem Acts.oblivious (acts : Acts programs w party k s request) (pure : programs.Oblivious) (all : w.Oblivious) :
    request.IsOblivious ∧ request.Leads Actor.Oblivious := by
  cases acts with
  | @builtin k s act running next =>
    obtain ⟨seat, actor, -⟩ := nextBuiltin?_eq_some next
    have oblivious : s.actor.Oblivious := all k s.actor (by simp [actor?, seat])
    rw [actor] at oblivious
    obtain ⟨sees, leads⟩ := Act.Oblivious.request oblivious
    refine ⟨sees.map _ _, ?_⟩
    cases act with
    | done => trivial
    | read | write | call => exact leads
  | @process k s state seat actor =>
    refine ⟨(pure.next state).map _ _, ?_⟩
    cases programs.next state with
    | done => trivial
    | read | write | call => exact fun _ => trivial

theorem Oblivious.congr (all : w.Oblivious) (same : w'.seats = w.seats) : w'.Oblivious := All.congr all same

theorem Step.oblivious (step : Step programs w party w') (pure : programs.Oblivious) (all : w.Oblivious) :
    w'.Oblivious := by
  refine step.all (P := Actor.Oblivious) all (fun acts _ => (acts.oblivious pure all).2) fun a idle => ?_
  cases a with
  | builtin => cases idle
  | process | gone | ended => trivial

theorem scene_finish (w : World σ) (k : Nat) (name : Text) (result : Finish) :
    (w.finish k name result).host.scene = w.host.scene := by
  cases result with
  | ending e => rfl
  | reply reply =>
    simp only [finish, finishBuiltin]
    split
    · exact Host.scene_note _ _ _
    · split
      · exact (Host.scene_note _ _ _).trans (Host.scene_note _ _ _)
      · exact Host.scene_note _ _ _

/-- What depends on the scene only is changed by no step, unless the program of a stage changes the host. -/
theorem Step.seen_eq {α : Type} (step : Step programs w party w') (see : Host → α)
    (sees : ∀ h h' : Host, h.scene = h'.scene → see h = see h')
    (calls : ∀ {k : Nat} {s : Seat σ} {change : Host → Host} {next : Host → Actor σ},
      Acts programs w party k s (.call change next) → see (change w.host) = see w.host) :
    see w'.host = see w.host := by
  cases step with
  | done acts => exact sees _ _ (scene_finish _ _ _ _)
  | wrote acts target taken => exact sees _ _ (Host.scene_of_write taken)
  | called acts => exact calls acts
  | read | refused | passed | passedPart | broken | relayed | turned => rfl
  | awaited waiting past =>
    cases pastStage_of_awaitStage? past with
    | noMore | ended => rfl
    | gone | neverRun => exact sees _ _ (Host.scene_note _ _ _)
  | joined joining past =>
    cases pastRelay_of_awaitRelay? past with
    | noMore | unrelayed => rfl
    | finished | stopped => exact sees _ _ (Host.scene_note _ _ _)

/-- No step of a pipeline of oblivious programs changes the scene. -/
theorem Step.scene_eq (step : Step programs w party w') (pure : programs.Oblivious) (all : w.Oblivious) :
    w'.host.scene = w.host.scene :=
  step.seen_eq Host.scene (fun _ _ same => same) fun acts => (acts.oblivious pure all).1.1 _

end World

/-- What is true of all builtins of the shell, and of all stages that are none, is true when the pipeline starts. -/
theorem Runner.all_start {σ : Type} {r : Runner σ} {P : Actor σ → Prop}
    (builtins : ∀ b ∈ r.registry.builtins, ∀ call, P (.builtin (b.run call))) (rest : ∀ a, a.role ≠ .builtin → P a)
    (p : Pipeline) (ctx : Context) (h : Host) : (r.start p ctx h).All P := by
  intro k a actor
  have hk : k < p.stages.length := by
    rw [← (wired r p ctx h).seats.1]
    exact World.lt_of_actor? actor
  obtain ⟨host, seat, at_k, hseat⟩ := exists_at r ctx h (List.getElem?_eq_getElem hk)
  have turn := at_k.turn_eq.2
  simp only [World.actor?, hseat, Option.map_some, Option.some.injEq] at actor
  rw [actor] at turn
  generalize seat.out = out at turn
  generalize seat.err = err at turn
  cases turn with
  | builtin opens found => exact builtins _ (List.mem_of_find?_eq_some found) _
  | errRefused | outRefused | program | notStarted | notFound => exact rest _ (by simp [Actor.role])

end PipeShell
