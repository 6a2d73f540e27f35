import PipeShell.Proofs.Host.Attempt
import PipeShell.Proofs.Pipeline.Grammar
import PipeShell.Proofs.Run.Transparency

/-!
# What the start of a pipeline does to the files

The start of a pipeline opens the targets of its stages, one after the other, and all else that it does is output
(`Runner.tries_start`).  Which targets these are is settled by the stages alone, but for those that fail
(`Stage.trials`): the standard error comes first, and the standard output only if that has been opened.

The main statement is `Runner.prepares_of_sound`.  Files are made where a target was missing and nowhere else, files
lose their contents where a target is opened for overwriting and nowhere else, and whatever becomes of a stage, its
targets stay open.  No builtin has begun by then, and nothing is opened later, but by a program itself.
-/

namespace PipeShell

/-- A target that is opened, with the host before and after it. -/
structure Trial where
  stream : StdStream
  target : Target
  before : Host
  after : Host
  result : Except StartFailure Destination

namespace Trial

/-- The opening of a target from the directory `cwd`. -/
def of (cwd : Text) (h : Host) (stream : StdStream) (t : Target) : Trial :=
  ⟨stream, t, h, (h.openTarget cwd t).1, (h.openTarget cwd t).2⟩

/-- The place and the number of the file that is made. -/
def made? (cwd : Text) (t : Trial) : Option (Location × Nat) :=
  match t.result, t.before.walk .create (joinPath cwd t.target.path) with
  | .ok (.file _), .ok (.vacant directory name) => some (directory ++ [name], t.before.files.length)
  | _, _ => none

/-- The file that is opened. -/
def file? (t : Trial) : Option Nat :=
  match t.result with
  | .ok (.file handle) => t.after.file? handle
  | _ => none

end Trial

/-- The targets that a stage opens whose turn comes on the host `h`: that of its standard error, and then that of its
standard output, unless the first one fails. -/
def Stage.trials (s : Stage) (cwd : Text) (h : Host) : List Trial :=
  match s.redirections.err with
  | none => (s.redirections.out.map (Trial.of cwd h .out)).toList
  | some t =>
    let first := Trial.of cwd h .err t
    match first.result with
    | .ok _ => first :: (s.redirections.out.map (Trial.of cwd first.after .out)).toList
    | .error _ => [first]

/-- The host `h` is what `g` has become when these targets were opened in a row, with output alone between them. -/
inductive Host.Tries (cwd : Text) : Host → List Trial → Host → Prop
  | done {g h : Host} (outputs : g.Outputs h) : Tries cwd g [] h
  | next {g h : Host} {t : Trial} {trials : List Trial} (outputs : g.Outputs t.before)
      (attempted : t.before.Attempted cwd t.target t.after t.result) (rest : Tries cwd t.after trials h) :
      Tries cwd g (t :: trials) h

/-- The targets that are opened when a pipeline is started, in order. -/
def Runner.trials {σ : Type} (r : Runner σ) (ctx : Context) (h : Host) (input : Join) (stages : List Stage) :
    List Trial :=
  (stages.zip (r.turns ctx h input stages)).flatMap fun (s, host, _) => s.trials ctx.cwd host

namespace Host

variable {g h h' : Host} {cwd : Text} {t : Trial} {trials later : List Trial} {number : Nat}

namespace Attempted

variable (attempted : t.before.Attempted cwd t.target t.after t.result)
include attempted

theorem accessed (sound : t.before.Sound) : ∃ log, t.before.Accessed log t.after ∧
    ∀ path mode handle, .opened path mode handle ∈ log →
      t.result = .ok (.file handle) ∧ mode = t.target.mode ∧ path = joinPath cwd t.target.path := by
  obtain ⟨stream, target, before, after, result⟩ := t
  change before.Attempted cwd target after result at attempted
  cases attempted with
  | discarded =>
    obtain ⟨log, accessed, quiet⟩ := Outputs.note sound .debug (discardNotice (joinPath cwd target.path))
    exact ⟨log, accessed, fun path mode handle mem => (quiet _ mem).elim⟩
  | opened _ _ opened =>
    refine ⟨_, .of_takes (.opened (openForWriting_eq_ok_iff.2 opened)), fun path mode handle mem => ?_⟩
    cases List.mem_singleton.1 mem
    exact ⟨rfl, rfl, rfl⟩
  | refused => exact ⟨[], .start, by simp⟩

/-- A target that is opened loses its contents if it is overwritten, and no other file is changed. -/
theorem contents_eq (sound : t.before.Sound) {handle : Nat} (result : t.result = .ok (.file handle)) (number : Nat) :
    t.after.contents number =
      if t.file? = some number ∧ t.target.mode = .overwrite then [] else t.before.contents number := by
  obtain ⟨stream, target, before, after, result⟩ := t
  subst result
  change before.Attempted cwd target after (.ok (.file handle)) at attempted
  cases attempted with
  | opened _ _ opened => exact opened.contents_eq sound number

theorem eq_of_error {failure : StartFailure} (result : t.result = .error failure) : t.after = t.before := by
  obtain ⟨stream, target, before, after, result⟩ := t
  subst result
  change before.Attempted cwd target after (.error failure) at attempted
  cases attempted
  rfl

/-- A file is made in its place, and all else in the tree stays as it is. -/
theorem get_iff (l : Location) (node : Node) :
    t.after.tree.get l = some node ↔
      t.before.tree.get l = some node ∨ ∃ number, t.made? cwd = some (l, number) ∧ node = .file number := by
  obtain ⟨stream, target, before, after, result⟩ := t
  change before.Attempted cwd target after result at attempted
  cases attempted with
  | discarded =>
    have same := congrArg Host.tree (scene_note before .debug (discardNotice (joinPath cwd target.path)))
    change (before.note .debug (discardNotice (joinPath cwd target.path))).tree = before.tree at same
    simp [Trial.made?, same]
  | refused => simp [Trial.made?]
  | opened _ _ opened =>
    cases opened with
    | emptied there | kept there | device there => simp [Trial.made?, there, setContents]
    | made vacant =>
      rename_i directory name
      have free : before.tree.get (directory ++ [name]) = none := Tree.shows_of_walk vacant
      simp only [Trial.made?, vacant, Tree.get_set _ (List.append_ne_nil_of_right_ne_nil directory (List.cons_ne_nil name []))]
      by_cases own : l = directory ++ [name]
      · subst own
        simp [free, eq_comm]
      · simp [own, Ne.symm own]

end Attempted

namespace Tries

theorem append (first : Tries cwd g trials h) (second : Tries cwd h later h') : Tries cwd g (trials ++ later) h' := by
  induction first with
  | done outputs =>
    cases second with
    | done outputs' => exact .done (outputs.trans outputs')
    | next outputs' attempted rest => exact .next (outputs.trans outputs') attempted rest
  | next outputs attempted _ ih => exact .next outputs attempted (ih second)

/-- One target. -/
theorem of (h : Host) (cwd : Text) (stream : StdStream) (t : Target) :
    Tries cwd h [Trial.of cwd h stream t] (h.openTarget cwd t).1 :=
  .next (.refl h) (attempted_openTarget h cwd t) (.done (.refl _))

variable (tries : Tries cwd g trials h)
include tries

theorem attempted : ∀ t ∈ trials, t.before.Attempted cwd t.target t.after t.result := by
  induction tries with
  | done => simp
  | next _ attempted _ ih =>
    intro t mem
    rcases List.mem_cons.1 mem with rfl | mem
    · exact attempted
    · exact ih t mem

/-- Every target is opened on a host that is sound. -/
theorem sound (sound : g.Sound) : ∀ t ∈ trials, t.before.Sound := by
  induction tries with
  | done => simp
  | @next g h t trials outputs attempted rest ih =>
    have there := outputs.sound sound
    obtain ⟨log, accessed, -⟩ := attempted.accessed there
    intro t' mem
    rcases List.mem_cons.1 mem with rfl | mem
    · exact there
    · exact ih (accessed.sound there) t' mem

/-- All that happens are accesses, and nothing is opened but the targets. -/
theorem accessed (sound : g.Sound) : ∃ log, g.Accessed log h ∧ ∀ path mode handle, .opened path mode handle ∈ log →
    ∃ t ∈ trials, t.result = .ok (.file handle) ∧ t.target.mode = mode ∧ joinPath cwd t.target.path = path := by
  induction tries with
  | done outputs =>
    obtain ⟨log, accessed, quiet⟩ := outputs
    exact ⟨log, accessed, fun path mode handle mem => (quiet _ mem).elim⟩
  | @next g h t trials outputs attempted rest ih =>
    have there := outputs.sound sound
    obtain ⟨log₀, accessed₀, quiet⟩ := outputs
    obtain ⟨log₁, accessed₁, opens⟩ := attempted.accessed there
    obtain ⟨log₂, accessed₂, opens'⟩ := ih (accessed₁.sound there)
    refine ⟨log₀ ++ (log₁ ++ log₂), accessed₀.trans (accessed₁.trans accessed₂), fun path mode handle mem => ?_⟩
    rcases List.mem_append.1 mem with mem | mem
    · exact (quiet _ mem).elim
    rcases List.mem_append.1 mem with mem | mem
    · obtain ⟨result, rfl, rfl⟩ := opens path mode handle mem
      exact ⟨t, List.mem_cons_self, result, rfl, rfl⟩
    · obtain ⟨t', mem, opened⟩ := opens' path mode handle mem
      exact ⟨t', List.mem_cons_of_mem _ mem, opened⟩

/-- The tree has what it had, and the files that have been made. -/
theorem get_iff (l : Location) (node : Node) :
    h.tree.get l = some node ↔
      g.tree.get l = some node ∨ ∃ t ∈ trials, ∃ number, t.made? cwd = some (l, number) ∧ node = .file number := by
  induction tries with
  | done outputs => simp [outputs.tree_eq]
  | @next g h t trials outputs attempted rest ih =>
    rw [ih, attempted.get_iff, outputs.tree_eq, or_assoc]
    simp

/-- Where a target has been opened there is a handle for it. -/
theorem exists_handle (mem : t ∈ trials) {handle : Nat} (opened : t.result = .ok (.file handle)) :
    ∃ d, t.after.handles[handle]? = some d := by
  have attempted := tries.attempted t mem
  rw [opened] at attempted
  generalize t.before = before at attempted
  generalize t.after = after at attempted ⊢
  cases attempted with
  | opened _ _ opened =>
    obtain ⟨new, present, -⟩ := opened.exists_new
    exact ⟨new, present⟩

/-- What is open after a target has been opened is open in the end, and is about the same file. -/
theorem handle_eq (sound : g.Sound) : ∀ t ∈ trials, ∀ (handle : Nat) (d : Description),
    t.after.handles[handle]? = some d → ∃ offset, h.handles[handle]? = some { d with offset } := by
  induction tries with
  | done => simp
  | @next g h t trials outputs attempted rest ih =>
    obtain ⟨log, accessed, -⟩ := attempted.accessed (outputs.sound sound)
    have sound' := accessed.sound (outputs.sound sound)
    intro t' mem handle d present
    rcases List.mem_cons.1 mem with rfl | mem
    · obtain ⟨log', accessed', -⟩ := rest.accessed sound'
      obtain ⟨offset, present', -⟩ := accessed'.handle_eq present
      exact ⟨offset, present'⟩
    · exact ih sound' t' mem handle d present

theorem file?_eq (sound : g.Sound) (mem : t ∈ trials) {handle : Nat} (opened : t.result = .ok (.file handle)) :
    h.file? handle = t.file? := by
  obtain ⟨d, present⟩ := tries.exists_handle mem opened
  obtain ⟨offset, present'⟩ := tries.handle_eq sound t mem handle d present
  simp only [Trial.file?, opened]
  rw [Host.file?_eq present, Host.file?_eq present']

/-- A file is shorter in the end only if it has been opened for overwriting. -/
theorem length_contents_le (sound : g.Sound)
    (spared : ∀ t ∈ trials, t.target.mode = .overwrite → t.file? ≠ some number) :
    (g.contents number).length ≤ (h.contents number).length := by
  obtain ⟨log, accessed, opens⟩ := tries.accessed sound
  refine accessed.length_contents_le sound fun path handle mem => ?_
  obtain ⟨t, mem, opened, overwrites, -⟩ := opens path _ handle mem
  rw [tries.file?_eq sound mem opened]
  exact spared t mem overwrites

/-- A file is changed only if it has been opened, at first or now. -/
theorem contents_eq (sound : g.Sound) (closed : ∀ handle, g.file? handle ≠ some number)
    (spared : ∀ t ∈ trials, t.file? ≠ some number) : h.contents number = g.contents number := by
  obtain ⟨log, accessed, opens⟩ := tries.accessed sound
  refine accessed.contents_eq_of_ne sound fun a mem handle uses => ?_
  rcases accessed.opens_of_lt (accessed.handle_lt mem uses) with there | ⟨path, mode, mem⟩
  · rw [accessed.file?_eq there]
    exact closed handle
  · obtain ⟨t, mem, opened, -, -⟩ := opens path mode handle mem
    rw [tries.file?_eq sound mem opened]
    exact spared t mem

end Tries

end Host

/-- A stage opens the targets that its streams have. -/
theorem Stage.get_of_mem_trials {s : Stage} {cwd : Text} {h : Host} {t : Trial} (mem : t ∈ s.trials cwd h) :
    s.redirections.get t.stream = some t.target := by
  have single : ∀ {g : Host} {stream : StdStream} {target : Option Target},
      t ∈ (target.map (Trial.of cwd g stream)).toList → t.stream = stream ∧ target = some t.target := by
    intro g stream target mem
    cases target with
    | none => cases mem
    | some target =>
      cases List.mem_singleton.1 mem
      exact ⟨rfl, rfl⟩
  have second : ∀ {g : Host}, t ∈ (s.redirections.out.map (Trial.of cwd g .out)).toList →
      s.redirections.get t.stream = some t.target := by
    intro g mem
    obtain ⟨stream, target⟩ := single mem
    rw [stream]
    exact target
  unfold trials at mem
  split at mem
  · exact second mem
  · rename_i target err
    have first : s.redirections.get (Trial.of cwd h .err target).stream = some (Trial.of cwd h .err target).target := err
    dsimp only at mem
    split at mem
    · rcases List.mem_cons.1 mem with rfl | mem
      · exact first
      · exact second mem
    · rwa [List.mem_singleton.1 mem]

/-- The last redirection of a stream counts, and the others are as good as not written. -/
theorem Stage.ofTokens_of_overridden (before between after : List Item) {op op' : Operator} (path path' : Text)
    (same : op.stream = op'.stream) :
    ofTokens ((before ++ .redirect op path :: between ++ .redirect op' path' :: after).flatMap Item.tokens) =
      ofTokens ((before ++ between ++ .redirect op' path' :: after).flatMap Item.tokens) := by
  have gathered : ∀ items : List Item, gather (items.flatMap Item.tokens) = .ok (Item.stage items) := by
    intro items
    have whole := gather_items items []
    rwa [List.append_nil] at whole
  have words : Item.words (before ++ .redirect op path :: between ++ .redirect op' path' :: after) =
      Item.words (before ++ between ++ .redirect op' path' :: after) := by
    simp [Item.words, Item.word?, List.filterMap_cons]
  have targets : ∀ stream, Item.target stream (before ++ .redirect op path :: between ++ .redirect op' path' :: after) =
      Item.target stream (before ++ between ++ .redirect op' path' :: after) := by
    intro stream
    by_cases mine : op'.stream = stream
    · have last : (Item.redirect op' path' :: after).filterMap (Item.target? stream) ≠ [] := by
        simp [Item.target?, mine]
      simp only [Item.target, List.filterMap_append]
      rw [List.getLast?_append_of_ne_nil _ last, List.getLast?_append_of_ne_nil _ last]
    · simp [Item.target, Item.target?, same, mine]
  simp only [ofTokens, gathered, Item.stage, words, targets]

namespace Runner

variable {σ : Type} {r : Runner σ} {ctx : Context} {g h h' : Host} {s : Stage} {isLast : Bool} {input : Join}
  {out : Output} {err : Destination} {stages : List Stage}

theorem outputs_noteAny (sound : h.Sound) (text : Option Text) : h.Outputs (h.noteAny text) := by
  cases text with
  | none => exact .refl h
  | some text => exact .note sound _ _

theorem outputs_giveUp (sound : h.Sound) (holds : h.Holds err) (message name : Text) (fate : Fate) (input : Join) :
    h.Outputs (giveUp (σ := σ) (h.report err message) name fate input).host := by
  obtain ⟨text, noted⟩ := input.exists_intoNothing name
  have reported : h.Outputs (h.report err message) := .report holds message
  simp only [giveUp, noted]
  exact reported.trans (outputs_noteAny (reported.sound sound) text)

/-- All that a stage does to the host when its streams are open is output. -/
theorem outputs_seatStage (sound : h.Sound) (holds : h.Holds err) (input : Join) :
    h.Outputs (r.seatStage h ctx s out err input).host := by
  have noted : ∀ text, h.Outputs (h.note .debug text) := fun text => .note sound _ _
  have failed : ∀ text message fate, h.Outputs
      (giveUp (σ := σ) ((h.note .debug text).report err message) s.name fate input).host := fun text message fate =>
    (noted text).trans (outputs_giveUp ((noted text).sound sound) ((noted text).holds holds) message s.name fate input)
  unfold seatStage
  split
  · obtain ⟨text, kept⟩ := input.exists_intoBuiltin s.name
    simp only [seatBuiltin, kept]
    exact (noted _).trans (outputs_noteAny ((noted _).sound sound) text)
  · split
    · rename_i path _
      unfold seatProgram
      split
      · exact failed _ _ _
      · obtain ⟨text, kept⟩ := input.exists_intoProgram s.name
        simp only [kept]
        have first := noted ("stage ".toList ++ s.name ++ ": spawned ".toList ++ path ++ " as pid ".toList ++
          showNat h.nextProcess)
        exact (first.setNextProcess _).trans (outputs_noteAny ((first.setNextProcess _).sound sound) text)
    · exact failed _ _ _

theorem tries_openAny (h : Host) (cwd : Text) (stream : StdStream) (t : Option Target) :
    Host.Tries cwd h (t.map (Trial.of cwd h stream)).toList (openAny h cwd t).1 := by
  cases t with
  | none => exact .done (.refl h)
  | some t => exact .of h cwd stream t

/-- The standard output is opened on the host that the first opening has left. -/
theorem openBoth_of_openAny {d : Option Destination} (first : openAny h ctx.cwd s.redirections.err = (g, .ok d)) :
    (r.openBoth ctx h s isLast).1 = (openAny g ctx.cwd s.redirections.out).1 := by
  unfold openBoth
  rw [first]
  dsimp only
  rcases openAny g ctx.cwd s.redirections.out with ⟨g', failure | d'⟩ <;> rfl

/-- The streams of a stage are opened by opening its targets. -/
theorem tries_openBoth (r : Runner σ) (ctx : Context) (h : Host) (s : Stage) (isLast : Bool) :
    Host.Tries ctx.cwd h (s.trials ctx.cwd h) (r.openBoth ctx h s isLast).1 := by
  unfold Stage.trials
  cases target : s.redirections.err with
  | none =>
    rw [openBoth_of_openAny (by rw [target]; rfl)]
    exact tries_openAny h ctx.cwd .out _
  | some t =>
    have first := Host.Tries.of h ctx.cwd .err t
    simp only [Trial.of] at first ⊢
    rcases opened : h.openTarget ctx.cwd t with ⟨g, failure | d⟩ <;> rw [opened] at first
    · have refused : r.openBoth ctx h s isLast = (g, .error (r.err, failure)) := by
        simp [openBoth, target, openAny, opened, Except.map]
      rw [refused]
      exact first
    · have open_err : openAny h ctx.cwd s.redirections.err = (g, .ok (some d)) := by
        simp [target, openAny, opened, Except.map]
      rw [openBoth_of_openAny open_err]
      exact first.append (tries_openAny g ctx.cwd .out _)

/-- Where a failure is reported to is there. -/
theorem holds_of_openBoth {g : Host} {failure : StartFailure} (sound : h.Sound) (attached : r.Attached h)
    (refused : r.openBoth ctx h s isLast = (g, .error (err, failure))) : g.Holds err := by
  have grows := grows_openBoth sound r ctx s isLast
  rw [refused] at grows
  cases refuses_of_openBoth refused with
  | errTarget first => exact grows.holds attached.err
  | outTarget first second =>
    obtain ⟨grows₁, holds⟩ := openAny_grows sound ctx.cwd s.redirections.err
    have grows₂ := (openAny_grows grows₁.sound ctx.cwd s.redirections.out).1
    rw [first] at grows₁ holds grows₂
    rw [second] at grows₂
    rename_i d
    cases d with
    | none => exact grows.holds attached.err
    | some d => exact grows₂.holds (holds d rfl)

/-- A stage opens its targets, and all else that its start does is output. -/
theorem tries_startStage (sound : h.Sound) (attached : r.Attached h) (ctx : Context) (s : Stage) (input : Join)
    (isLast : Bool) : Host.Tries ctx.cwd h (s.trials ctx.cwd h) (r.startStage h ctx s input isLast).host := by
  have grows := grows_openBoth sound r ctx s isLast
  rw [← List.append_nil (s.trials ctx.cwd h)]
  refine (tries_openBoth r ctx h s isLast).append (.done ?_)
  rw [startStage_of_openBoth]
  rcases outcome : r.openBoth ctx h s isLast with ⟨h₂, ⟨err, failure⟩ | ⟨out, err⟩⟩ <;> rw [outcome] at grows
  · exact outputs_giveUp grows.sound (holds_of_openBoth sound attached outcome) _ _ _ _
  · exact outputs_seatStage grows.sound ((opens_of_openBoth outcome).holds sound attached).2 input

/-- **The start of a pipeline opens the targets of its stages in a row**, and all else that it does is output. -/
theorem tries_startStages (sound : h.Sound) (attached : r.Attached h) (ctx : Context) (input : Join)
    (stages : List Stage) :
    Host.Tries ctx.cwd h (r.trials ctx h input stages) (r.startStages ctx h input stages).1 := by
  induction stages generalizing h input with
  | nil => exact .done (.refl h)
  | cons s rest ih =>
    have stands := startStage_stands sound attached ctx s input rest.isEmpty
    exact (tries_startStage sound attached ctx s input rest.isEmpty).append
      (ih stands.grows.sound (attached.of_grows stands.grows) _)

/-! ### What is true of the start of a pipeline -/

/-- What is true of the files when the pipeline has been started, and later. -/
structure Prepares (r : Runner σ) (p : Pipeline) (ctx : Context) (h : Host) : Prop where
  /-- Targets are opened in a row, stage by stage, and all else is output. -/
  tries : Host.Tries ctx.cwd h (r.trials ctx h .absent p.stages) (r.start p ctx h).host
  /-- Each of them is the target that its stream has in its stage. -/
  targets : ∀ t ∈ r.trials ctx h .absent p.stages, ∃ s ∈ p.stages, s.redirections.get t.stream = some t.target
  /-- Each of them is discarded, opened or refused on the host as it is then. -/
  attempted : ∀ t ∈ r.trials ctx h .absent p.stages, t.before.Attempted ctx.cwd t.target t.after t.result
  /-- A target that is opened for overwriting is empty then, one that is opened for appending is as it was, and so are
  all other files. -/
  opened : ∀ t ∈ r.trials ctx h .absent p.stages, ∀ handle, t.result = .ok (.file handle) → ∀ number,
    t.after.contents number =
      if t.file? = some number ∧ t.target.mode = .overwrite then [] else t.before.contents number
  /-- A target that cannot be opened leaves the host as it is. -/
  refused : ∀ t ∈ r.trials ctx h .absent p.stages, ∀ failure, t.result = .error failure → t.after = t.before
  /-- The files that are made are those of targets that were missing. -/
  made : ∀ l node, (r.start p ctx h).host.tree.get l = some node ↔ h.tree.get l = some node ∨
    ∃ t ∈ r.trials ctx h .absent p.stages, ∃ number, t.made? ctx.cwd = some (l, number) ∧ node = .file number
  /-- The files that lose anything are those that are opened for overwriting. -/
  emptied : ∀ number, (∀ t ∈ r.trials ctx h .absent p.stages, t.target.mode = .overwrite → t.file? ≠ some number) →
    (h.contents number).length ≤ ((r.start p ctx h).host.contents number).length
  /-- A file that is neither open at first nor opened stays as it is. -/
  unused : ∀ number, (∀ handle, h.file? handle ≠ some number) →
    (∀ t ∈ r.trials ctx h .absent p.stages, t.file? ≠ some number) →
      (r.start p ctx h).host.contents number = h.contents number
  /-- No file loses its number or its permissions. -/
  kept : ∀ (number : Nat) (file : File), h.files[number]? = some file →
    ∃ contents, (r.start p ctx h).host.files[number]? = some { file with contents }
  /-- Whatever becomes of its stage, a target that has been opened stays open. -/
  stays : ∀ t ∈ r.trials ctx h .absent p.stages, ∀ handle, t.result = .ok (.file handle) →
    ∃ d offset, t.after.handles[handle]? = some d ∧ (r.start p ctx h).host.handles[handle]? = some { d with offset }
  /-- No builtin has begun when all stages have been started. -/
  fresh : ∀ k act, (r.start p ctx h).actor? k = some (.builtin act) → ∃ s b, p.stages[k]? = some s ∧
    r.registry.find? s.name = some b ∧ act = b.run ⟨s.argv, ctx, r.registry.names⟩
  /-- Later no files are made and none are opened, but by what the program of a stage does itself. -/
  later : ∀ {w w' : World σ} {party : Party}, World.Reaches r.programs (r.start p ctx h) w →
    w.step? r.programs party = some w' → (∀ k s change next, ¬ World.Acts r.programs w party k s (.call change next)) →
      w'.host.scene = w.host.scene
  /-- A redirection of a stream that a later one replaces is as good as not written. -/
  overridden : ∀ (before between after : List Item) (op op' : Operator) (path path' : Text), op.stream = op'.stream →
    Stage.ofTokens ((before ++ .redirect op path :: between ++ .redirect op' path' :: after).flatMap Item.tokens) =
      Stage.ofTokens ((before ++ between ++ .redirect op' path' :: after).flatMap Item.tokens)

/-- **What the start of a pipeline does to the files.** -/
theorem prepares_of_sound (sound : h.Sound) (attached : r.Attached h) (p : Pipeline) (ctx : Context) :
    r.Prepares p ctx h := by
  have tries : Host.Tries ctx.cwd h (r.trials ctx h .absent p.stages) (r.start p ctx h).host :=
    tries_startStages sound attached ctx .absent p.stages
  constructor
  case tries => exact tries
  case targets =>
    intro t mem
    obtain ⟨⟨s, host, started⟩, turn, mem⟩ := List.mem_flatMap.1 mem
    exact ⟨s, (List.of_mem_zip turn).1, Stage.get_of_mem_trials mem⟩
  case attempted => exact tries.attempted
  case opened =>
    exact fun t mem handle result number => (tries.attempted t mem).contents_eq (tries.sound sound t mem) result number
  case refused => exact fun t mem failure result => (tries.attempted t mem).eq_of_error result
  case made => exact tries.get_iff
  case emptied => exact fun number => tries.length_contents_le sound
  case unused => exact fun number => tries.contents_eq sound
  case kept =>
    intro number file present
    obtain ⟨log, accessed, -⟩ := tries.accessed sound
    exact accessed.exists_file present
  case stays =>
    intro t mem handle opened
    obtain ⟨d, present⟩ := tries.exists_handle mem opened
    obtain ⟨offset, present'⟩ := tries.handle_eq sound t mem handle d present
    exact ⟨d, offset, present, present'⟩
  case fresh =>
    intro k act builtin
    obtain ⟨seat, there, actor⟩ := Option.map_eq_some_iff.1 builtin
    have within : k < p.stages.length := by
      rw [← (wired r p ctx h).seats.1]
      exact (List.getElem?_eq_some_iff.1 there).1
    obtain ⟨host, seat', at_k, there'⟩ := exists_at r ctx h (List.getElem?_eq_getElem within)
    cases there.symm.trans there'
    have turn := at_k.turn_eq.2
    rw [actor] at turn
    cases turn with
    | @builtin _ _ _ b opens found => exact ⟨_, b, List.getElem?_eq_getElem within, found, rfl⟩
  case later =>
    intro w w' party reached step quiet
    exact (World.step?_iff.1 step).seen_eq Host.scene (fun _ _ same => same) fun acts => absurd acts (quiet _ _ _ _)
  case overridden =>
    exact fun before between after op op' path path' => Stage.ofTokens_of_overridden before between after path path'

/-- The file of the first stage is there when both have been started, and still empty. -/
theorem prepares_of_sound_letterKept :
    ({} : Host).Sound ∧ lettered.Attached {} ∧ lettered.Prepares letterKept { cwd := ['/'] } {} ∧
      (lettered.start letterKept { cwd := ['/'] } {}).host.tree.get [['f']] = some (.file 0) := by
  have attached : lettered.Attached {} := ⟨trivial, trivial⟩
  refine ⟨Host.sound_empty, attached, prepares_of_sound Host.sound_empty attached _ _, ?_⟩
  have same := congrArg Host.tree scene_letterKept
  change (lettered.start letterKept { cwd := ['/'] } {}).host.tree = openedHost.tree at same
  rw [same]
  rfl

end Runner

end PipeShell
