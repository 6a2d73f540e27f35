import PipeShell.Proofs.Host.Canonical
import PipeShell.Proofs.Host.Parent
import PipeShell.Proofs.Run.Preparation

/-!
# Targets that the system cannot find

The system refuses to open a target with "no such file or directory" if a directory on the way is missing.  Does output
for such a target always go nowhere?  It does unless the path goes astray behind its parent, which is a directory then
(`Host.GoesAstray`): the last name is a link that leads nowhere, or nothing is there and a dot is behind the name.
These paths, and the empty one, are refused with the fault of the system (`Host.forgives_of_rooted`).
-/

namespace PipeShell

namespace Tree

variable {t : Tree} {p : Purpose} {links : Nat} {l : Location} {name : Text} {trail : List Text} {n : Node}

/-- From what is no directory, there is no way on. -/
theorem follow_of_not_isDirectoryAt (node : t.get l = some n) (other : t.isDirectoryAt l ≠ true) (some_name : trail ≠ []) :
    t.follow p links l trail = .error .notDirectory := by
  cases trail with
  | nil => exact absurd rfl some_name
  | cons name rest => rw [follow, if_neg (by simp [node]), if_pos other]

/-- Where the last name of a path is not to be found, though its directory is. -/
theorem missing_or_link_of_follow (straight : t.IsStraight l) (directory : t.isDirectoryAt l = true)
    (proper : isIdle name = false) (idle : ∀ other ∈ trail, isIdle other = true)
    (noEntry : t.follow .create links l (name :: trail) = .error .noEntry) :
    (t.get (l ++ [name]) = none ∧ trail ≠ []) ∨ ∃ target, t.get (l ++ [name]) = some (.link target) := by
  have present : t.get l ≠ none := by simp [get_of_isDirectoryAt directory]
  have notIdle : ¬ isIdle name = true := by simp [proper]
  by_cases up : name = ['.', '.']
  · -- The directory above is there, and a directory.
    rw [follow, if_neg present, if_neg (by simp [directory]), if_neg notIdle, if_pos up,
      follow_of_idle straight.dropLast.2 idle] at noEntry
    cases noEntry
  · by_cases last : trail = [[]]
    · rw [follow, if_neg present, if_neg (by simp [directory]), if_neg notIdle, if_neg up, if_pos ⟨rfl, last⟩] at noEntry
      cases noEntry
    · by_cases long : nameLimit < (utf8 name).length
      · rw [follow, if_neg present, if_neg (by simp [directory]), if_neg notIdle, if_neg up,
          if_neg (fun both => last both.2)] at noEntry
        cases (if_pos long).symm.trans noEntry
      · rw [follow_name directory notIdle up (fun both => last both.2) long] at noEntry
        rcases node : t.get (l ++ [name]) with _ | _ | number | device | target <;> rw [node] at noEntry
        case none =>
          refine .inl ⟨rfl, ?_⟩
          rintro rfl
          cases noEntry
        case some.link => exact .inr ⟨target, rfl⟩
        case some.directory =>
          have below : t.isDirectoryAt (l ++ [name]) = true := by simp [isDirectoryAt, node]
          rw [show t.follow .create links (l ++ [name]) trail = _ from follow_of_idle below idle] at noEntry
          cases noEntry
        -- A file and a device are found, unless something is behind them.
        all_goals
          by_cases none : trail = []
          · subst none
            simp [follow, node] at noEntry
          · have other : t.isDirectoryAt (l ++ [name]) ≠ true := by simp [isDirectoryAt, node]
            cases (follow_of_not_isDirectoryAt node other none).symm.trans noEntry

end Tree

namespace Host

variable {h : Host} {path cwd : Text} {t : Target} {mode : OpenMode}

/-- The last name of a path, the directory that the parent of the path leads to, and what is behind the name. -/
structure LastName (h : Host) (path : Text) (l : Location) (name : Text) (trail : List Text) : Prop where
  parent : ∃ parent, parentPath path = some parent ∧ h.walk .use parent = .ok (.found l .directory)
  names : ∃ before, components path = before ++ name :: trail
  proper : isIdle name = false
  idle : ∀ other ∈ trail, isIdle other = true

/-- The path leads nowhere, though its parent may be a directory. -/
inductive GoesAstray (h : Host) (path : Text) : Prop
  | empty (empty : path = [])
  /-- The last name is a link. -/
  | link {l : Location} {name target : Text} {trail : List Text} (last : h.LastName path l name trail)
      (link : h.tree.get (l ++ [name]) = some (.link target))
  /-- Nothing has the last name, and something idle is behind it. -/
  | behind {l : Location} {name : Text} {trail : List Text} (last : h.LastName path l name trail)
      (missing : h.tree.get (l ++ [name]) = none) (more : trail ≠ [])

/-- Opening finds nothing where the walk along the path does. -/
theorem walk_of_openForWriting (refused : h.openForWriting path mode = .error (.os .noEntry)) :
    h.walk .create path = .error (.os .noEntry) := by
  rw [openForWriting_eq] at refused
  rcases walked : h.walk .create path with fault | ⟨l, _ | number | device | target⟩ | ⟨directory, name⟩ <;>
    rw [walked] at refused
  case error =>
    cases refused
    rfl
  case ok.found.file => cases mode <;> cases refused
  all_goals cases refused

theorem follow_of_walk (walked : h.walk .create path = .error (.os .noEntry)) (some_path : path ≠ []) :
    h.tree.follow .create linkLimit (if isAbsolute path then [] else h.here) (components path) = .error .noEntry := by
  unfold walk Tree.walk Tree.walkFar at walked
  split at walked
  · cases walked
  · split at walked
    · cases walked
    · generalize h.tree.follow .create linkLimit _ _ = followed at walked ⊢
      cases followed <;> cases walked
      rfl

/-- A path that leads nowhere misses its parent, or goes astray behind it. -/
theorem missesParent_or_goesAstray (rooted : h.Rooted)
    (refused : h.openForWriting path mode = .error (.os .noEntry)) : h.MissesParent path ∨ h.GoesAstray path := by
  by_cases empty : path = []
  · exact .inr (.empty empty)
  · have followed := follow_of_walk (walk_of_openForWriting refused) empty
    cases parent_eq : parentPath path with
    | none =>
      -- Such a path leads to the root.
      obtain ⟨rest, rfl, idle⟩ := (idle_of_parentPath_eq_none parent_eq).resolve_left empty
      have absolute : isAbsolute ('/' :: rest) = true := rfl
      have root : h.tree.isDirectoryAt [] = true := rfl
      rw [if_pos absolute, Tree.follow_of_idle root fun _ => isIdle_of_mem_components idle] at followed
      cases followed
    | some parent =>
      cases present : h.isDirectory parent with
      | false => exact .inl ⟨parent, parent_eq, present⟩
      | true =>
        obtain ⟨short, l, leads⟩ := isDirectory_iff.1 present
        obtain ⟨before, name, trail, links, names, proper, idle, goes_on⟩ := Tree.follow_of_parentPath parent_eq leads
        rw [goes_on] at followed
        have last : h.LastName path l name trail :=
          ⟨⟨parent, parent_eq, Tree.walk_eq_ok_iff.2 ⟨short, leads⟩⟩, ⟨before, names⟩, proper, idle⟩
        cases Tree.leads_of_walkFar rooted leads with
        | found straight node =>
          have directory : h.tree.isDirectoryAt l = true := by simp [Tree.isDirectoryAt, node]
          rcases Tree.missing_or_link_of_follow straight directory proper idle followed with ⟨missing, more⟩ | ⟨_, link⟩
          · exact .inr (.behind last missing more)
          · exact .inr (.link last link)

/-- What goes astray does not miss its parent. -/
theorem GoesAstray.not_missesParent (astray : h.GoesAstray path) : ¬ h.MissesParent path := by
  rintro ⟨parent, parent_eq, missing⟩
  have there : ∀ {l : Location} {name : Text} {trail : List Text}, ¬ h.LastName path l name trail := by
    rintro l name trail ⟨⟨parent', parent_eq', leads⟩, -⟩
    cases parent_eq.symm.trans parent_eq'
    simp [isDirectory, node?, leads] at missing
  cases astray with
  | empty empty => simp [empty, parentPath, splitAnchor, splitAt, isIdle] at parent_eq
  | link last | behind last => exact there last

/-- The text of a record in a file leaves the other files as they are. -/
theorem contents_write {d : Destination} {data : Bytes} {h' : Host} {number : Nat} (taken : h.write d data = .ok h')
    (other : ∀ handle, d = .file handle → h.file? handle ≠ some number) : h'.contents number = h.contents number := by
  cases wrote_of_write taken with
  | elsewhere files => rw [contents, contents, files]
  | @file handle own description present backing =>
    have differs : own ≠ number := by
      rintro rfl
      refine other handle rfl ?_
      rw [file?_eq present, backing]
      rfl
    simp [contents, setContents, List.getD_eq_getElem?_getD, differs]

/-- The discarding of output changes at most the file to which records are printed. -/
theorem contents_note {number : Nat} (other : ∀ handle, h.printed = .file handle → h.file? handle ≠ some number)
    (text : Text) : (h.note .debug text).contents number = h.contents number := by
  unfold note tryWrite
  dsimp only
  split
  · rename_i passes
    have printed : h.printed = h.logger.target := if_pos passes
    split
    · rename_i h' written
      have kept : h'.contents number = contents { h with journal := h.journal ++ [⟨.debug, text⟩] } number :=
        contents_write written fun handle target => other handle (printed.trans target)
      exact kept
    · rfl
  · rfl

/-- A target that cannot be opened is refused by the system. -/
theorem refused_of_openTarget {failure : StartFailure} (refused : (h.openTarget cwd t).2 = .error failure) :
    (h.openTarget cwd t).1 = h ∧ ¬ h.MissesParent (joinPath cwd t.path) ∧
      ∃ fault, failure = .notOpened (joinPath cwd t.path) fault ∧
        h.openForWriting (joinPath cwd t.path) t.mode = .error fault := by
  have attempted := h.attempted_openTarget cwd t
  rw [refused] at attempted
  generalize (h.openTarget cwd t).1 = h' at attempted ⊢
  cases attempted with
  | refused present fails => exact ⟨rfl, present, _, rfl, fails⟩

/-- A target that the system refuses is refused here, unless there is no directory for it. -/
theorem openTarget_of_refused {fault : Fault} (present : ¬ h.MissesParent (joinPath cwd t.path))
    (refused : h.openForWriting (joinPath cwd t.path) t.mode = .error fault) :
    h.openTarget cwd t = (h, .error (.notOpened (joinPath cwd t.path) fault)) := by
  have attempted := h.attempted_openTarget cwd t
  generalize h.openTarget cwd t = outcome at attempted
  obtain ⟨h', result⟩ := outcome
  cases attempted with
  | discarded misses => exact absurd misses present
  | opened _ _ opened => cases (openForWriting_eq_ok_iff.2 opened).symm.trans refused
  | refused _ refused' =>
    cases refused.symm.trans refused'
    rfl

end Host

/-! ### The targets of a stage -/

/-- A stage opens one target on the host that it finds, and the other one after that of its standard error. -/
theorem Stage.eq_of_mem_trials {s : Stage} {cwd : Text} {h : Host} {t : Trial} (mem : t ∈ s.trials cwd h) :
    ∃ g stream target, (g = h ∨ g = (Runner.openAny h cwd s.redirections.err).1) ∧ t = Trial.of cwd g stream target := by
  have single : ∀ {g : Host} {target : Option Target},
      t ∈ (target.map (Trial.of cwd g .out)).toList → ∃ target, t = Trial.of cwd g .out target := by
    intro g target mem
    cases target with
    | none => cases mem
    | some target => exact ⟨target, List.mem_singleton.1 mem⟩
  unfold trials at mem
  split at mem
  · obtain ⟨target, own⟩ := single mem
    exact ⟨_, _, target, .inl rfl, own⟩
  · rename_i first err
    dsimp only at mem
    split at mem
    · rcases List.mem_cons.1 mem with rfl | mem
      · exact ⟨_, _, first, .inl rfl, rfl⟩
      · obtain ⟨target, own⟩ := single mem
        exact ⟨_, _, target, .inr (by rw [err]; rfl), own⟩
    · exact ⟨_, _, first, .inl rfl, List.mem_singleton.1 mem⟩

namespace Runner

variable {σ : Type} {r : Runner σ} {ctx : Context} {h : Host} {s : Stage} {isLast : Bool}

theorem openTarget_of_openAny {h₁ : Host} {cwd : Text} {target : Option Target} {failure : StartFailure}
    (refused : openAny h cwd target = (h₁, .error failure)) :
    ∃ t, target = some t ∧ (h.openTarget cwd t).2 = .error failure := by
  cases target with
  | none => cases refused
  | some t =>
    have result := congrArg Prod.snd refused
    cases opened : (h.openTarget cwd t).2 with
    | ok d => simp [openAny, opened, Except.map] at result
    | error failure' =>
      obtain rfl : failure' = failure := by simpa [openAny, opened, Except.map] using result
      exact ⟨t, rfl, opened⟩

/-- A stage whose targets do not fail has both its streams open. -/
theorem exists_openBoth_of_trials (open_ : ∀ t ∈ s.trials ctx.cwd h, ∀ failure, t.result ≠ .error failure) :
    ∃ h₁ out err, r.openBoth ctx h s isLast = (h₁, .ok (out, err)) := by
  rcases outcome : r.openBoth ctx h s isLast with ⟨h₁, ⟨err, failure⟩ | ⟨out, err⟩⟩
  · exfalso
    cases refuses_of_openBoth outcome with
    | errTarget first =>
      obtain ⟨t, err, refused⟩ := openTarget_of_openAny first
      refine open_ (Trial.of ctx.cwd h .err t) ?_ failure refused
      simp [Stage.trials, err, Trial.of, refused]
    | outTarget first second =>
      obtain ⟨t, out, refused⟩ := openTarget_of_openAny second
      refine open_ (Trial.of ctx.cwd _ .out t) ?_ failure refused
      cases err : s.redirections.err with
      | none =>
        rw [err] at first
        cases first
        simp [Stage.trials, err, out]
      | some t' =>
        rw [err] at first
        obtain rfl := congrArg Prod.fst first
        have opened := congrArg Prod.snd first
        cases result : (h.openTarget ctx.cwd t').2 with
        | error failure => simp [openAny, result, Except.map] at opened
        | ok d => simp [Stage.trials, err, out, Trial.of, result, openAny]
  · exact ⟨h₁, out, err, rfl⟩

end Runner

/-! ### What becomes of targets -/

namespace Host

/-- What becomes of targets that the system cannot find. -/
structure Forgives (h : Host) : Prop where
  /-- Output is discarded, unless the path goes astray. -/
  discards : ∀ (cwd : Text) (t : Target), h.openForWriting (joinPath cwd t.path) t.mode = .error (.os .noEntry) →
    ¬ h.GoesAstray (joinPath cwd t.path) →
      h.openTarget cwd t = (h.note .debug (discardNotice (joinPath cwd t.path)), .ok .nowhere)
  /-- Nothing but a record is left where output is discarded. -/
  unchanged : ∀ (cwd : Text) (t : Target), (h.openTarget cwd t).2 = .ok .nowhere →
    (h.openTarget cwd t).1.tree = h.tree ∧ ∀ number, (∀ handle, h.printed = .file handle → h.file? handle ≠ some number) →
      (h.openTarget cwd t).1.contents number = h.contents number
  /-- A path that goes astray is refused. -/
  surfaces : ∀ (cwd : Text) (t : Target), h.openForWriting (joinPath cwd t.path) t.mode = .error (.os .noEntry) →
    h.GoesAstray (joinPath cwd t.path) →
      h.openTarget cwd t = (h, .error (.notOpened (joinPath cwd t.path) (.os .noEntry)))
  /-- A failure is one of the system's, which is of another kind unless the path goes astray, and leaves the host as it
  was. -/
  refused : ∀ (cwd : Text) (t : Target) failure, (h.openTarget cwd t).2 = .error failure →
    (h.openTarget cwd t).1 = h ∧ ∃ fault, failure = .notOpened (joinPath cwd t.path) fault ∧
      h.openForWriting (joinPath cwd t.path) t.mode = .error fault ∧
        (fault = .os .noEntry → h.GoesAstray (joinPath cwd t.path))
  /-- A stage runs if each of its targets is opened or found missing by the system, and does not go astray. -/
  runs : ∀ {σ : Type} (r : Runner σ) (ctx : Context) (s : Stage) (input : Join) (isLast : Bool),
    (∀ trial ∈ s.trials ctx.cwd h, ∀ fault,
      trial.before.openForWriting (joinPath ctx.cwd trial.target.path) trial.target.mode = .error fault →
        fault = .os .noEntry ∧ ¬ trial.before.GoesAstray (joinPath ctx.cwd trial.target.path)) →
      ∃ h₁ out err, r.Opens ctx h s isLast h₁ out err ∧
        r.startStage h ctx s input isLast = r.seatStage h₁ ctx s out err input

variable {h : Host} {cwd : Text} {t : Target} {failure : StartFailure}

/-- A failure is not for want of the file, unless the path goes astray. -/
theorem goesAstray_of_openTarget (rooted : h.Rooted) (refused : (h.openTarget cwd t).2 = .error failure) :
    (h.openTarget cwd t).1 = h ∧ ∃ fault, failure = .notOpened (joinPath cwd t.path) fault ∧
      h.openForWriting (joinPath cwd t.path) t.mode = .error fault ∧
        (fault = .os .noEntry → h.GoesAstray (joinPath cwd t.path)) := by
  obtain ⟨same, present, fault, rfl, fails⟩ := refused_of_openTarget refused
  refine ⟨same, fault, rfl, fails, ?_⟩
  rintro rfl
  exact (missesParent_or_goesAstray rooted fails).resolve_left present

/-- **Output for a target that the system cannot find goes nowhere**, unless its path goes astray. -/
theorem forgives_of_rooted (rooted : h.Rooted) : h.Forgives where
  discards cwd t refused straight :=
    openTarget_of_missesParent ((missesParent_or_goesAstray rooted refused).resolve_right straight) t.mode
  unchanged cwd t nowhere := by
    have attempted := h.attempted_openTarget cwd t
    rw [nowhere] at attempted
    generalize (h.openTarget cwd t).1 = h' at attempted ⊢
    cases attempted with
    | discarded =>
      have tree := congrArg Host.tree (scene_note h .debug (discardNotice (joinPath cwd t.path)))
      exact ⟨tree, fun number other => contents_note other _⟩
  surfaces cwd t refused astray := openTarget_of_refused astray.not_missesParent refused
  refused cwd t failure refused := goesAstray_of_openTarget rooted refused
  runs r ctx s input isLast opens := by
    have result : ∀ trial ∈ s.trials ctx.cwd h, ∀ failure, trial.result ≠ .error failure := by
      intro trial mem failure result
      obtain ⟨g, stream, target, before, rfl⟩ := Stage.eq_of_mem_trials mem
      have rooted : g.Rooted := by
        rcases before with rfl | rfl
        · exact rooted
        · exact (Runner.sameDirectories_openAny rooted ctx.cwd s.redirections.err).rooted rooted
      obtain ⟨-, fault, -, fails, astray⟩ := goesAstray_of_openTarget rooted result
      obtain ⟨noEntry, straight⟩ := opens _ mem fault fails
      exact straight (astray noEntry)
    obtain ⟨h₁, out, err, opened⟩ : ∃ h₁ out err, r.openBoth ctx h s isLast = (h₁, .ok (out, err)) :=
      Runner.exists_openBoth_of_trials result
    refine ⟨h₁, out, err, Runner.opens_of_openBoth opened, ?_⟩
    rw [Runner.startStage_of_openBoth, opened]

/-! ### A link that leads nowhere -/

/-- A host with a link to `n/f`, which is not there. -/
def dangling : Host := { tree := ⟨[([['l']], .link ['n', '/', 'f'])]⟩ }

/-- Nothing is called `n`, so that there is no way over it. -/
theorem follow_n {t : Tree} {p : Purpose} {links : Nat} {name : Text} (free : t.get [['n']] = none) (more : name ≠ []) :
    t.follow p links [] [['n'], name] = .error .noEntry := by
  have root : t.isDirectoryAt [] = true := rfl
  rw [Tree.follow_name root (by decide) (by decide) (by simp [more]) (by decide), List.nil_append, free]
  exact if_neg (by simp)

theorem walk_of_follow {p : Purpose} {path : Text} {e : Errno} (absolute : isAbsolute path = true)
    (short : (utf8 path).length < pathLimit) (noNull : path.contains (Char.ofNat 0) = false)
    (followed : h.tree.follow p linkLimit [] (components path) = .error e) : h.walk p path = .error (.os e) := by
  have some_path : path ≠ [] := by
    rintro rfl
    cases absolute
  unfold walk Tree.walk Tree.walkFar
  rw [if_neg fun long => Nat.not_le.2 short long.1, if_neg (by rw [noNull]; decide), if_neg some_path, if_pos absolute,
    followed]

/-- Where the link leads output is discarded, and under the link itself it is refused. -/
theorem forgives_of_rooted_dangling :
    dangling.Rooted ∧ dangling.Forgives ∧
      (dangling.openTarget ['/'] ⟨['n', '/', 'f'], .overwrite⟩).2 = .ok .nowhere ∧
      dangling.openTarget ['/'] ⟨['l'], .overwrite⟩ = (dangling, .error (.notOpened ['/', 'l'] (.os .noEntry))) := by
  have rooted : dangling.Rooted := fun _ => dangling.tree.isStraight_nil
  have root : dangling.tree.isDirectoryAt [] = true := rfl
  have refused : dangling.openForWriting ['/', 'n', '/', 'f'] .overwrite = .error (.os .noEntry) := by
    have walked : dangling.walk .create ['/', 'n', '/', 'f'] = .error (.os .noEntry) :=
      walk_of_follow rfl (by decide) (by decide) (follow_n rfl (by decide))
    rw [openForWriting_eq, walked]
    rfl
  have refused' : dangling.openForWriting ['/', 'l'] .overwrite = .error (.os .noEntry) := by
    have walked : dangling.walk .create ['/', 'l'] = .error (.os .noEntry) := by
      refine walk_of_follow rfl (by decide) (by decide) ?_
      have names : components ['/', 'l'] = [['l']] := by decide
      rw [names, Tree.follow_name root (by decide) (by decide) (by simp) (by decide)]
      exact follow_n rfl (by decide)
    rw [openForWriting_eq, walked]
    rfl
  have misses : dangling.MissesParent ['/', 'n', '/', 'f'] := by
    have nothing : dangling.walk .use ['/', 'n'] = .ok (.vacant [] ['n']) := walk_letter .use (.inr rfl) rfl
    exact ⟨['/', 'n'], by decide, by simp [isDirectory, node?, nothing]⟩
  have last : dangling.LastName ['/', 'l'] [] ['l'] [] := by
    have slash : dangling.tree.walkFar .use dangling.here ['/'] = .ok (.found [] .directory) :=
      Tree.walkFar_path dangling.tree.isStraight_nil rfl (Tree.noLink_of_isDirectoryAt rfl) (by decide) _ _
    exact ⟨⟨['/'], by decide, Tree.walk_eq_ok_iff.2 ⟨by decide, slash⟩⟩, ⟨[], by decide⟩, rfl, by simp⟩
  have forgives := forgives_of_rooted rooted
  refine ⟨rooted, forgives, ?_, forgives.surfaces ['/'] ⟨['l'], .overwrite⟩ refused' (.link last rfl)⟩
  rw [forgives.discards ['/'] ⟨['n', '/', 'f'], .overwrite⟩ refused fun astray => astray.not_missesParent misses]

/-- Output for a target that is not found does not always go nowhere: here a dot is behind the missing name. -/
theorem not_forall_nowhere :
    ¬ ∀ (h : Host) (cwd : Text) (t : Target), h.openForWriting (joinPath cwd t.path) t.mode = .error (.os .noEntry) →
      (h.openTarget cwd t).2 = .ok .nowhere := by
  intro always
  have refused : Host.openForWriting {} ['/', 'n', '/', '.'] .overwrite = .error (.os .noEntry) := by
    have walked : Host.walk {} .create ['/', 'n', '/', '.'] = .error (.os .noEntry) :=
      walk_of_follow rfl (by decide) (by decide) (follow_n rfl (by decide))
    rw [openForWriting_eq, walked]
    rfl
  have path : joinPath ['/'] ['n', '/', '.'] = ['/', 'n', '/', '.'] := by decide
  have parent : parentPath ['/', 'n', '/', '.'] = some ['/'] := by decide
  have surfaces : (Host.openTarget {} ['/'] ⟨['n', '/', '.'], .overwrite⟩).2 =
      .error (.notOpened ['/', 'n', '/', '.'] (.os .noEntry)) := by
    simp [openTarget, path, parent, isDirectory_root, Option.filter, refused]
  have nowhere := always {} ['/'] ⟨['n', '/', '.'], .overwrite⟩ (by rw [path]; exact refused)
  cases surfaces.symm.trans nowhere

end Host

end PipeShell
