import Mathlib.Data.List.TakeWhile
import PipeShell.Proofs.Host.Access

/-!
# What comes of opening a target

The target of a redirection is discarded, opened or refused (`Host.Attempted`).  It is opened only if its path has a
parent that is a directory: a path without parent leads to the root or nowhere, and cannot be opened for writing
(`Host.openForWriting_of_parentPath_eq_none`).  All this is done by accesses (`Host.accessed_openTarget`).
-/

namespace PipeShell

/-! ### Paths without parent -/

section Paths

variable {path : Text}

/-- Where the first name of a path is idle the path has an anchor, or it is empty. -/
theorem eq_nil_of_idle (idle : ∀ name ∈ splitAt '/' path, isIdle name = true) (notRoot : ∀ rest, path ≠ '/' :: rest)
    (notDot : path ≠ ['.']) (notBelow : ∀ rest, path ≠ '.' :: '/' :: rest) : path = [] := by
  cases path with
  | nil => rfl
  | cons c cs =>
    have notSlash : c ≠ '/' := fun slash => notRoot cs (by rw [slash])
    obtain ⟨name, names, later⟩ := List.exists_cons_of_ne_nil (splitAt_ne_nil '/' cs)
    have idleName := idle (c :: name) (by simp [splitAt, notSlash, later])
    obtain ⟨rfl, rfl⟩ : c = '.' ∧ name = [] := by simpa [isIdle] using idleName
    cases cs with
    | nil => exact absurd rfl notDot
    | cons c' cs =>
      by_cases slash : c' = '/'
      · exact absurd (by rw [slash]) (notBelow cs)
      · simp only [splitAt, slash, if_false] at later
        split at later <;> cases later

/-- A path without parent is the empty one or leads to the root. -/
theorem idle_of_parentPath_eq_none (none : parentPath path = none) :
    path = [] ∨ ∃ rest, path = '/' :: rest ∧ ∀ name ∈ splitAt '/' rest, isIdle name = true := by
  have trimmed : (splitAnchor path).1 ≠ ['.'] ∧ ∀ name ∈ splitAt '/' (splitAnchor path).2, isIdle name = true := by
    simp only [parentPath] at none
    split at none
    · rename_i trimmed
      refine ⟨by simpa using none, fun name mem => ?_⟩
      exact List.dropWhile_eq_nil_iff.1 trimmed name (List.mem_reverse.2 mem)
    · cases none
  obtain ⟨anchored, idle⟩ := trimmed
  unfold splitAnchor at anchored idle
  split at idle
  · exact .inr ⟨_, rfl, idle⟩
  · exact absurd rfl anchored
  · exact absurd rfl anchored
  · rename_i notRoot notDot notBelow
    exact .inl (eq_nil_of_idle idle notRoot notDot notBelow)

/-- All names of a path to the root are idle, the one behind a slash at its end too. -/
theorem isIdle_of_mem_components {rest name : Text} (idle : ∀ name ∈ splitAt '/' rest, isIdle name = true)
    (mem : name ∈ components ('/' :: rest)) : isIdle name = true := by
  have between : name ∈ (splitAt '/' ('/' :: rest)).filter (· ≠ []) → isIdle name = true := by
    intro mem
    have mem := (List.mem_filter.1 mem).1
    rw [splitAt, if_pos rfl] at mem
    rcases List.mem_cons.1 mem with rfl | mem
    · rfl
    · exact idle name mem
  unfold components at mem
  dsimp only at mem
  split at mem
  · rcases List.mem_append.1 mem with mem | mem
    · exact between mem
    · rw [List.mem_singleton.1 mem]
      rfl
  · exact between mem

/-- Idle names lead from a directory nowhere else. -/
theorem Tree.follow_append_of_idle {t : Tree} {p : Purpose} {links : Nat} {spot : Location} {dots : List Text}
    (directory : t.isDirectoryAt spot = true) (idle : ∀ name ∈ dots, isIdle name = true) (names : List Text) :
    t.follow p links spot (dots ++ names) = t.follow p links spot names := by
  induction dots with
  | nil => rfl
  | cons name dots ih =>
    have there : t.get spot ≠ none := by
      intro missing
      simp [isDirectoryAt, missing] at directory
    rw [List.cons_append, follow, if_neg there, if_neg (by simp [directory]), if_pos (idle name List.mem_cons_self)]
    exact ih fun other mem => idle other (List.mem_cons_of_mem _ mem)

theorem Tree.follow_of_idle {t : Tree} {p : Purpose} {links : Nat} {spot : Location} {dots : List Text}
    (directory : t.isDirectoryAt spot = true) (idle : ∀ name ∈ dots, isIdle name = true) :
    t.follow p links spot dots = .ok (.found spot .directory) := by
  have stays : t.follow p links spot (dots ++ []) = t.follow p links spot [] :=
    follow_append_of_idle directory idle []
  have node : t.get spot = some .directory := by simpa [isDirectoryAt] using directory
  rw [List.append_nil] at stays
  rw [stays, follow, node]

end Paths

/-! ### Opening a target -/

namespace Host

variable {h h' : Host} {path : Text} {mode : OpenMode}

/-- What comes of opening the target of a redirection. -/
inductive Attempted (h : Host) (cwd : Text) (t : Target) : Host → Except StartFailure Destination → Prop
  /-- There is no directory for the target. -/
  | discarded (misses : h.MissesParent (joinPath cwd t.path)) :
      Attempted h cwd t (h.note .debug (discardNotice (joinPath cwd t.path))) (.ok .nowhere)
  | opened {parent : Text} {h' : Host} {handle : Nat} (parent_eq : parentPath (joinPath cwd t.path) = some parent)
      (present : h.isDirectory parent = true) (opened : h.Opened (joinPath cwd t.path) t.mode h' handle) :
      Attempted h cwd t h' (.ok (.file handle))
  /-- A failure leaves the host as it was. -/
  | refused {fault : Fault} (present : ¬ h.MissesParent (joinPath cwd t.path))
      (refused : h.openForWriting (joinPath cwd t.path) t.mode = .error fault) :
      Attempted h cwd t h (.error (.notOpened (joinPath cwd t.path) fault))

/-- A path without parent leads to the root if it leads anywhere. -/
theorem walk_of_parentPath_eq_none {p : Purpose} {place : Place} (none : parentPath path = none)
    (walked : h.walk p path = .ok place) : place = .found [] .directory := by
  unfold Host.walk Tree.walk at walked
  split at walked
  · cases walked
  · unfold Tree.walkFar at walked
    split at walked
    · cases walked
    · rcases idle_of_parentPath_eq_none none with rfl | ⟨rest, rfl, idle⟩
      · cases walked
      · have absolute : isAbsolute ('/' :: rest) = true := rfl
        have stays : h.tree.follow p linkLimit [] (components ('/' :: rest)) = .ok (.found [] .directory) :=
          Tree.follow_of_idle rfl fun _ => isIdle_of_mem_components idle
        rw [if_neg (List.cons_ne_nil _ _), if_pos absolute, stays] at walked
        cases walked
        rfl

/-- Such a path cannot be opened for writing. -/
theorem openForWriting_of_parentPath_eq_none (none : parentPath path = none) :
    ∃ fault, h.openForWriting path mode = .error fault := by
  rw [openForWriting_eq]
  cases walked : h.walk .create path with
  | error fault => exact ⟨fault, rfl⟩
  | ok place =>
    rw [walk_of_parentPath_eq_none none walked]
    exact ⟨_, rfl⟩

/-- Whatever comes of opening a target is on the list. -/
theorem attempted_openTarget (h : Host) (cwd : Text) (t : Target) :
    h.Attempted cwd t (h.openTarget cwd t).1 (h.openTarget cwd t).2 := by
  by_cases misses : h.MissesParent (joinPath cwd t.path)
  · rw [openTarget_of_missesParent misses t.mode]
    exact .discarded misses
  · have present : (parentPath (joinPath cwd t.path)).filter (¬ h.isDirectory ·) = none := by
      refine Option.filter_eq_none_iff.2 fun parent parent_eq => ?_
      simpa using fun missing => misses ⟨parent, parent_eq, missing⟩
    simp only [openTarget, present]
    cases outcome : h.openForWriting (joinPath cwd t.path) t.mode with
    | error fault => exact .refused misses outcome
    | ok opened =>
      obtain ⟨h', handle⟩ := opened
      cases parent_eq : parentPath (joinPath cwd t.path) with
      | none =>
        have closed : ∃ fault, h.openForWriting (joinPath cwd t.path) t.mode = .error fault :=
          openForWriting_of_parentPath_eq_none parent_eq
        obtain ⟨fault, refused⟩ := closed
        rw [refused] at outcome
        cases outcome
      | some parent =>
        have there : h.isDirectory parent = true := by
          by_contra missing
          exact misses ⟨parent, parent_eq, by simpa using missing⟩
        exact .opened parent_eq there (openForWriting_eq_ok_iff.1 outcome)

/-- The accesses by which the target of a redirection is opened. -/
def attempts (h : Host) (cwd : Text) (t : Target) : List Access :=
  match (h.openTarget cwd t).2 with
  | .ok (.file handle) => [.opened (joinPath cwd t.path) t.mode handle]
  | .ok _ => h.noted .debug (discardNotice (joinPath cwd t.path))
  | .error _ => []

theorem accessed_openTarget (sound : h.Sound) (cwd : Text) (t : Target) :
    h.Accessed (h.attempts cwd t) (h.openTarget cwd t).1 := by
  have attempted := h.attempted_openTarget cwd t
  unfold attempts
  generalize (h.openTarget cwd t).1 = h' at attempted ⊢
  generalize (h.openTarget cwd t).2 = result at attempted ⊢
  cases attempted with
  | discarded => exact accessed_note sound _ _
  | opened _ _ opened => exact .of_takes (.opened (openForWriting_eq_ok_iff.2 opened))
  | refused => exact .start

/-- Opening a target writes nothing through a handle, unless records are printed through it. -/
theorem through_attempts {handle : Nat} (spared : h.logger.target ≠ .file handle) (cwd : Text) (t : Target) :
    (h.attempts cwd t).flatMap (Access.through handle) = [] := by
  unfold attempts
  split
  · rfl
  · exact through_noted_of_ne spared _ _
  · rfl

end Host

end PipeShell
