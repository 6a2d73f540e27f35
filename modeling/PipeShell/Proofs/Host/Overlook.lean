import PipeShell.Proofs.Host.Walk

/-!
# Walks that overlook a file

What does a file that is not there change about where paths lead?  `Tree.without` takes a regular file out of a tree,
under all its names.  Of a path that has led to the file nothing is found any more, and neither is of one that tried
to go on from it; of any other path the same is found (`Tree.node?_walk_without`).  A path overlooks a file if it is
followed alike with it and without it (`Host.Overlooks`).

Files are known by number, so a host without a file may number the others in another way: `Tree.follow_renumber` says
that a walk does not depend on the numbers.
-/

namespace PipeShell

/-- The same node, with the files numbered otherwise. -/
def Node.renumber (f : Nat → Nat) : Node → Node
  | .file number => .file (f number)
  | n => n

/-- The same place, with the files numbered otherwise. -/
def Place.renumber (f : Nat → Nat) : Place → Place
  | .found l n => .found l (n.renumber f)
  | .vacant directory name => .vacant directory name

/-- The node that a walk has found. -/
def Place.node? {ε : Type} : Except ε Place → Option Node
  | .ok (.found _ n) => some n
  | _ => none

theorem Place.node?_map {ε : Type} (f : Nat → Nat) (walked : Except ε Place) :
    Place.node? (walked.map (Place.renumber f)) = (Place.node? walked).map (Node.renumber f) := by
  rcases walked with _ | ⟨_ | _⟩ <;> rfl

namespace Tree

variable {t t' : Tree} {number : Nat}

/-- The tree without a file, under whatever names that stands. -/
def without (t : Tree) (number : Nat) : Tree := ⟨t.entries.filter fun e => t.get e.1 ≠ some (.file number)⟩

theorem get_without (t : Tree) (number : Nat) (l : Location) :
    (t.without number).get l = (t.get l).filter (· ≠ .file number) := by
  by_cases root : l = []
  · subst root
    rfl
  · have kept := lookup_filter (fun key => decide (t.get key ≠ some (.file number))) t.entries l
    have entry : t.get l = t.entries.lookup l := if_neg root
    have entry' : (t.without number).get l = (t.without number).entries.lookup l := if_neg root
    rw [entry', without, kept, ← entry]
    cases t.get l <;> simp [Option.filter]

/-- The step of a walk that goes to a proper name in a directory. -/
theorem follow_name {p : Purpose} {links : Nat} {spot : Location} {name : Text} {rest : List Text}
    (directory : t.isDirectoryAt spot = true) (notIdle : ¬ isIdle name = true) (notUp : ¬ name = ['.', '.'])
    (notLast : ¬ (p = .create ∧ rest = [[]])) (short : ¬ nameLimit < (utf8 name).length) :
    t.follow p links spot (name :: rest) =
      match t.get (spot ++ [name]) with
      | none => if rest = [] then .ok (.vacant spot name) else .error .noEntry
      | some (.link target) =>
        if rest = [] ∧ p = .inspect then .ok (.found (spot ++ [name]) (.link target))
        else
          match links with
          | 0 => .error .tooManyLinks
          | links + 1 => t.follow p links (if isAbsolute target then [] else spot) (components target ++ rest)
      | some _ => t.follow p links (spot ++ [name]) rest := by
  have present : t.get spot ≠ none := by
    intro missing
    simp [isDirectoryAt, missing] at directory
  rw [follow, if_neg present, if_neg (by simpa using directory), if_neg notIdle, if_neg notUp, if_neg notLast]
  refine (if_neg short).trans ?_
  rcases t.get (spot ++ [name]) with _ | _ | _ | _ | target
  case some.link => cases links <;> rfl
  all_goals rfl

/-! ### Numbers -/

theorem isDirectoryAt_renumber {f : Nat → Nat} (same : ∀ l, t'.get l = (t.get l).map (Node.renumber f)) (l : Location) :
    t'.isDirectoryAt l = t.isDirectoryAt l := by
  unfold isDirectoryAt
  rw [same]
  cases t.get l with
  | none => rfl
  | some n => cases n <;> rfl

/-- How the files are numbered does not matter to a walk. -/
theorem follow_renumber {f : Nat → Nat} (same : ∀ l, t'.get l = (t.get l).map (Node.renumber f)) (p : Purpose)
    (links : Nat) (spot : Location) (names : List Text) :
    t'.follow p links spot names = (t.follow p links spot names).map (Place.renumber f) := by
  have directories := isDirectoryAt_renumber same
  have missing : ∀ l, t'.get l = none ↔ t.get l = none := fun l => by simp [same]
  fun_induction follow t p links spot names with
  | case1 _ _ _ node | case2 _ _ node => simp [follow, same, node, Except.map, Place.renumber]
  | case3 _ _ _ _ free => simp [follow, missing, free, Except.map]
  | case4 _ _ _ _ present other => simp [follow, missing, present, directories, other, Except.map]
  | case5 _ _ _ _ present directory idle ih => simp_all [follow]
  | case6 _ _ _ present directory notIdle ih => simp_all [follow]
  | case7 _ _ _ _ present directory notIdle notUp last => simp_all [follow, Except.map]
  | case8 _ _ _ _ present directory notIdle notUp notLast long => simp_all [follow, Except.map]
  | case9 _ _ _ _ directory notIdle notUp short free notLast =>
    rw [follow_name (by simpa [directories] using directory) notIdle notUp notLast short, (missing _).2 free]
    rfl
  | case10 _ _ _ _ _ directory notIdle notUp notLast short free more =>
    rw [follow_name (by simpa [directories] using directory) notIdle notUp notLast short, (missing _).2 free]
    exact if_neg more
  | case11 _ _ _ _ _ directory notIdle notUp notLast short target link asked =>
    rw [follow_name (by simpa [directories] using directory) notIdle notUp notLast short, same, link]
    exact if_pos asked
  | case12 _ _ _ _ directory notIdle notUp notLast short target link through =>
    rw [follow_name (by simpa [directories] using directory) notIdle notUp notLast short, same, link]
    exact if_neg through
  | case13 _ _ _ _ directory notIdle notUp notLast short target link through _ ih =>
    rw [follow_name (by simpa [directories] using directory) notIdle notUp notLast short, same, link]
    exact (if_neg through).trans ih
  | case14 _ _ _ _ _ directory notIdle notUp notLast short n other node ih =>
    rw [follow_name (by simpa [directories] using directory) notIdle notUp notLast short, same, node]
    cases n with
    | link target => exact absurd rfl (other target)
    | directory | file number | device d => exact ih

/-- And neither does it matter to what is looked up on the way. -/
theorem lookups_renumber {f : Nat → Nat} (same : ∀ l, t'.get l = (t.get l).map (Node.renumber f)) (links : Nat)
    (spot : Location) (names : List Text) : t'.lookups links spot names = t.lookups links spot names := by
  fun_induction lookups t links spot names with
  | case1 => rw [lookups]
  | case2 _ _ _ _ idle ih => rw [lookups, if_pos idle, ih]
  | case3 _ _ _ notIdle ih => rw [lookups, if_neg notIdle, if_pos rfl, ih]
  | case4 _ _ _ notIdle notUp _ _ link =>
    rw [lookups, if_neg notIdle, if_neg notUp, same, link]
    rfl
  | case5 _ _ _ notIdle notUp _ _ link _ ih =>
    rw [lookups, if_neg notIdle, if_neg notUp, same, link]
    exact congrArg _ ih
  | case6 _ spot name _ notIdle notUp _ other ih =>
    rw [lookups, if_neg notIdle, if_neg notUp, same]
    rcases node : t.get (spot ++ [name]) with _ | _ | _ | _ | target
    case some.link => exact absurd node (other target)
    all_goals exact congrArg _ ih

/-! ### The file that is taken out -/

theorem get_without_eq_none (number : Nat) {l : Location} (missing : t.get l = none) :
    (t.without number).get l = none := by
  rw [get_without, missing]
  rfl

theorem get_without_of_ne {n : Node} {l : Location} (node : t.get l = some n) (other : n ≠ .file number) :
    (t.without number).get l = some n := by
  rw [get_without, node]
  exact Option.filter_some_pos (by simpa using other)

theorem get_without_self {l : Location} (node : t.get l = some (.file number)) : (t.without number).get l = none := by
  rw [get_without, node]
  exact Option.filter_some_neg (by simp)

theorem get_of_isDirectoryAt {l : Location} (directory : t.isDirectoryAt l = true) : t.get l = some .directory := by
  simpa [isDirectoryAt] using directory

theorem get_without_directory (t : Tree) (number : Nat) {l : Location} (directory : t.isDirectoryAt l = true) :
    (t.without number).get l = some .directory :=
  get_without_of_ne (get_of_isDirectoryAt directory) (by simp)

theorem isDirectoryAt_without (t : Tree) (number : Nat) (l : Location) :
    (t.without number).isDirectoryAt l = t.isDirectoryAt l := by
  unfold isDirectoryAt
  cases node : t.get l with
  | none => rw [get_without_eq_none number node]
  | some n =>
    by_cases own : n = .file number
    · subst own
      rw [get_without_self node]
      rfl
    · rw [get_without_of_ne node own]

/-- Nothing is found behind a file. -/
theorem node?_follow_file {p : Purpose} {links : Nat} {spot : Location} {names : List Text}
    (file : t.get spot = some (.file number)) :
    (Place.node? (t.follow p links spot names)).filter (· ≠ .file number) = none := by
  have other : ¬ t.isDirectoryAt spot = true := by simp [isDirectoryAt, file]
  cases names with
  | nil => simp [follow, file, Place.node?, Option.filter]
  | cons name rest => simp [follow, file, other, Place.node?]

/-- Without a file a walk finds what it has found with it, unless that was the file. -/
theorem node?_without (t : Tree) (number : Nat) (p : Purpose) (links : Nat) (spot : Location) (names : List Text) :
    Place.node? ((t.without number).follow p links spot names) =
      (Place.node? (t.follow p links spot names)).filter (· ≠ .file number) := by
  have directories := t.isDirectoryAt_without number
  fun_induction follow t p links spot names with
  | case1 _ _ n node =>
    by_cases own : n = .file number
    · subst own
      simp [follow, get_without_self node, Place.node?, Option.filter]
    · simp [follow, get_without_of_ne node own, Place.node?, Option.filter, own]
  | case2 _ _ free | case3 _ _ _ _ free => simp [follow, get_without_eq_none number free, Place.node?]
  | case4 _ spot _ _ present other =>
    -- The walk ends here, with the one error or the other.
    by_cases missing : (t.without number).get spot = none <;>
      simp [follow, missing, directories, other, Place.node?]
  | case5 _ spot _ _ _ directory idle ih =>
    have present := t.get_without_directory number (Decidable.of_not_not directory)
    simpa [follow, present, directories, directory, idle] using ih
  | case6 _ spot _ _ directory notIdle ih =>
    have present := t.get_without_directory number (Decidable.of_not_not directory)
    simp_all [follow]
  | case7 _ spot _ _ _ directory notIdle notUp last =>
    have present := t.get_without_directory number (Decidable.of_not_not directory)
    simp_all [follow, Place.node?]
  | case8 _ spot _ _ _ directory notIdle notUp notLast long =>
    have present := t.get_without_directory number (Decidable.of_not_not directory)
    rw [follow, if_neg (by simp [present]), if_neg (by simpa [directories] using directory), if_neg notIdle,
      if_neg notUp, if_neg notLast, if_pos long]
    rfl
  | case9 _ _ _ _ directory notIdle notUp short free notLast =>
    rw [follow_name (by simpa [directories] using directory) notIdle notUp notLast short, get_without_eq_none _ free]
    rfl
  | case10 _ _ _ _ _ directory notIdle notUp notLast short free more =>
    rw [follow_name (by simpa [directories] using directory) notIdle notUp notLast short, get_without_eq_none _ free]
    exact congrArg Place.node? (if_neg more)
  | case11 _ _ _ _ _ directory notIdle notUp notLast short target link asked =>
    rw [follow_name (by simpa [directories] using directory) notIdle notUp notLast short,
      get_without_of_ne link (by simp)]
    simp [asked, Place.node?, Option.filter]
  | case12 _ _ _ _ directory notIdle notUp notLast short target link through =>
    rw [follow_name (by simpa [directories] using directory) notIdle notUp notLast short,
      get_without_of_ne link (by simp)]
    exact congrArg Place.node? (if_neg through)
  | case13 _ _ _ _ directory notIdle notUp notLast short target link through _ ih =>
    rw [follow_name (by simpa [directories] using directory) notIdle notUp notLast short,
      get_without_of_ne link (by simp)]
    exact (congrArg Place.node? (if_neg through)).trans ih
  | case14 _ spot name rest _ directory notIdle notUp notLast short n other node ih =>
    rw [follow_name (by simpa [directories] using directory) notIdle notUp notLast short]
    by_cases own : n = .file number
    · subst own
      rw [get_without_self node, node?_follow_file node]
      by_cases last : rest = [] <;> simp [last, Place.node?]
    · rw [get_without_of_ne node own]
      cases n with
      | link target => exact absurd rfl (other target)
      | directory | file number | device d => exact ih

/-! ### Paths -/

theorem walkFar_renumber {f : Nat → Nat} (same : ∀ l, t'.get l = (t.get l).map (Node.renumber f)) (p : Purpose)
    (here : Location) (path : Text) : t'.walkFar p here path = (t.walkFar p here path).map (Place.renumber f) := by
  unfold walkFar
  split
  · rfl
  · split
    · rfl
    · rw [follow_renumber same]
      cases t.follow p linkLimit (if isAbsolute path then [] else here) (components path) <;> rfl

theorem inReach_renumber {f : Nat → Nat} (same : ∀ l, t'.get l = (t.get l).map (Node.renumber f)) (here : Location)
    (path : Text) : t'.InReach here path ↔ t.InReach here path := by
  rw [InReach, InReach, lookups_renumber same]

theorem walk_renumber {f : Nat → Nat} (same : ∀ l, t'.get l = (t.get l).map (Node.renumber f)) (p : Purpose)
    (here : Location) (path : Text) : t'.walk p here path = (t.walk p here path).map (Place.renumber f) := by
  unfold walk
  split
  · rfl
  · exact walkFar_renumber same p here path

theorem node?_walk_without (t : Tree) (number : Nat) (p : Purpose) (here : Location) (path : Text) :
    Place.node? ((t.without number).walk p here path) =
      (Place.node? (t.walk p here path)).filter (· ≠ .file number) := by
  unfold walk walkFar
  split
  · rfl
  · split
    · rfl
    · split
      · rfl
      · have followed := t.node?_without number p linkLimit (if isAbsolute path then [] else here) (components path)
        generalize (t.without number).follow p linkLimit _ _ = there at followed ⊢
        generalize t.follow p linkLimit _ _ = found at followed ⊢
        rcases there with _ | _ | _ <;> rcases found with _ | _ | _ <;> exact followed

end Tree

namespace Host

variable {h : Host} {number : Nat} {path : Text}

/-- The host without the names of a file. -/
def without (h : Host) (number : Nat) : Host := { h with tree := h.tree.without number }

/-- The path of a file that is to be written leads to the same whether this other file is there or not. -/
def Overlooks (h : Host) (number : Nat) (path : Text) : Prop :=
  (h.without number).walk .create path = h.walk .create path

theorem node?_eq (h : Host) (path : Text) : h.node? path = Place.node? (h.walk .use path) := by
  unfold node?
  rcases h.walk .use path with _ | _ | _ <;> rfl

/-- A path that overlooks a file does not lead to it. -/
theorem Overlooks.ne {l : Location} (overlooks : h.Overlooks number path) :
    h.walk .create path ≠ .ok (.found l (.file number)) := by
  intro found
  have walked : (h.without number).walk .create path = .ok (.found l (.file number)) := overlooks.trans found
  have node : (h.tree.without number).get l = some (.file number) := Tree.shows_of_walk walked
  rw [Tree.get_without, Option.filter_eq_some_iff] at node
  simp at node

end Host

end PipeShell
