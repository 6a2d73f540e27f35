import PipeShell.Proofs.Host.Walk
import PipeShell.Proofs.Run.Refusal
import PipeShell.Proofs.Run.Scene

/-!
# Canonical directories

A path names a directory canonically if it leads there from the root over directories alone; then it is its own
canonical form (`Host.isCanonicalDirectory_iff`).  The canonical form of any path to a directory is such a path
(`Host.isCanonicalDirectory_of_canonical?`).  Opening the targets of redirections may make files, but it leaves all
directories as they are (`Runner.sameDirectories_openBoth`).
-/

namespace PipeShell

namespace Host

variable {h h' h'' : Host} {path directory : Text}

/-- The directory that relative paths start from is reached over directories, as long as it is there. -/
def Rooted (h : Host) : Prop := h.tree.isDirectoryAt h.here = true → h.tree.IsStraight h.here

/-- The path of a directory that is reached over directories, not over links, and can be followed at once. -/
structure IsCanonicalDirectory (h : Host) (path : Text) : Prop where
  location : ∃ l, path = Location.path l ∧ h.tree.IsStraight l ∧ h.tree.isDirectoryAt l = true
  noNull : path.contains (Char.ofNat 0) = false
  short : (utf8 path).length < pathLimit

theorem isCanonicalDirectory_root (h : Host) : h.IsCanonicalDirectory ['/'] :=
  ⟨⟨[], rfl, h.tree.isStraight_nil, rfl⟩, by decide, by decide⟩

theorem canonical?_eq_some_iff :
    h.canonical? path = some directory ↔ h.tree.InReach h.here path ∧
      ∃ l n, h.tree.walkFar .use h.here path = .ok (.found l n) ∧ directory = Location.path l := by
  unfold canonical?
  split
  · rename_i l n walked
    simp only [walked, Option.ite_none_right_eq_some, Option.some.injEq, Except.ok.injEq, Place.found.injEq]
    exact and_congr_right fun _ =>
      ⟨fun same => ⟨l, n, ⟨rfl, rfl⟩, same.symm⟩, fun ⟨_, _, ⟨rfl, rfl⟩, same⟩ => same.symm⟩
  · rename_i other
    exact iff_of_false (by simp) fun ⟨_, l, n, walked, _⟩ => other l n walked

theorem isDirectory_iff :
    h.isDirectory path = true ↔
      (utf8 path).length < pathLimit ∧ ∃ l, h.tree.walkFar .use h.here path = .ok (.found l .directory) := by
  have node : h.isDirectory path = true ↔ ∃ l, h.walk .use path = .ok (.found l .directory) := by
    unfold isDirectory node?
    split
    · rename_i l n walked
      simp only [walked, Except.ok.injEq, Place.found.injEq, beq_iff_eq, Option.some.injEq]
      exact ⟨fun same => ⟨l, rfl, same⟩, fun ⟨_, _, same⟩ => same⟩
    · rename_i other
      exact iff_of_false (by simp) fun ⟨l, walked⟩ => other l _ walked
  simp only [node, walk, Tree.walk_eq_ok_iff, exists_and_left]

/-- A path that can be followed holds no null character. -/
theorem noNull_of_walkFar {t : Tree} {p : Purpose} {here : Location} {place : Place}
    (walked : t.walkFar p here path = .ok place) : path.contains (Char.ofNat 0) = false := by
  unfold Tree.walkFar at walked
  split at walked
  · cases walked
  · rename_i noNull
    simpa using noNull

theorem IsCanonicalDirectory.isAbsolute (canonical : h.IsCanonicalDirectory path) : isAbsolute path = true := by
  obtain ⟨l, rfl, -⟩ := canonical.location
  rfl

/-- The canonical form of a path to a directory is canonical. -/
theorem isCanonicalDirectory_of_canonical? (rooted : h.Rooted) (canonical : h.canonical? path = some directory)
    (isDirectory : h.isDirectory directory = true) : h.IsCanonicalDirectory directory := by
  obtain ⟨-, l, n, walked, rfl⟩ := canonical?_eq_some_iff.1 canonical
  obtain ⟨short, l', walked'⟩ := isDirectory_iff.1 isDirectory
  have noNull := noNull_of_walkFar walked'
  cases Tree.leads_of_walkFar rooted walked with
  | found straight node through =>
    rcases through with asked | noLink
    · cases asked
    · rw [Tree.walkFar_path straight node noLink noNull] at walked'
      cases walked'
      exact ⟨⟨l, rfl, straight, by simp [Tree.isDirectoryAt, node]⟩, noNull, short⟩

/-- A path names a directory canonically if it is a directory and its own canonical form. -/
theorem isCanonicalDirectory_iff :
    h.IsCanonicalDirectory path ↔ h.canonical? path = some path ∧ h.isDirectory path = true := by
  constructor
  · intro canonical
    obtain ⟨l, rfl, straight, directory⟩ := canonical.location
    have node : h.tree.get l = some .directory := by simpa [Tree.isDirectoryAt] using directory
    have noLink := Tree.noLink_of_isDirectoryAt directory
    have walked := Tree.walkFar_path straight node noLink canonical.noNull .use h.here
    have inReach := Tree.inReach_path straight node noLink canonical.short h.here
    exact ⟨canonical?_eq_some_iff.2 ⟨inReach, l, .directory, walked, rfl⟩,
      isDirectory_iff.2 ⟨canonical.short, l, walked⟩⟩
  · rintro ⟨canonical, isDirectory⟩
    obtain ⟨inReach, l, n, walked, same⟩ := canonical?_eq_some_iff.1 canonical
    -- The path is one from the root, so that it does not matter where relative paths start.
    have absolute : isAbsolute path = true := by rw [same]; rfl
    have fromRoot : ∀ {directory : Location}, h.tree.walkFar .use h.here path = h.tree.walkFar .use directory path := by
      intro directory
      rw [Tree.walkFar_of_isAbsolute absolute, ← Tree.walkFar_of_isAbsolute absolute _ _ directory]
    have rooted : Rooted { h with here := [] } := fun _ => h.tree.isStraight_nil
    obtain ⟨short, l', walked'⟩ := isDirectory_iff.1 isDirectory
    have canonical : Host.canonical? { h with here := [] } path = some path :=
      canonical?_eq_some_iff.2 ⟨(Tree.inReach_of_isAbsolute absolute h.tree _ _).1 inReach, l, n,
        fromRoot.symm.trans walked, same⟩
    have directory : Host.isDirectory { h with here := [] } path = true :=
      isDirectory_iff.2 ⟨short, l', fromRoot.symm.trans walked'⟩
    obtain ⟨location, noNull, short⟩ := isCanonicalDirectory_of_canonical? rooted canonical directory
    exact ⟨location, noNull, short⟩

/-! ### Opening makes no directories -/

/-- Two hosts have the same directories, and relative paths start from the same of them. -/
structure SameDirectories (h h' : Host) : Prop where
  here : h'.here = h.here
  directories : ∀ l, h'.tree.isDirectoryAt l = h.tree.isDirectoryAt l

theorem SameDirectories.rfl : SameDirectories h h := ⟨.refl _, fun _ => .refl _⟩

theorem SameDirectories.trans (first : SameDirectories h h') (second : SameDirectories h' h'') :
    SameDirectories h h'' :=
  ⟨second.here.trans first.here, fun l => (second.directories l).trans (first.directories l)⟩

theorem SameDirectories.of_scene (same : h'.scene = h.scene) : SameDirectories h h' := by
  have tree : h'.scene.tree = h.scene.tree := congrArg _ same
  have here : h'.scene.here = h.scene.here := congrArg _ same
  exact ⟨here, fun l => congrArg (Tree.isDirectoryAt · l) tree⟩

theorem SameDirectories.isStraight_iff (same : SameDirectories h h') (l : Location) :
    h'.tree.IsStraight l ↔ h.tree.IsStraight l :=
  ⟨fun ⟨names, directories⟩ => ⟨names, fun i hi => by rw [← same.directories]; exact directories i hi⟩,
    fun ⟨names, directories⟩ => ⟨names, fun i hi => by rw [same.directories]; exact directories i hi⟩⟩

theorem SameDirectories.rooted (same : SameDirectories h h') (rooted : h.Rooted) : h'.Rooted := by
  intro directory
  rw [same.here, same.directories] at directory
  rw [same.here, same.isStraight_iff]
  exact rooted directory

theorem SameDirectories.isCanonicalDirectory (same : SameDirectories h h') (canonical : h'.IsCanonicalDirectory path) :
    h.IsCanonicalDirectory path := by
  obtain ⟨⟨l, eq, straight, directory⟩, noNull, short⟩ := canonical
  exact ⟨⟨l, eq, (same.isStraight_iff l).1 straight, by rwa [← same.directories]⟩, noNull, short⟩

end Host

/-- A file or a device in a place that was free is no directory, and does not change the others. -/
theorem Tree.isDirectoryAt_set {t : Tree} {l : Location} {n : Node} (free : t.get l = none) (other : n ≠ .directory)
    (l' : Location) : (t.set l n).isDirectoryAt l' = t.isDirectoryAt l' := by
  have below : l ≠ [] := by
    rintro rfl
    cases free
  unfold isDirectoryAt
  rw [get_set t below]
  split
  · rename_i own
    simpa [own, free] using other
  · rfl

namespace Host

variable {h h' : Host} {path : Text} {handle : Nat} {o : Opening}

theorem sameDirectories_openAs (rooted : h.Rooted) (opened : h.openAs path o = .ok (h', handle)) :
    SameDirectories h h' := by
  unfold openAs at opened
  dsimp only at opened
  split at opened
  · cases opened
  · rename_i directory name walked
    split at opened
    · cases opened
      cases Tree.leads_of_walkFar rooted (Tree.walk_eq_ok_iff.1 walked).2 with
      | vacant _ _ _ free => exact ⟨.refl _, Tree.isDirectoryAt_set free (by simp)⟩
    · cases opened
  · cases opened
    split <;> exact ⟨.refl _, fun _ => .refl _⟩
  · cases opened
    exact ⟨.refl _, fun _ => .refl _⟩
  · split at opened
    · cases opened
    · cases opened
      exact ⟨.refl _, fun _ => .refl _⟩
  · cases opened

theorem sameDirectories_openTarget (rooted : h.Rooted) (cwd : Text) (t : Target) :
    SameDirectories h (h.openTarget cwd t).1 := by
  unfold openTarget
  dsimp only
  split
  · exact .of_scene (scene_note _ _ _)
  · split
    · rename_i opened
      exact sameDirectories_openAs rooted opened
    · exact .rfl

end Host

namespace Runner

variable {σ : Type} {h : Host}

theorem sameDirectories_openAny (rooted : h.Rooted) (cwd : Text) (t : Option Target) :
    h.SameDirectories (openAny h cwd t).1 := by
  cases t with
  | none => exact .rfl
  | some t => exact Host.sameDirectories_openTarget rooted cwd t

/-- Opening the streams of a stage makes no directories and removes none. -/
theorem sameDirectories_openBoth (rooted : h.Rooted) (r : Runner σ) (ctx : Context) (s : Stage) (isLast : Bool) :
    h.SameDirectories (r.openBoth ctx h s isLast).1 := by
  have first := sameDirectories_openAny rooted ctx.cwd s.redirections.err
  unfold openBoth
  generalize openAny h ctx.cwd s.redirections.err = opened at first
  rcases opened with ⟨h₁, failure | d⟩
  · exact first
  · have second := sameDirectories_openAny (first.rooted rooted) ctx.cwd s.redirections.out
    dsimp only
    generalize openAny h₁ ctx.cwd s.redirections.out = opened at second
    rcases opened with ⟨h₂, failure | d'⟩ <;> exact first.trans second

end Runner

end PipeShell
