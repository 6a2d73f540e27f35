import PipeShell.Proofs.Host.Attempt

/-!
# Paths, their parents and what is below them

Where does the parent of a path lead, compared to the path itself?  The parts of a path are those of its parent, some
idle ones, the last name, and idle ones again (`exists_extends_of_parentPath`).  So a walk along the path comes to the
directory that the parent leads to, and from there it has to follow the last name and what is behind it
(`Tree.follow_of_parentPath`).  In the same way a walk along a path that is joined to a directory comes to the directory
first, and then it goes on as the path alone would from there (`Tree.walkFar_joinPath`).
-/

namespace PipeShell

variable {path parent : Text}

/-! ### The parts of a path -/

/-- The parts of a path around its last name. -/
structure AroundName (front dots : List Text) (name : Text) (trail : List Text) : Prop where
  dots : ∀ other ∈ dots, isIdle other = true
  proper : isIdle name = false
  trail : ∀ other ∈ trail, isIdle other = true
  front : ∀ last, front.getLast? = some last → isIdle last = false

/-- Taking idle names from the end of a list, and then one name, and then idle names again. -/
theorem aroundName_of_dropWhile {parts before : List Text} {name : Text}
    (trimmed : parts.reverse.dropWhile isIdle = name :: before) :
    parts = (before.dropWhile isIdle).reverse ++ (before.takeWhile isIdle).reverse ++
        name :: (parts.reverse.takeWhile isIdle).reverse ∧
      AroundName (before.dropWhile isIdle).reverse (before.takeWhile isIdle).reverse name
        (parts.reverse.takeWhile isIdle).reverse := by
  have taken : ∀ {names : List Text}, ∀ other ∈ (names.takeWhile isIdle).reverse, isIdle other = true :=
    fun other mem => List.mem_takeWhile_imp (List.mem_reverse.1 mem)
  constructor
  · have whole : parts.reverse.takeWhile isIdle ++ name :: before = parts.reverse := by
      rw [← trimmed, List.takeWhile_append_dropWhile]
    have rest : (before.dropWhile isIdle).reverse ++ (before.takeWhile isIdle).reverse = before.reverse := by
      rw [← List.reverse_append, List.takeWhile_append_dropWhile]
    calc
      parts = (parts.reverse.takeWhile isIdle ++ name :: before).reverse := by rw [whole, List.reverse_reverse]
      _ = before.reverse ++ name :: (parts.reverse.takeWhile isIdle).reverse := by simp
      _ = _ := by rw [rest]
  · refine ⟨taken, ?_, taken, fun last ends => ?_⟩
    · have first := List.head?_dropWhile_not isIdle parts.reverse
      rwa [trimmed] at first
    · have first := List.head?_dropWhile_not isIdle before
      rw [List.getLast?_reverse] at ends
      rwa [ends] at first

/-- The parts of the rest of a path, behind its anchor. -/
theorem parts_of_parentPath (parent_eq : parentPath path = some parent) (some_parent : parent ≠ []) :
    ∃ front dots name trail, splitAt '/' (splitAnchor path).2 = front ++ dots ++ name :: trail ∧
      AroundName front dots name trail ∧ parent = (splitAnchor path).1 ++ joinWith ['/'] front := by
  simp only [parentPath] at parent_eq
  split at parent_eq
  · split at parent_eq
    · exact absurd (Option.some.inj parent_eq).symm some_parent
    · cases parent_eq
  · rename_i name before trimmed
    obtain ⟨parts, around⟩ := aroundName_of_dropWhile trimmed
    exact ⟨_, _, name, _, parts, around, (Option.some.inj parent_eq).symm⟩

/-- The two parts that `splitAnchor` makes of a path. -/
inductive Anchored : Text → Text → Text → Prop
  | root (rest : Text) : Anchored ('/' :: rest) ['/'] rest
  | dot : Anchored ['.'] ['.'] []
  | below (rest : Text) : Anchored ('.' :: '/' :: rest) ['.'] ('/' :: rest)
  | free (path : Text) : Anchored path [] path

theorem anchored_splitAnchor (path : Text) : Anchored path (splitAnchor path).1 (splitAnchor path).2 := by
  unfold splitAnchor
  split
  · exact .root _
  · exact .dot
  · exact .below _
  · exact .free _

theorem AroundName.last {front dots : List Text} {name : Text} {trail : List Text}
    (around : AroundName front dots name trail) : front.getLast? ≠ some [] := fun ends => by
  cases around.front [] ends

/-- The parts of a path are those of its parent, idle ones, the last name, and idle ones again; only the root has a part
that the others have not. -/
structure Extends (path parent : Text) (front dots : List Text) (name : Text) (trail : List Text) : Prop where
  parts : splitAt '/' path = front ++ dots ++ name :: trail
  dots : ∀ other ∈ dots, isIdle other = true
  proper : isIdle name = false
  trail : ∀ other ∈ trail, isIdle other = true
  front : (splitAt '/' parent = front ∧ front.getLast? ≠ some []) ∨ (parent = ['/'] ∧ front = [[]])

section Extends

variable {rest name : Text} {front dots trail : List Text}

theorem extends_of_root (parts : splitAt '/' rest = front ++ dots ++ name :: trail)
    (around : AroundName front dots name trail) (noSlash : ∀ part ∈ front, '/' ∉ part) :
    Extends ('/' :: rest) (['/'] ++ joinWith ['/'] front) ([] :: front) dots name trail where
  parts := by simp [splitAt, parts]
  dots := around.dots
  proper := around.proper
  trail := around.trail
  front := by
    cases front with
    | nil => exact .inr ⟨rfl, rfl⟩
    | cons part more =>
      refine .inl ⟨?_, by simpa [List.getLast?_cons_cons] using around.last⟩
      rw [List.singleton_append, splitAt, if_pos rfl, splitAt_joinWith (List.cons_ne_nil _ _) noSlash]

/-- The dot in front of a path such as `./a` is a part of the parent, too. -/
theorem exists_extends_of_below (parts : splitAt '/' ('/' :: rest) = front ++ dots ++ name :: trail)
    (around : AroundName front dots name trail) (noSlash : ∀ part ∈ front, '/' ∉ part) :
    ∃ front' dots', Extends ('.' :: '/' :: rest) (['.'] ++ joinWith ['/'] front) front' dots' name trail := by
  rw [splitAt, if_pos rfl] at parts
  have parts_path : splitAt '/' ('.' :: '/' :: rest) = ['.'] :: splitAt '/' rest :=
    splitAt_append (show '/' ∉ ['.'] by decide) rest
  cases front with
  | nil =>
    cases dots with
    | nil => exact absurd (List.cons.inj parts).1.symm (ne_nil_of_isIdle around.proper)
    | cons dot dots =>
      have idle : ∀ other ∈ dots, isIdle other = true := fun other mem => around.dots other (List.mem_cons_of_mem _ mem)
      refine ⟨[['.']], dots, ?_, idle, around.proper, around.trail, .inl ⟨rfl, by simp⟩⟩
      rw [parts_path, (List.cons.inj parts).2]
      rfl
  | cons part more =>
    obtain ⟨rfl, parts_rest⟩ : [] = part ∧ splitAt '/' rest = more ++ dots ++ name :: trail := by
      simpa using parts
    cases more with
    | nil => exact absurd rfl around.last
    | cons second more =>
      refine ⟨['.'] :: second :: more, dots, by rw [parts_path, parts_rest]; rfl, around.dots, around.proper,
        around.trail, .inl ⟨?_, by simpa [List.getLast?_cons_cons] using around.last⟩⟩
      have parent_eq : ['.'] ++ joinWith ['/'] ([] :: second :: more) =
          ['.'] ++ '/' :: joinWith ['/'] (second :: more) := rfl
      rw [parent_eq, splitAt_append (by decide), splitAt_joinWith (List.cons_ne_nil _ _) fun part mem =>
        noSlash part (List.mem_cons_of_mem _ mem)]

end Extends

/-- **A path extends its parent.** -/
theorem exists_extends_of_parentPath (parent_eq : parentPath path = some parent) (some_parent : parent ≠ []) :
    ∃ front dots name trail, Extends path parent front dots name trail := by
  obtain ⟨front, dots, name, trail, parts, around, joined⟩ := parts_of_parentPath parent_eq some_parent
  have noSlash : ∀ part ∈ front, '/' ∉ part := fun part mem =>
    notMem_of_mem_splitAt (parts ▸ List.mem_append_left _ (List.mem_append_left _ mem))
  have anchored := anchored_splitAnchor path
  generalize (splitAnchor path).1 = anchor at anchored joined
  generalize (splitAnchor path).2 = rest at anchored parts
  cases anchored with
  | root => exact ⟨_, _, _, _, joined ▸ extends_of_root parts around noSlash⟩
  | dot =>
    -- A dot has no last name.
    have mem : name ∈ splitAt '/' [] := by simp [parts]
    rw [splitAt, List.mem_singleton] at mem
    exact absurd mem (ne_nil_of_isIdle around.proper)
  | below rest =>
    obtain ⟨front', dots', extended⟩ := exists_extends_of_below parts around noSlash
    exact ⟨_, _, _, _, joined ▸ extended⟩
  | free =>
    have some_front : front ≠ [] := by
      rintro rfl
      exact some_parent joined
    exact ⟨front, dots, name, trail, parts, around.dots, around.proper, around.trail,
      .inl ⟨by rw [joined]; exact splitAt_joinWith some_front noSlash, around.last⟩⟩

/-! ### The components of a path -/

/-- The components are the parts that are not empty, and an empty one for a slash at the end. -/
theorem exists_components (path : Text) : ∃ slash, components path = (splitAt '/' path).filter (· ≠ []) ++ slash ∧
    (slash = [] ∨ slash = [[]]) := by
  unfold components
  split
  · exact ⟨[[]], rfl, .inr rfl⟩
  · exact ⟨[], by simp, .inl rfl⟩

theorem isAbsolute_iff : isAbsolute path = true ↔ ∃ part parts, splitAt '/' path = [] :: part :: parts := by
  cases path with
  | nil => simp [isAbsolute, splitAt]
  | cons c rest =>
    obtain ⟨part, parts, split⟩ := List.exists_cons_of_ne_nil (splitAt_ne_nil '/' rest)
    by_cases slash : c = '/' <;> simp [isAbsolute, splitAt, slash, split]

/-- **The components of a path are those of its parent**, idle ones, the last name, and idle ones again. -/
theorem components_of_parentPath (parent_eq : parentPath path = some parent) (some_parent : parent ≠ []) :
    ∃ dots name trail, (∀ other ∈ dots, isIdle other = true) ∧ isIdle name = false ∧
      (∀ other ∈ trail, isIdle other = true) ∧ isAbsolute path = isAbsolute parent ∧
        (components path = components parent ++ (dots ++ name :: trail) ∨
          (parent = ['/'] ∧ components path = dots ++ name :: trail)) := by
  obtain ⟨front, dots, name, trail, parts, idle, proper, trailing, front_eq⟩ :=
    exists_extends_of_parentPath parent_eq some_parent
  obtain ⟨slash, components_eq, slash_eq⟩ := exists_components path
  have some_name : name ≠ [] := ne_nil_of_isIdle proper
  have components_path : components path =
      front.filter (· ≠ []) ++ (dots.filter (· ≠ []) ++ name :: (trail.filter (· ≠ []) ++ slash)) := by
    rw [components_eq, parts]
    simp [some_name]
  refine ⟨dots.filter (· ≠ []), name, trail.filter (· ≠ []) ++ slash, ?_, proper, ?_, ?_, ?_⟩
  · exact fun other mem => idle other (List.mem_filter.1 mem).1
  · intro other mem
    rcases List.mem_append.1 mem with mem | mem
    · exact trailing other (List.mem_filter.1 mem).1
    · rcases slash_eq with rfl | rfl
      · cases mem
      · rw [List.mem_singleton.1 mem]
        rfl
  · rw [Bool.eq_iff_iff, isAbsolute_iff, isAbsolute_iff, parts]
    rcases front_eq with ⟨rfl, last⟩ | ⟨rfl, rfl⟩
    · obtain ⟨part, more, split⟩ := List.exists_cons_of_ne_nil (splitAt_ne_nil '/' parent)
      rw [split] at last ⊢
      cases more with
      | nil =>
        have some_part : part ≠ [] := by simpa using last
        simp [some_part]
      | cons second more => simp
    · cases dots <;> simp [splitAt]
  · rcases front_eq with ⟨rfl, last⟩ | ⟨rfl, rfl⟩
    · exact .inl (by rw [components_path, components_of_getLast? last])
    · exact .inr ⟨rfl, by rw [components_path]; rfl⟩

/-! ### Joined paths -/

section Joined

variable {base rest : Text}

/-- The names of a path that is followed from a directory come behind those of the directory. -/
theorem components_joinPath (some_base : base ≠ []) (relative : isAbsolute rest = false) :
    components (joinPath base rest) =
      (splitAt '/' base).filter (· ≠ []) ++ if rest = [] then [[]] else components rest := by
  obtain ⟨front, joined, front_eq⟩ := joinPath_of_not_isAbsolute some_base relative
  have names : (splitAt '/' base).filter (· ≠ []) = (splitAt '/' front).filter (· ≠ []) := by
    rcases front_eq with rfl | rfl
    · rfl
    · simp [splitAt_concat]
  rw [joined, names]
  simp only [components, splitAt_append_sep, List.filter_append]
  by_cases empty : rest = []
  · simp [empty, splitAt]
  · have last : (front ++ '/' :: rest).getLast? = rest.getLast? := by
      rw [List.getLast?_append_cons, List.getLast?_cons_of_ne_nil empty]
    rw [last, if_neg empty]
    split <;> simp

theorem isAbsolute_joinPath_eq (some_base : base ≠ []) (relative : isAbsolute rest = false) :
    isAbsolute (joinPath base rest) = isAbsolute base := by
  obtain ⟨front, joined, rfl | rfl⟩ := joinPath_of_not_isAbsolute some_base relative
  · obtain ⟨c, cs, rfl⟩ := List.exists_cons_of_ne_nil some_base
    rw [joined]
    rfl
  · rw [joined]
    cases front <;> rfl

end Joined

/-! ### The walk past the parent -/

namespace Tree

variable {t : Tree} {links : Nat} {spot here l : Location} {front names : List Text} {base rest : Text}

/-- A walk for use that comes to a directory is one that goes on from there; it may have followed links. -/
theorem follow_append {p : Purpose} (followed : t.follow .use links spot front = .ok (.found l .directory))
    (some_name : names ≠ []) (notSlash : p = .create → names ≠ [[]]) :
    ∃ links' ≤ links, t.follow p links spot (front ++ names) = t.follow p links' l names := by
  have notLast : ∀ {rest : List Text}, ¬ (p = .create ∧ rest ++ names = [[]]) := by
    rintro rest ⟨create, last⟩
    rcases List.append_eq_singleton_iff.1 last with ⟨-, slash⟩ | ⟨-, none⟩
    · exact notSlash create slash
    · exact some_name none
  have notEnd : ∀ {rest : List Text}, ¬ (rest ++ names = [] ∧ p = .inspect) := fun ends =>
    some_name (List.append_eq_nil_iff.1 ends.1).2
  generalize asked : Purpose.use = q at followed
  -- Each step along `front` is the same with more names behind it, as it is not the last one then.
  fun_induction follow t q links spot front with
  | case1 links spot n node =>
    cases followed
    exact ⟨links, le_rfl, rfl⟩
  | case2 | case3 | case4 | case8 | case10 | case12 => cases followed
  | case7 _ _ _ _ _ _ _ _ last => cases asked.trans last.1
  | case9 => cases followed
  | case11 _ _ _ _ _ _ _ _ _ _ _ _ inspect => cases asked.trans inspect.2
  | case5 links spot name rest present directory idle ih =>
    obtain ⟨links', fewer, goes_on⟩ := ih followed
    refine ⟨links', fewer, ?_⟩
    rw [List.cons_append, follow, if_neg present, if_neg directory, if_pos idle, goes_on]
  | case6 links spot rest present directory notIdle ih =>
    obtain ⟨links', fewer, goes_on⟩ := ih followed
    refine ⟨links', fewer, ?_⟩
    rw [List.cons_append, follow, if_neg present, if_neg directory, if_neg notIdle, if_pos rfl, goes_on]
  | case13 spot name rest _ directory notIdle notUp _ short target link through links ih =>
    obtain ⟨links', fewer, goes_on⟩ := ih followed
    refine ⟨links', Nat.le_succ_of_le fewer, ?_⟩
    rw [List.cons_append, follow_name (Decidable.of_not_not directory) notIdle notUp notLast short, link]
    rw [List.append_assoc] at goes_on
    exact (if_neg notEnd).trans goes_on
  | case14 links spot name rest _ directory notIdle notUp _ short n other node ih =>
    obtain ⟨links', fewer, goes_on⟩ := ih followed
    refine ⟨links', fewer, ?_⟩
    rw [List.cons_append, follow_name (Decidable.of_not_not directory) notIdle notUp notLast short, node]
    cases n with
    | link target => exact absurd rfl (other target)
    | directory | file number | device d => exact goes_on

/-- A walk along a path comes to the directory that the parent of the path leads to, and follows the last name from
there. -/
theorem follow_of_parentPath (parent_eq : parentPath path = some parent)
    (leads : t.walkFar .use here parent = .ok (.found l .directory)) :
    ∃ before name trail links, components path = before ++ name :: trail ∧ isIdle name = false ∧
      (∀ other ∈ trail, isIdle other = true) ∧
        t.follow .create linkLimit (if isAbsolute path then [] else here) (components path) =
          t.follow .create links l (name :: trail) := by
  obtain ⟨-, some_parent, followed⟩ := walkFar_eq_ok_iff.1 leads
  have directory : t.isDirectoryAt l = true := by
    have node : t.get l = some .directory := shows_of_follow followed
    simp [isDirectoryAt, node]
  obtain ⟨dots, name, trail, idle, proper, trailing, absolute, names⟩ := components_of_parentPath parent_eq some_parent
  rw [absolute]
  rcases names with names | ⟨rfl, names⟩
  · have some_name : name ≠ [] := ne_nil_of_isIdle proper
    have some_names : dots ++ name :: trail ≠ [] := by simp
    have notSlash : dots ++ name :: trail ≠ [[]] := fun slash => by
      rcases List.append_eq_singleton_iff.1 slash with ⟨-, last⟩ | ⟨-, none⟩
      · exact some_name (List.cons.inj last).1
      · cases none
    obtain ⟨links, -, goes_on⟩ := follow_append (p := .create) followed some_names fun _ => notSlash
    refine ⟨components parent ++ dots, name, trail, links, by rw [names, List.append_assoc], proper, trailing, ?_⟩
    rw [names, goes_on, follow_append_of_idle directory idle]
  · -- The parent is the root, where the walk starts.
    have absolute : isAbsolute ['/'] = true := rfl
    rw [if_pos absolute] at followed ⊢
    have root : t.follow .use linkLimit [] (components ['/']) = .ok (.found [] .directory) :=
      follow_of_idle rfl (by decide)
    cases root.symm.trans followed
    refine ⟨dots, name, trail, linkLimit, names, proper, trailing, ?_⟩
    rw [names, follow_append_of_idle directory idle]

/-! ### The walk along joined paths -/

/-- A slash at the end of a walk asks for a directory. -/
theorem follow_of_slash (followed : t.follow .use links spot (front ++ [[]]) = .ok (.found l .directory)) :
    t.follow .use links spot front = .ok (.found l .directory) := by
  have notLast : ∀ {rest : List Text}, ¬ (Purpose.use = .create ∧ rest = [[]]) := by simp
  generalize asked : Purpose.use = p at followed notLast ⊢
  -- The slash matters only where the walk along `front` ends: nothing else than a directory can be there.
  fun_induction follow t p links spot front with
  | case1 links spot n node =>
    rw [List.nil_append, follow, if_neg (by simp [node])] at followed
    split at followed
    · cases followed
    · rw [if_pos rfl, follow, node] at followed
      exact followed
  | case2 links spot missing => simp [follow, missing] at followed
  | case3 links spot name rest missing => simp [follow, missing] at followed
  | case4 links spot name rest present notDirectory => simp [follow, present, notDirectory] at followed
  | case5 links spot name rest present directory idle ih =>
    rw [List.cons_append, follow, if_neg present, if_neg directory, if_pos idle] at followed
    exact ih followed
  | case6 links spot rest present directory notIdle ih =>
    rw [List.cons_append, follow, if_neg present, if_neg directory, if_neg notIdle, if_pos rfl] at followed
    exact ih followed
  | case7 _ _ _ _ _ _ _ _ last => cases asked.trans last.1
  | case8 links spot name rest present directory notIdle notUp _ long =>
    rw [List.cons_append, follow, if_neg present, if_neg directory, if_neg notIdle, if_neg notUp, if_neg notLast,
      if_pos long] at followed
    cases followed
  | case9 links spot name _ directory notIdle notUp short free
  | case10 links spot name rest _ directory notIdle notUp _ short free =>
    rw [List.cons_append, follow_name (Decidable.of_not_not directory) notIdle notUp notLast short, free] at followed
    simp at followed
  | case11 _ _ _ _ _ _ _ _ _ _ _ _ inspect => cases asked.trans inspect.2
  | case12 spot name rest _ directory notIdle notUp _ short target link through =>
    rw [List.cons_append, follow_name (Decidable.of_not_not directory) notIdle notUp notLast short, link] at followed
    simp at followed
  | case13 spot name rest _ directory notIdle notUp _ short target link through links ih =>
    rw [List.cons_append, follow_name (Decidable.of_not_not directory) notIdle notUp notLast short, link] at followed
    refine ih ?_
    simpa using followed
  | case14 links spot name rest _ directory notIdle notUp _ short n other node ih =>
    rw [List.cons_append, follow_name (Decidable.of_not_not directory) notIdle notUp notLast short, node] at followed
    cases n with
    | link target => exact absurd rfl (other target)
    | directory | file number | device d => exact ih followed

/-- The names of a path lead to the directory that the path leads to. -/
theorem follow_names (followed : t.follow .use links spot (components base) = .ok (.found l .directory)) :
    t.follow .use links spot ((splitAt '/' base).filter (· ≠ [])) = .ok (.found l .directory) := by
  obtain ⟨slash, names, rfl | rfl⟩ := exists_components base
  · rwa [names, List.append_nil] at followed
  · exact follow_of_slash (names ▸ followed)

/-- **A path that is followed from a directory leads where it leads from there**, after the links on the way to the
directory. -/
theorem walkFar_joinPath (leads : t.walkFar .use here base = .ok (.found l .directory))
    (relative : isAbsolute rest = false) :
    ∃ links ≤ linkLimit, ∀ place, t.walkFar .use here (joinPath base rest) = .ok place ↔
      rest.contains (Char.ofNat 0) = false ∧ t.follow .use links l (components rest) = .ok place := by
  obtain ⟨noNull, some_base, followed⟩ := walkFar_eq_ok_iff.1 leads
  have node : t.get l = some .directory := shows_of_follow followed
  have directory : t.isDirectoryAt l = true := by simp [isDirectoryAt, node]
  have some_names : (if rest = [] then [[]] else components rest) ≠ [] := by
    split
    · simp
    · rename_i some_rest
      exact components_ne_nil some_rest
  obtain ⟨links, fewer, goes_on⟩ := follow_append (p := .use) (follow_names followed) some_names (by simp)
  obtain ⟨front, joined, front_eq⟩ := joinPath_of_not_isAbsolute some_base relative
  have null : (joinPath base rest).contains (Char.ofNat 0) = rest.contains (Char.ofNat 0) := by
    rw [joined]
    rcases front_eq with rfl | rfl <;> simp_all
  refine ⟨links, fewer, fun place => ?_⟩
  rw [walkFar_eq_ok_iff, isAbsolute_joinPath_eq some_base relative, null, components_joinPath some_base relative, goes_on,
    and_iff_right (by simp [joined] : joinPath base rest ≠ [])]
  refine and_congr_right fun _ => ?_
  split
  · rename_i empty
    subst empty
    rw [follow_of_idle directory (by simp [isIdle]), follow_of_idle directory (by simp [components, splitAt])]
  · rfl

end Tree

end PipeShell
