import PipeShell.Host.Basic

/-!
# Where walks lead

A walk that succeeds ends at a location that is reached over directories alone: all its names are proper ones, and
there is no link among the nodes on the way (`Tree.leads_of_walkFar`).  From the root the path of such a location leads
back to it (`Tree.walkFar_path`), and to resolve it name by name is no harder than to follow it (`Tree.inReach_path`).
So a path that is canonical stands for itself, on any host that has the same directories.
-/

namespace PipeShell

/-! ### Texts in parts -/

/-- The parts of a text do not hold the separator. -/
theorem notMem_of_mem_splitAt {sep : Char} {t part : Text} (mem : part ∈ splitAt sep t) : sep ∉ part := by
  induction t generalizing part with
  | nil =>
    obtain rfl : part = [] := by simpa [splitAt] using mem
    simp
  | cons c cs ih =>
    unfold splitAt at mem
    split at mem
    · rcases List.mem_cons.1 mem with rfl | mem
      · simp
      · exact ih mem
    · rename_i other
      cases parts : splitAt sep cs with
      | nil => exact absurd parts (splitAt_ne_nil sep cs)
      | cons first rest =>
        rw [parts] at mem ih
        rcases List.mem_cons.1 mem with rfl | mem
        · simpa [Ne.symm other] using ih List.mem_cons_self
        · exact ih (List.mem_cons_of_mem _ mem)

/-- All other characters of a text are in its parts. -/
theorem exists_mem_splitAt {sep c : Char} {t : Text} (mem : c ∈ t) (other : c ≠ sep) :
    ∃ part ∈ splitAt sep t, c ∈ part := by
  induction t with
  | nil => cases mem
  | cons d ds ih =>
    unfold splitAt
    split
    · rename_i separates
      obtain ⟨part, parts, mem⟩ := ih ((List.mem_cons.1 mem).resolve_left fun same => other (same.trans separates))
      exact ⟨part, List.mem_cons_of_mem _ parts, mem⟩
    · cases parts : splitAt sep ds with
      | nil => exact absurd parts (splitAt_ne_nil sep ds)
      | cons first rest =>
        rw [parts] at ih
        rcases List.mem_cons.1 mem with rfl | mem
        · exact ⟨c :: first, List.mem_cons_self, List.mem_cons_self⟩
        · obtain ⟨part, parts, mem⟩ := ih mem
          rcases List.mem_cons.1 parts with rfl | parts
          · exact ⟨d :: part, List.mem_cons_self, List.mem_cons_of_mem _ mem⟩
          · exact ⟨part, List.mem_cons_of_mem _ parts, mem⟩

/-- A text without the separator is its only part. -/
theorem splitAt_eq_singleton {sep : Char} {t : Text} (notMem : sep ∉ t) : splitAt sep t = [t] := by
  induction t with
  | nil => rfl
  | cons c cs ih =>
    obtain ⟨other, notMem⟩ : sep ≠ c ∧ sep ∉ cs := by simpa using notMem
    simp [splitAt, ih notMem, Ne.symm other]

/-- A separator ends a part, and another one begins behind it. -/
theorem splitAt_append_sep (sep : Char) (t t' : Text) :
    splitAt sep (t ++ sep :: t') = splitAt sep t ++ splitAt sep t' := by
  induction t with
  | nil => simp [splitAt]
  | cons c cs ih =>
    simp only [List.cons_append, splitAt, ih]
    split
    · rfl
    · cases parts : splitAt sep cs with
      | nil => exact absurd parts (splitAt_ne_nil sep cs)
      | cons first rest => rfl

/-- The first part of a text ends where the separator is met first. -/
theorem splitAt_append {sep : Char} {part : Text} (notMem : sep ∉ part) (t : Text) :
    splitAt sep (part ++ sep :: t) = part :: splitAt sep t := by
  rw [splitAt_append_sep, splitAt_eq_singleton notMem, List.singleton_append]

/-- Taking apart what has been put together gives the same parts. -/
theorem splitAt_joinWith {sep : Char} {parts : List Text} (some_part : parts ≠ [])
    (notMem : ∀ part ∈ parts, sep ∉ part) :
    splitAt sep (joinWith [sep] parts) = parts := by
  induction parts with
  | nil => exact absurd rfl some_part
  | cons part rest ih =>
    have first := notMem part List.mem_cons_self
    cases rest with
    | nil => exact splitAt_eq_singleton first
    | cons other others =>
      have rest := ih (List.cons_ne_nil _ _) fun p mem => notMem p (List.mem_cons_of_mem _ mem)
      rw [joinWith, List.append_assoc, List.singleton_append, splitAt_append first, rest]
      simp

/-- The parts that come first stand first in the joined text. -/
theorem joinWith_prefix (sep : Text) (parts more : List Text) :
    joinWith sep parts <+: joinWith sep (parts ++ more) := by
  induction parts with
  | nil => exact List.nil_prefix
  | cons part rest ih =>
    cases rest with
    | nil =>
      cases more with
      | nil => exact List.prefix_rfl
      | cons other others =>
        have joined : joinWith sep ([part] ++ other :: others) = part ++ (sep ++ joinWith sep (other :: others)) := by
          simp [joinWith]
        rw [joined]
        exact List.prefix_append _ _
    | cons other others => exact List.prefix_append_right_inj _ |>.2 ih

/-- A separator at the end is followed by an empty part. -/
theorem splitAt_concat (sep : Char) (t : Text) : splitAt sep (t ++ [sep]) = splitAt sep t ++ [[]] :=
  splitAt_append_sep sep t []

/-- Between a directory and a path that is followed from it there is a slash, and no second one if the directory ends in
one. -/
theorem joinPath_of_not_isAbsolute {base rest : Text} (some_base : base ≠ []) (relative : isAbsolute rest = false) :
    ∃ front, joinPath base rest = front ++ '/' :: rest ∧ (base = front ∨ base = front ++ ['/']) := by
  unfold joinPath
  rw [if_neg (by simp [relative])]
  split
  · rename_i ends
    have last : base.getLast? = some '/' := by
      rw [List.getLast?_eq_some_getLast some_base] at ends ⊢
      simpa using ends
    obtain ⟨front, rfl⟩ := List.getLast?_eq_some_iff.1 last
    exact ⟨front, by simp, .inr rfl⟩
  · exact ⟨base, rfl, .inl rfl⟩

/-! ### Names and straight locations -/

/-- A name that an entry of a directory can have. -/
structure IsName (name : Text) : Prop where
  noSlash : '/' ∉ name
  notIdle : isIdle name = false
  notUp : name ≠ ['.', '.']
  short : (utf8 name).length ≤ nameLimit

theorem ne_nil_of_isIdle {name : Text} (proper : isIdle name = false) : name ≠ [] := by
  rintro rfl
  cases proper

theorem IsName.ne_nil {name : Text} (isName : IsName name) : name ≠ [] := ne_nil_of_isIdle isName.notIdle

theorem notMem_of_mem_components {path name : Text} (mem : name ∈ components path) : '/' ∉ name := by
  have parts : ∀ name ∈ (splitAt '/' path).filter (· ≠ []), '/' ∉ name := fun name mem =>
    notMem_of_mem_splitAt (List.mem_filter.1 mem).1
  unfold components at mem
  split at mem
  · rcases List.mem_append.1 mem with mem | mem
    · exact parts name mem
    · obtain rfl : name = [] := by simpa using mem
      simp
  · exact parts name mem

/-- Only the empty path has no components. -/
theorem components_ne_nil {path : Text} (some_path : path ≠ []) : components path ≠ [] := by
  unfold components
  split
  · simp
  · rename_i last
    have other : path.getLast some_path ≠ '/' := by
      simpa [List.getLast?_eq_some_getLast some_path] using last
    obtain ⟨part, parts, mem⟩ := exists_mem_splitAt (List.getLast_mem some_path) other
    exact List.ne_nil_of_mem (List.mem_filter.2 ⟨parts, by simpa using List.ne_nil_of_mem mem⟩)

/-- A path that does not end in a slash has no empty component. -/
theorem components_of_getLast? {path : Text} (last : (splitAt '/' path).getLast? ≠ some []) :
    components path = (splitAt '/' path).filter (· ≠ []) := by
  refine if_neg fun slash => ?_
  obtain ⟨before, rfl⟩ := List.getLast?_eq_some_iff.1 slash
  rw [splitAt_concat, List.getLast?_concat] at last
  exact last rfl

/-- The names on the way to a location are the components of its path. -/
theorem components_path {l : Location} (some_name : l ≠ []) (names : ∀ name ∈ l, IsName name) :
    components (Location.path l) = l := by
  have parts : splitAt '/' (Location.path l) = [] :: l := by
    have rest := splitAt_joinWith some_name fun name mem => (names name mem).noSlash
    rw [Location.path, splitAt, if_pos rfl, rest]
  have proper : l.filter (· ≠ []) = l := List.filter_eq_self.2 fun name mem => by
    simpa using (names name mem).ne_nil
  have last : (splitAt '/' (Location.path l)).getLast? ≠ some [] := by
    have ends : (splitAt '/' (Location.path l)).getLast? = some (l.getLast some_name) := by
      rw [parts, List.getLast?_cons, List.getLast?_eq_some_getLast some_name, Option.getD_some]
    rw [ends, ne_eq, Option.some.injEq]
    exact (names _ (List.getLast_mem some_name)).ne_nil
  rw [components_of_getLast? last, parts]
  simpa using proper

/-- The path of a location begins with those of the locations above it. -/
theorem length_path_le (l l' : Location) :
    (utf8 (Location.path l)).length ≤ (utf8 (Location.path (l ++ l'))).length := by
  obtain ⟨behind, same⟩ := joinWith_prefix ['/'] l l'
  have same : Location.path l ++ behind = Location.path (l ++ l') := congrArg ('/' :: ·) same
  rw [← same, utf8_append, List.length_append]
  omega

/-- What is taken out under some keys does not matter to the others. -/
theorem lookup_filter {α β : Type} [BEq α] [LawfulBEq α] (keep : α → Bool) (entries : List (α × β)) (key : α) :
    (entries.filter fun e => keep e.1).lookup key = if keep key then entries.lookup key else none := by
  induction entries with
  | nil => simp
  | cons e entries ih =>
    obtain ⟨k, v⟩ := e
    by_cases own : key = k
    · subst own
      cases kept : keep key with
      | true => simp [kept]
      | false => simpa [kept] using ih
    · have differs : (key == k) = false := by simpa using own
      rw [List.lookup_cons, differs]
      cases kept : keep k with
      | true =>
        rw [List.filter_cons_of_pos (by simpa using kept), List.lookup_cons, differs]
        exact ih
      | false =>
        rw [List.filter_cons_of_neg (by simp [kept])]
        exact ih

namespace Tree

variable {t : Tree} {p : Purpose} {links : Nat} {l spot here : Location} {name : Text} {names rest : List Text}
  {n : Node} {place : Place}

theorem get_set (t : Tree) {l : Location} (below : l ≠ []) (n : Node) (l' : Location) :
    (t.set l n).get l' = if l' = l then some n else t.get l' := by
  unfold get set
  by_cases own : l' = l
  · subst own
    simp [below]
  · by_cases root : l' = []
    · simp [root, Ne.symm below]
    · have other : (l' == l) = false := by simpa using own
      simp only [root, own, if_false, List.lookup_cons, other]
      have kept := lookup_filter (fun key : Location => decide (key ≠ l)) t.entries l'
      simpa [own] using kept

/-- A place shows what stands there, or that nothing does yet. -/
def Shows (t : Tree) : Place → Prop
  | .found l n => t.get l = some n
  | .vacant directory name => t.get (directory ++ [name]) = none

theorem shows_of_follow (walked : t.follow p links spot names = .ok place) : t.Shows place := by
  fun_induction follow t p links spot names with
  | case1 _ _ _ node =>
    cases walked
    exact node
  | case9 _ _ _ _ _ _ _ _ free _ =>
    cases walked
    exact free
  | case11 _ _ _ _ _ _ _ _ _ _ _ node =>
    cases walked
    exact node
  | case2 | case3 | case4 | case7 | case8 | case10 | case12 => cases walked
  | case5 _ _ _ _ _ _ _ ih | case6 _ _ _ _ _ _ ih => exact ih walked
  | case13 _ _ _ _ _ _ _ _ _ _ _ _ _ ih | case14 _ _ _ _ _ _ _ _ _ _ _ _ _ ih => exact ih walked

theorem shows_of_walk {path : Text} (walked : t.walk p here path = .ok place) : t.Shows place := by
  unfold walk walkFar at walked
  split at walked
  · cases walked
  · split at walked
    · cases walked
    · split at walked
      · cases walked
      · split at walked
        · rename_i followed
          cases walked
          exact shows_of_follow followed
        · cases walked

/-- A location that is reached over directories, and not over links. -/
structure IsStraight (t : Tree) (l : Location) : Prop where
  names : ∀ name ∈ l, IsName name
  directories : ∀ i < l.length, t.isDirectoryAt (l.take i) = true

/-- No link stands here. -/
def NoLink (t : Tree) (l : Location) : Prop := ∀ target, t.get l ≠ some (.link target)

theorem noLink_of_isDirectoryAt (directory : t.isDirectoryAt l = true) : t.NoLink l := by
  intro target link
  simp [isDirectoryAt, link] at directory

theorem isDirectoryAt_nil (t : Tree) : t.isDirectoryAt [] = true := rfl

theorem isStraight_nil (t : Tree) : t.IsStraight [] := ⟨by simp, by simp⟩

/-- The names in a straight directory are straight. -/
theorem IsStraight.concat (straight : t.IsStraight l) (directory : t.isDirectoryAt l = true) (isName : IsName name) :
    t.IsStraight (l ++ [name]) where
  names := by
    intro other mem
    rcases List.mem_append.1 mem with mem | mem
    · exact straight.names other mem
    · obtain rfl : other = name := by simpa using mem
      exact isName
  directories := by
    intro i hi
    rw [List.length_append, List.length_singleton] at hi
    rw [List.take_append_of_le_length (by omega)]
    rcases Nat.lt_or_ge i l.length with before | last
    · exact straight.directories i before
    · rwa [List.take_of_length_le last]

/-- A name in the root is straight. -/
theorem isStraight_singleton (t : Tree) (isName : IsName name) : t.IsStraight [name] :=
  t.isStraight_nil.concat t.isDirectoryAt_nil isName

/-- The directory above a straight location is straight. -/
theorem IsStraight.dropLast (straight : t.IsStraight l) :
    t.IsStraight l.dropLast ∧ t.isDirectoryAt l.dropLast = true := by
  refine ⟨⟨fun name mem => straight.names name (List.dropLast_subset _ mem), fun i hi => ?_⟩, ?_⟩
  · rw [List.length_dropLast] at hi
    rw [List.dropLast_eq_take, List.take_take, Nat.min_eq_left (by omega)]
    exact straight.directories i (by omega)
  · cases l with
    | nil => rfl
    | cons name rest =>
      rw [List.dropLast_eq_take]
      exact straight.directories _ (by simp)

/-- What a walk gives: a straight location where something stands, or a name that a straight directory does not have.
Only one who asks about links is given one. -/
inductive Leads (t : Tree) (p : Purpose) : Place → Prop
  | found {l : Location} {n : Node} (straight : t.IsStraight l) (node : t.get l = some n)
      (through : p = .inspect ∨ t.NoLink l) : Leads t p (.found l n)
  | vacant {directory : Location} {name : Text} (straight : t.IsStraight directory)
      (isDirectory : t.isDirectoryAt directory = true) (isName : IsName name)
      (free : t.get (directory ++ [name]) = none) : Leads t p (.vacant directory name)

/-- A walk that succeeds, from where it has come to over directories. -/
theorem leads_of_follow (straight : t.IsStraight spot) (noLink : t.NoLink spot) (noSlash : ∀ name ∈ names, '/' ∉ name)
    (walked : t.follow p links spot names = .ok place) : t.Leads p place := by
  fun_induction follow t p links spot names with
  | case1 _ _ _ node =>
    cases walked
    exact .found straight node (.inr noLink)
  | case2 | case3 | case4 | case7 | case8 | case10 | case12 => cases walked
  | case5 _ _ _ _ _ _ _ ih =>
    exact ih straight noLink (fun name mem => noSlash name (List.mem_cons_of_mem _ mem)) walked
  | case6 _ _ _ _ _ _ ih =>
    obtain ⟨above, directory⟩ := straight.dropLast
    exact ih above (noLink_of_isDirectoryAt directory) (fun name mem => noSlash name (List.mem_cons_of_mem _ mem))
      walked
  | case9 _ _ name _ directory notIdle notUp short free _ =>
    cases walked
    have isName : IsName name := ⟨noSlash name List.mem_cons_self, by simpa using notIdle, notUp, Nat.not_lt.1 short⟩
    exact .vacant straight (Decidable.of_not_not directory) isName free
  | case11 _ _ name _ _ directory notIdle notUp _ short _ node asked =>
    cases walked
    have isName : IsName name := ⟨noSlash name List.mem_cons_self, by simpa using notIdle, notUp, Nat.not_lt.1 short⟩
    exact .found (straight.concat (Decidable.of_not_not directory) isName) node (.inl asked.2)
  | case13 _ _ _ _ _ _ _ _ _ target _ _ _ ih =>
    refine ih ?_ ?_ (fun name mem => ?_) walked
    · split
      · exact t.isStraight_nil
      · exact straight
    · split
      · exact noLink_of_isDirectoryAt t.isDirectoryAt_nil
      · exact noLink
    · rcases List.mem_append.1 mem with mem | mem
      · exact notMem_of_mem_components mem
      · exact noSlash name (List.mem_cons_of_mem _ mem)
  | case14 _ _ name _ _ directory notIdle notUp _ short n other node ih =>
    have isName : IsName name := ⟨noSlash name List.mem_cons_self, by simpa using notIdle, notUp, Nat.not_lt.1 short⟩
    refine ih (straight.concat (Decidable.of_not_not directory) isName) (fun target link => ?_)
      (fun name mem => noSlash name (List.mem_cons_of_mem _ mem)) walked
    exact other target (Option.some.inj (node.symm.trans link))

/-- A walk that succeeds, from a directory that is straight if it is there. -/
theorem leads_of_walkFar {path : Text} (rooted : t.isDirectoryAt here = true → t.IsStraight here)
    (walked : t.walkFar p here path = .ok place) : t.Leads p place := by
  unfold walkFar at walked
  split at walked
  · cases walked
  · split at walked
    · cases walked
    · rename_i some_path
      split at walked
      · rename_i place' followed
        cases walked
        have noSlash : ∀ name ∈ components path, '/' ∉ name := fun _ => notMem_of_mem_components
        split at followed
        · exact leads_of_follow t.isStraight_nil (noLink_of_isDirectoryAt t.isDirectoryAt_nil) noSlash followed
        · -- The first step asks for a directory already.
          obtain ⟨name, rest, names⟩ := List.exists_cons_of_ne_nil (components_ne_nil some_path)
          have directory : t.isDirectoryAt here = true := by
            rw [names, follow] at followed
            split at followed
            · cases followed
            · split at followed
              · cases followed
              · rename_i directory
                exact Decidable.of_not_not directory
          exact leads_of_follow (rooted directory) (noLink_of_isDirectoryAt directory) noSlash followed
      · cases walked

/-- The next name on the way to a straight location is the last one, or a directory. -/
theorem IsStraight.next (straight : t.IsStraight (spot ++ name :: rest)) (node : t.get (spot ++ name :: rest) = some n)
    (noLink : t.NoLink (spot ++ name :: rest)) :
    ∃ m, t.get (spot ++ [name]) = some m ∧ ∀ target, m ≠ .link target := by
  cases rest with
  | nil => exact ⟨n, node, fun target link => noLink target (link ▸ node)⟩
  | cons other others =>
    have split : spot ++ name :: other :: others = (spot ++ [name]) ++ other :: others := by simp
    have directory := straight.directories (spot.length + 1) (by simp)
    rw [split, List.take_left' (by simp)] at directory
    exact ⟨.directory, by simpa [isDirectoryAt] using directory, by simp⟩

/-- The names of a straight location lead there. -/
theorem follow_of_isStraight (straight : t.IsStraight (spot ++ names)) (node : t.get (spot ++ names) = some n)
    (noLink : t.NoLink (spot ++ names)) : t.follow p links spot names = .ok (.found (spot ++ names) n) := by
  induction names generalizing spot with
  | nil =>
    rw [List.append_nil] at node ⊢
    simp [follow, node]
  | cons name rest ih =>
    have split : spot ++ name :: rest = (spot ++ [name]) ++ rest := by simp
    have isName : ∀ other ∈ name :: rest, IsName other := fun other mem =>
      straight.names other (List.mem_append_right _ mem)
    have here := isName name List.mem_cons_self
    have directory : t.isDirectoryAt spot = true := by
      have directory := straight.directories spot.length (by simp)
      rwa [List.take_left] at directory
    have present : t.get spot ≠ none := by
      intro missing
      simp [isDirectoryAt, missing] at directory
    have notLast : ¬ (p = .create ∧ rest = [[]]) := by
      rintro ⟨-, rfl⟩
      exact (isName [] (by simp)).ne_nil rfl
    obtain ⟨m, found, notLink⟩ := straight.next node noLink
    rw [follow, if_neg present, if_neg (by simpa using directory), if_neg (by simp [here.notIdle]), if_neg here.notUp,
      if_neg notLast, if_neg (Nat.not_lt.2 here.short), found]
    rw [split] at straight node noLink ⊢
    cases m with
    | link target => exact absurd rfl (notLink target)
    | directory | file number | device d => exact ih straight node noLink

/-- The path of a straight location leads there, from wherever the walk starts. -/
theorem walkFar_path (straight : t.IsStraight l) (node : t.get l = some n) (noLink : t.NoLink l)
    (noNull : (Location.path l).contains (Char.ofNat 0) = false) (p : Purpose) (here : Location) :
    t.walkFar p here (Location.path l) = .ok (.found l n) := by
  have followed : t.follow p linkLimit [] (components (Location.path l)) = .ok (.found l n) := by
    by_cases root : l = []
    · -- The path of the root is a slash, so that its one component is empty.
      subst root
      obtain rfl : .directory = n := Option.some.inj node
      simp [components, Location.path, joinWith, splitAt, follow, get, isDirectoryAt, isIdle]
    · rw [components_path root straight.names]
      exact follow_of_isStraight (by simpa using straight) (by simpa using node) (by simpa using noLink)
  have absolute : isAbsolute (Location.path l) = true := rfl
  simp only [walkFar, noNull, absolute, if_true, followed]
  simp [Location.path]

/-- A path from the root is followed from there. -/
theorem walkFar_of_isAbsolute {path : Text} (absolute : isAbsolute path = true) (t : Tree) (p : Purpose)
    (here : Location) : t.walkFar p here path = t.walkFar p [] path := by
  simp only [walkFar, absolute, if_true]

/-- A path leads where its components lead. -/
theorem walkFar_eq_ok_iff {path : Text} :
    t.walkFar p here path = .ok place ↔ path.contains (Char.ofNat 0) = false ∧ path ≠ [] ∧
      t.follow p linkLimit (if isAbsolute path then [] else here) (components path) = .ok place := by
  unfold walkFar
  by_cases null : path.contains (Char.ofNat 0) = true
  · rw [if_pos null]
    exact iff_of_false nofun fun walked => absurd (null.symm.trans walked.1) (by simp)
  · rw [if_neg null, and_iff_right (by simpa using null)]
    by_cases empty : path = []
    · simp [empty]
    · rw [if_neg empty, and_iff_right empty]
      cases t.follow p linkLimit (if isAbsolute path then [] else here) (components path) <;> simp

/-- A path that is not too long is followed at once. -/
theorem walk_eq_ok_iff {path : Text} :
    t.walk p here path = .ok place ↔ (utf8 path).length < pathLimit ∧ t.walkFar p here path = .ok place := by
  unfold walk
  split
  · rename_i long
    exact iff_of_false (by simp) fun walked => Nat.not_le.2 walked.1 long.1
  · rename_i short
    constructor
    · intro walked
      refine ⟨Nat.lt_of_not_le fun long => ?_, walked⟩
      -- Only a path that holds a null character may be too long, and that leads nowhere.
      have null : path.contains (Char.ofNat 0) = true := Decidable.of_not_not fun noNull => short ⟨long, noNull⟩
      rw [walkFar, if_pos null] at walked
      cases walked
    · exact fun walked => walked.2

/-! ### Names looked up one by one -/

/-- A proper name behind another one does not ask for a directory there. -/
theorem wantsDirectory_of_isName (isName : ∀ name ∈ names, IsName name) : wantsDirectory names = false := by
  cases names with
  | nil => rfl
  | cons name rest =>
    have first := isName name List.mem_cons_self
    rw [wantsDirectory, List.dropWhile_cons_of_neg (by simp [first.notIdle])]
    simpa using first.notUp

/-- On the way to a straight location nothing longer is looked up than its own path. -/
theorem length_le_of_mem_lookups (straight : t.IsStraight (spot ++ names)) (node : t.get (spot ++ names) = some n)
    (noLink : t.NoLink (spot ++ names)) {lookup : Text} (mem : lookup ∈ t.lookups links spot names) :
    (utf8 lookup).length ≤ (utf8 (Location.path (spot ++ names))).length := by
  induction names generalizing spot with
  | nil =>
    rw [lookups] at mem
    cases mem
  | cons name rest ih =>
    have split : spot ++ name :: rest = (spot ++ [name]) ++ rest := by simp
    have isName : ∀ other ∈ name :: rest, IsName other := fun other mem =>
      straight.names other (List.mem_append_right _ mem)
    have here := isName name List.mem_cons_self
    have plain := wantsDirectory_of_isName fun other mem => isName other (List.mem_cons_of_mem _ mem)
    obtain ⟨m, found, notLink⟩ := straight.next node noLink
    rw [split] at straight node noLink ⊢
    have looked : t.lookups links spot (name :: rest) =
        Location.path (spot ++ [name]) :: t.lookups links (spot ++ [name]) rest := by
      rw [lookups, if_neg (by simp [here.notIdle]), if_neg here.notUp, found]
      cases m with
      | link target => exact absurd rfl (notLink target)
      | directory | file number | device d => simp [plain]
    rw [looked] at mem
    rcases List.mem_cons.1 mem with rfl | mem
    · exact length_path_le _ _
    · exact ih straight node noLink mem

/-- The path of a straight location can be resolved if the system takes it at once. -/
theorem inReach_path (straight : t.IsStraight l) (node : t.get l = some n) (noLink : t.NoLink l)
    (short : (utf8 (Location.path l)).length < pathLimit) (here : Location) : t.InReach here (Location.path l) := by
  have absolute : isAbsolute (Location.path l) = true := rfl
  intro lookup mem
  rw [absolute, if_pos rfl] at mem
  by_cases root : l = []
  · subst root
    simp [components, Location.path, joinWith, splitAt, lookups, isIdle] at mem
  · rw [components_path root straight.names] at mem
    have le : (utf8 lookup).length ≤ (utf8 (Location.path ([] ++ l))).length :=
      length_le_of_mem_lookups (by simpa using straight) (by simpa using node) (by simpa using noLink) mem
    rw [List.nil_append] at le
    omega

/-- A path from the root is resolved from there. -/
theorem inReach_of_isAbsolute {path : Text} (absolute : isAbsolute path = true) (t : Tree) (here here' : Location) :
    t.InReach here path ↔ t.InReach here' path := by
  simp only [InReach, absolute, if_true]

end Tree

end PipeShell
