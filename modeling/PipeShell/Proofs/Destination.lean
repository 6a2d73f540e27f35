import PipeShell.Proofs.Host.Canonical
import PipeShell.Proofs.Host.Parent
import PipeShell.Proofs.Run.Dialogue

/-!
# Where `cd` goes

The destination of `cd` is the home directory, a path below it, or a path from the working directory of the shell
(`Builtin.Goes.home`, `Builtin.Goes.below`, `Builtin.Goes.other`).  If it is there and is a directory (`Host.IsGoal`),
`cd` goes to its path from the root without a word; else it stays and complains (`Builtin.course_of_changeDirectory`).
An absolute path behind `~/` is no path below the home directory: it is taken as it is (`Builtin.Goes.astray`).
-/

namespace PipeShell

namespace Host

variable {h h' : Host} {destination path : Text}

/-- The destination is there and is a directory, and this is its path from the root, without links.  The names on such a
path hold no null character, and the system takes the path at once, as it does those of the names on the way. -/
structure IsGoal (h : Host) (destination path : Text) : Prop where
  leads : ∃ l, h.tree.walkFar .use h.here destination = .ok (.found l .directory) ∧ path = Location.path l
  inReach : h.tree.InReach h.here destination
  noNull : path.contains (Char.ofNat 0) = false
  short : (utf8 path).length < pathLimit

theorem isGoal_iff (rooted : h.Rooted) :
    h.IsGoal destination path ↔ h.canonical? destination = some path ∧ h.isDirectory path = true := by
  constructor
  · rintro ⟨⟨l, walked, rfl⟩, inReach, noNull, short⟩
    refine ⟨canonical?_eq_some_iff.2 ⟨inReach, l, _, walked, rfl⟩, isDirectory_iff.2 ⟨short, l, ?_⟩⟩
    cases Tree.leads_of_walkFar rooted walked with
    | found straight node =>
      have directory : h.tree.isDirectoryAt l = true := by simp [Tree.isDirectoryAt, node]
      exact Tree.walkFar_path straight node (Tree.noLink_of_isDirectoryAt directory) noNull _ _
  · rintro ⟨canonical, isDirectory⟩
    obtain ⟨inReach, l, n, walked, rfl⟩ := canonical?_eq_some_iff.1 canonical
    obtain ⟨short, l', walked'⟩ := isDirectory_iff.1 isDirectory
    have noNull := noNull_of_walkFar walked'
    cases Tree.leads_of_walkFar rooted walked with
    | found straight node through =>
      have noLink : h.tree.NoLink l := through.resolve_left (by decide)
      cases (Tree.walkFar_path straight node noLink noNull _ _).symm.trans walked'
      exact ⟨⟨l, walked, rfl⟩, inReach, noNull, short⟩

theorem IsGoal.isCanonicalDirectory (goal : h.IsGoal destination path) (rooted : h.Rooted) :
    h.IsCanonicalDirectory path := by
  obtain ⟨canonical, isDirectory⟩ := (isGoal_iff rooted).1 goal
  exact isCanonicalDirectory_of_canonical? rooted canonical isDirectory

/-- The path of a canonical directory leads there. -/
theorem IsCanonicalDirectory.isGoal (canonical : h.IsCanonicalDirectory path) (rooted : h.Rooted) :
    h.IsGoal path path :=
  (isGoal_iff rooted).2 (isCanonicalDirectory_iff.1 canonical)

/-- A destination has one canonical path. -/
theorem IsGoal.unique {path' : Text} (goal : h.IsGoal destination path) (goal' : h.IsGoal destination path') :
    path' = path := by
  obtain ⟨l, walked, rfl⟩ := goal.leads
  obtain ⟨l', walked', rfl⟩ := goal'.leads
  cases walked.symm.trans walked'
  rfl

/-- Where relative paths start from does not matter to an absolute destination. -/
theorem isGoal_of_isAbsolute (absolute : isAbsolute destination = true) (tree : h'.tree = h.tree) :
    h'.IsGoal destination path ↔ h.IsGoal destination path := by
  have same : h'.tree.walkFar .use h'.here destination = h.tree.walkFar .use h.here destination := by
    rw [tree, Tree.walkFar_of_isAbsolute absolute, Tree.walkFar_of_isAbsolute absolute _ _ h.here]
  have reach : h'.tree.InReach h'.here destination ↔ h.tree.InReach h.here destination := by
    rw [tree, Tree.inReach_of_isAbsolute absolute _ _ h.here]
  constructor
  · exact fun ⟨leads, inReach, noNull, short⟩ => ⟨same ▸ leads, reach.1 inReach, noNull, short⟩
  · exact fun ⟨leads, inReach, noNull, short⟩ => ⟨same.symm ▸ leads, reach.2 inReach, noNull, short⟩

end Host

/-! ### Courses on one host -/

namespace Answered

/-- A look at the host. -/
def IsLook : Answered → Prop
  | .saw _ => True
  | _ => False

/-- Whatever is seen of the host, it has these directories, and relative paths start from the same of them. -/
def See (h : Host) (answers : List Answered) : Prop :=
  ∀ host, .saw host ∈ answers → host.tree = h.tree ∧ host.here = h.here

end Answered

theorem Host.canonical?_congr {h h' : Host} (tree : h'.tree = h.tree) (here : h'.here = h.here) (path : Text) :
    h'.canonical? path = h.canonical? path := by
  unfold canonical?
  rw [tree, here]

theorem Host.isDirectory_congr {h h' : Host} (tree : h'.tree = h.tree) (here : h'.here = h.here) (path : Text) :
    h'.isDirectory path = h.isDirectory path := by
  unfold isDirectory node? walk
  rw [tree, here]

/-- Output moves no directories. -/
theorem Outlet.seen_of_write {o o' : Outlet} {h h' : Host} {data : Bytes} (written : o.write h data = .ok (o', h')) :
    h'.tree = h.tree ∧ h'.here = h.here := by
  rcases o with c | d
  · simp only [write] at written
    cases taken : c.write data <;> rw [taken] at written <;> cases written
    exact ⟨rfl, rfl⟩
  · simp only [write] at written
    cases taken : h.write d data <;> rw [taken] at written <;> cases written
    have same := Host.scene_of_write taken
    have tree : h'.scene.tree = h.scene.tree := congrArg _ same
    have here : h'.scene.here = h.scene.here := congrArg _ same
    exact ⟨tree, here⟩

theorem Surroundings.seen_of_write {w w' : Surroundings} {stream : StdStream} {data : Bytes}
    (written : w.write stream data = .ok w') : w'.host.tree = w.host.tree ∧ w'.host.here = w.host.here := by
  cases stream with
  | out =>
    simp only [write] at written
    cases taken : w.out.write w.host data <;> rw [taken] at written <;> cases written
    exact Outlet.seen_of_write taken
  | err =>
    simp only [write] at written
    cases taken : w.err.write w.host data <;> rw [taken] at written <;> cases written
    exact Outlet.seen_of_write taken

/-- A program that only looks at the host goes through a course when it runs alone. -/
theorem Act.Looks.exists_course {ρ : Type} {R : Host → Host → Prop} {act : Act ρ} (looks : act.Looks R)
    (w : Surroundings) : ∃ answers, act.Course answers (.done (act.runAlone w).1) ∧ Answered.See w.host answers := by
  -- The surroundings give each answer; from one to the next they change by what is read and written only.
  induction looks generalizing w with
  | done result => exact ⟨[], .start, nofun⟩
  | @read limit next _ ih =>
    simp only [runAlone]
    split
    · rename_i data input _
      obtain ⟨answers, course, see⟩ := ih data { w with input }
      exact ⟨.got data :: answers, (Heeds.got data).cons course, fun host mem => see host (by simpa using mem)⟩
    · obtain ⟨answers, course, see⟩ := ih [] w
      exact ⟨.got [] :: answers, (Heeds.got []).cons course, fun host mem => see host (by simpa using mem)⟩
  | @write stream data next _ ih =>
    simp only [runAlone]
    split
    · rename_i w' written
      obtain ⟨tree, here⟩ := Surroundings.seen_of_write written
      obtain ⟨answers, course, see⟩ := ih none w'
      refine ⟨.wrote stream data none :: answers, (Heeds.wrote none).cons course, fun host mem => ?_⟩
      rw [← tree, ← here]
      exact see host (by simpa using mem)
    · rename_i fault _
      obtain ⟨answers, course, see⟩ := ih (some fault) w
      exact ⟨.wrote stream data (some fault) :: answers, (Heeds.wrote _).cons course,
        fun host mem => see host (by simpa using mem)⟩
  | @ask next _ _ ih =>
    obtain ⟨answers, course, see⟩ := ih w.host w
    refine ⟨.saw w.host :: answers, (Heeds.saw w.host).cons course, fun host mem => ?_⟩
    rcases List.mem_cons.1 mem with same | mem
    · cases same
      exact ⟨rfl, rfl⟩
    · exact see host mem

/-! ### The destination -/

namespace Builtin

variable {ctx : Context} {operand : Option Text} {h : Host} {answers : List Answered} {reply : Reply}

theorem cdDestination_other {target : Text} (some_target : target ≠ []) (notHome : target ≠ ['~'])
    (notBelow : ∀ rest, target ≠ '~' :: '/' :: rest) :
    cdDestination ctx (some target) = some (joinPath ctx.cwd target) := by
  rw [cdDestination]
  · exact some_target
  · exact notHome
  · exact notBelow

/-- From an absolute working directory, and with an absolute home, every destination is absolute. -/
theorem isAbsolute_cdDestination {destination : Text} (cwd : isAbsolute ctx.cwd = true)
    (home : ∀ home, ctx.home = some home → isAbsolute home = true)
    (goes : cdDestination ctx operand = some destination) : isAbsolute destination = true := by
  unfold cdDestination at goes
  split at goes
  · exact home _ goes
  · exact home _ goes
  · exact home _ goes
  · obtain ⟨base, set, rfl⟩ := Option.map_eq_some_iff.1 goes
    exact isAbsolute_joinPath (home base set) _
  · cases goes
    exact isAbsolute_joinPath cwd _

/-- What `cd` says when it does not go anywhere. -/
structure Complains (operand : Option Text) (answers : List Answered) : Prop where
  /-- Nothing is written but on the standard error. -/
  on : ∀ answer ∈ answers, answer.IsLook ∨ answer.IsOn .err
  /-- All that is written is one message, and a line end. -/
  line : (∀ answer ∈ answers, answer.fault? = none) → ∃ message : Text,
    answers.flatMap Answered.written = utf8 (message ++ ['\n']) ∧ ('\n' ∉ operand.getD [] → '\n' ∉ message)

/-- A failure is a complaint. -/
theorem complains_of_fail {message : List Text} (course : (fail message).Course answers (.done reply))
    (plain : '\n' ∉ operand.getD [] → '\n' ∉ message.flatten) :
    reply = { status := 1 } ∧ Complains operand answers := by
  obtain ⟨same, on, say⟩ := course_of_fail course
  exact ⟨same, fun answer mem => .inr (on answer mem), fun taken => ⟨message.flatten, (say taken).written, plain⟩⟩

/-- A look at the host before it does not change what a complaint is. -/
theorem Complains.saw (complains : Complains operand answers) (host : Host) :
    Complains operand (.saw host :: answers) where
  on := List.forall_mem_cons.2 ⟨.inl trivial, complains.on⟩
  line taken := complains.line (List.forall_mem_cons.1 taken).2

/-- `cd` goes to a destination that is a directory, and complains about any other. -/
theorem course_of_changeDirectory {shown destination : Text} (rooted : h.Rooted) (see : Answered.See h answers)
    (shows : '\n' ∉ operand.getD [] → '\n' ∉ shown)
    (course : (changeDirectory shown destination).Course answers (.done reply)) :
    (∃ path, h.IsGoal destination path ∧ reply = { directory := some path } ∧ ∀ answer ∈ answers, answer.IsLook) ∨
      (∀ path, ¬ h.IsGoal destination path) ∧ reply = { status := 1 } ∧ Complains operand answers := by
  -- The first look is for the canonical path, and the second one for a directory there.
  obtain ⟨host, rest, rfl, after⟩ := Act.Course.of_ask course
  obtain ⟨tree, here⟩ := see host List.mem_cons_self
  rw [Host.canonical?_congr tree here] at after
  split at after
  · rename_i missing
    obtain ⟨same, complains⟩ := complains_of_fail after fun plain => by simpa using shows plain
    refine .inr ⟨fun path goal => ?_, same, complains.saw host⟩
    have canonical := ((Host.isGoal_iff rooted).1 goal).1
    cases missing.symm.trans canonical
  · rename_i path canonical
    obtain ⟨host', rest', rfl, last⟩ := Act.Course.of_ask after
    obtain ⟨tree, here⟩ := see host' (by simp)
    rw [Host.isDirectory_congr tree here] at last
    split at last
    · rename_i isDirectory
      obtain ⟨rfl, same⟩ := last.of_done
      cases same
      exact .inl ⟨path, (Host.isGoal_iff rooted).2 ⟨canonical, isDirectory⟩, rfl, by simp [Answered.IsLook]⟩
    · rename_i notDirectory
      obtain ⟨same, complains⟩ := complains_of_fail last fun plain => by simpa using shows plain
      refine .inr ⟨fun path' goal => ?_, same, (complains.saw host').saw host⟩
      obtain ⟨canonical', isDirectory⟩ := (Host.isGoal_iff rooted).1 goal
      cases canonical.symm.trans canonical'
      exact notDirectory isDirectory

/-- What `cd` does with an operand on a host. -/
structure Goes (call : Call) (operand : Option Text) (h : Host) : Prop where
  /-- No operand, an empty one and a tilde stand for the home directory. -/
  home : operand.getD [] = [] ∨ operand = some ['~'] → cdDestination call.context operand = call.context.home
  /-- A path behind a tilde and a slash needs a home directory too. -/
  homeless : ∀ {rest : Text}, operand = some ('~' :: '/' :: rest) → call.context.home = none →
    cdDestination call.context operand = none
  /-- If it is relative, it is put behind the home directory, with one slash between them … -/
  below : ∀ {home rest : Text}, operand = some ('~' :: '/' :: rest) → isAbsolute rest = false →
    call.context.home = some home →
      (∃ front, (home = front ∨ home = front ++ ['/']) ∧
        cdDestination call.context operand = some (front ++ '/' :: rest)) ∨
      home = [] ∧ cdDestination call.context operand = some rest
  /-- … and leads where it leads from there, after the links on the way. -/
  follows : ∀ {home rest : Text} {l : Location}, operand = some ('~' :: '/' :: rest) → isAbsolute rest = false →
    call.context.home = some home → h.tree.walkFar .use h.here home = .ok (.found l .directory) →
      ∃ destination, cdDestination call.context operand = some destination ∧ ∃ links ≤ linkLimit, ∀ place,
        h.tree.walkFar .use h.here destination = .ok place ↔
          rest.contains (Char.ofNat 0) = false ∧ h.tree.follow .use links l (components rest) = .ok place
  /-- If it is absolute, it is taken as it is, whatever the home directory. -/
  astray : ∀ {home rest : Text}, operand = some ('~' :: '/' :: rest) → isAbsolute rest = true →
    call.context.home = some home → cdDestination call.context operand = some rest
  /-- Any other operand is followed from the working directory of the shell. -/
  other : ∀ {target : Text}, operand = some target → target ≠ [] → target ≠ ['~'] →
    (∀ rest, target ≠ '~' :: '/' :: rest) → cdDestination call.context operand = some (joinPath call.context.cwd target)
  /-- A destination is absolute, unless the home directory is not. -/
  absolute : ∀ {destination : Text}, isAbsolute call.context.cwd = true →
    (∀ home, call.context.home = some home → isAbsolute home = true) →
      cdDestination call.context operand = some destination → isAbsolute destination = true
  /-- So it does not matter where the system would start from. -/
  anywhere : ∀ {destination path : Text} {h' : Host}, isAbsolute destination = true → h'.tree = h.tree →
    (h'.IsGoal destination path ↔ h.IsGoal destination path)
  /-- If the destination is there and is a directory, `cd` goes to it without a word. -/
  goes : ∀ {destination path : Text} {answers : List Answered} {reply : Reply},
    (cd.run call).Course answers (.done reply) → Answered.See h answers →
      cdDestination call.context operand = some destination → h.IsGoal destination path →
        reply = { directory := some path } ∧ h.IsCanonicalDirectory path ∧ ∀ answer ∈ answers, answer.IsLook
  /-- Else it stays and complains. -/
  stays : ∀ {answers : List Answered} {reply : Reply},
    (cd.run call).Course answers (.done reply) → Answered.See h answers →
      (∀ destination path, cdDestination call.context operand = some destination → ¬ h.IsGoal destination path) →
        reply = { status := 1 } ∧ Complains operand answers
  /-- It comes to its end with a reply, whatever there is beside these directories. -/
  ends : ∀ w : Surroundings, w.host.tree = h.tree → w.host.here = h.here →
    ∃ answers, (cd.run call).Course answers (.done ((cd.run call).runAlone w).1) ∧ Answered.See h answers

theorem run_cd {call : Call} (accepted : cdForm.read none call.argv.tail = .accepted operand) :
    cd.run call =
      match cdDestination call.context operand with
      | none => fail ["cd: HOME not set".toList]
      | some destination => changeDirectory (operand.getD ['~']) destination := by
  cases destination : cdDestination call.context operand <;> simp only [cd, ofForm, accepted, destination]

/-- The course of `cd` to its destination. -/
theorem course_of_cd {call : Call} {destination : Text} (accepted : cdForm.read none call.argv.tail = .accepted operand)
    (rooted : h.Rooted) (see : Answered.See h answers) (course : (cd.run call).Course answers (.done reply))
    (goes : cdDestination call.context operand = some destination) :
    (∃ path, h.IsGoal destination path ∧ reply = { directory := some path } ∧ ∀ answer ∈ answers, answer.IsLook) ∨
      (∀ path, ¬ h.IsGoal destination path) ∧ reply = { status := 1 } ∧ Complains operand answers := by
  rw [run_cd accepted, goes] at course
  refine course_of_changeDirectory rooted see (fun plain => ?_) course
  cases operand with
  | none => simp
  | some target => exact plain

/-- In its surroundings `cd` comes to an end. -/
theorem exists_course_cd (call : Call) {w : Surroundings} (tree : w.host.tree = h.tree) (here : w.host.here = h.here) :
    ∃ answers, (cd.run call).Course answers (.done ((cd.run call).runAlone w).1) ∧ Answered.See h answers := by
  have looks : (cd.run call).Looks Eq := cd_looks (by rintro h _ path rfl; rfl) (by rintro h _ path rfl; rfl)
  obtain ⟨answers, course, see⟩ := looks.exists_course w
  exact ⟨answers, course, fun host mem => ⟨(see host mem).1.trans tree, (see host mem).2.trans here⟩⟩

/-- **`cd` goes to its destination if that is a directory, and else it stays**: what it does for every operand. -/
theorem cd_goes {call : Call} (accepted : cdForm.read none call.argv.tail = .accepted operand) (rooted : h.Rooted) :
    Goes call operand h where
  home stands := by
    rcases stands with empty | rfl
    · rcases operand with _ | target
      · rfl
      · obtain rfl : target = [] := empty
        rfl
    · rfl
  homeless := by
    rintro rest rfl none
    rw [cdDestination, none]
    rfl
  below := by
    rintro home rest rfl relative set
    rw [cdDestination, set, Option.map_some]
    by_cases empty : home = []
    · subst empty
      exact .inr ⟨rfl, by simp [joinPath, relative]⟩
    · obtain ⟨front, joined, front_eq⟩ := joinPath_of_not_isAbsolute empty relative
      exact .inl ⟨front, front_eq, by rw [joined]⟩
  follows := by
    rintro home rest l rfl relative set leads
    exact ⟨joinPath home rest, by rw [cdDestination, set, Option.map_some], Tree.walkFar_joinPath leads relative⟩
  astray := by
    rintro home rest rfl absolute set
    rw [cdDestination, set, Option.map_some, joinPath_of_isAbsolute absolute]
  other := by
    rintro target rfl some_target notHome notBelow
    exact cdDestination_other some_target notHome notBelow
  absolute := isAbsolute_cdDestination
  anywhere absolute tree := Host.isGoal_of_isAbsolute absolute tree
  goes course see destination goal := by
    rcases course_of_cd accepted rooted see course destination with ⟨path, goal', same, looks⟩ | ⟨none, -⟩
    · rw [goal.unique goal'] at same
      exact ⟨same, goal.isCanonicalDirectory rooted, looks⟩
    · exact absurd goal (none _)
  stays course see nowhere := by
    cases destination : cdDestination call.context operand with
    | some target =>
      rcases course_of_cd accepted rooted see course destination with ⟨path, goal, -⟩ | ⟨-, failed⟩
      · exact absurd goal (nowhere _ path destination)
      · exact failed
    | none =>
      rw [run_cd accepted, destination] at course
      exact complains_of_fail course fun _ => by decide
  ends _ tree here := exists_course_cd call tree here

/-! ### A home directory -/

/-- A host with a directory `h`. -/
def settled : Host := { tree := ⟨[([['h']], .directory)]⟩ }

/-- The shell at the root, with that directory as home. -/
def atHome : Context := { cwd := ['/'], home := some ['/', 'h'] }

theorem settled_rooted : settled.Rooted := fun _ => settled.tree.isStraight_nil

theorem settled_isStraight : settled.tree.IsStraight [['h']] :=
  settled.tree.isStraight_singleton ⟨by decide, by decide, by decide, by decide⟩

theorem settled_isCanonicalDirectory : settled.IsCanonicalDirectory ['/', 'h'] :=
  ⟨⟨[['h']], rfl, settled_isStraight, rfl⟩, by decide, by decide⟩

theorem settled_walkFar : settled.tree.walkFar .use [] ['/', 'h'] = .ok (.found [['h']] .directory) :=
  Tree.walkFar_path settled_isStraight rfl (Tree.noLink_of_isDirectoryAt rfl) (by decide) _ _

/-- On the way to the home directory one name is looked up. -/
theorem settled_lookups : settled.tree.lookups linkLimit [] [['h'], []] = [['/', 'h', '/']] := by
  have home : settled.tree.get [['h']] = some .directory := rfl
  simp [Tree.lookups, Tree.wantsDirectory, Location.path, joinWith, isIdle, home]

theorem settled_inReach {destination : Text} (absolute : isAbsolute destination = true)
    (names : components destination = [['h'], []]) : settled.tree.InReach settled.here destination := by
  rw [Tree.InReach, absolute, if_pos rfl, names, settled_lookups]
  decide

/-- Behind two dashes any text is an operand. -/
theorem cdForm_accepts (target : Text) : cdForm.read none [['-', '-'], target] = .accepted (some target) :=
  rfl

/-- From there `cd -- ~/` goes home. -/
theorem cd_goes_home :
    cdForm.read none [['-', '-'], ['~', '/']] = .accepted (some ['~', '/']) ∧ settled.Rooted ∧
      Goes ⟨["cd".toList, ['-', '-'], ['~', '/']], atHome, []⟩ (some ['~', '/']) settled ∧
      ((cd.run ⟨["cd".toList, ['-', '-'], ['~', '/']], atHome, []⟩).runAlone { host := settled }).1 =
        { directory := some ['/', 'h'] } := by
  have accepted := cdForm_accepts ['~', '/']
  have goes : Goes ⟨["cd".toList, ['-', '-'], ['~', '/']], atHome, []⟩ (some ['~', '/']) settled :=
    cd_goes accepted settled_rooted
  obtain ⟨answers, course, see⟩ := goes.ends { host := settled } rfl rfl
  obtain ⟨destination, destination_eq, links, -, leads⟩ := goes.follows rfl rfl rfl settled_walkFar
  have inReach : settled.tree.InReach settled.here destination := by
    obtain rfl : ['/', 'h', '/'] = destination := Option.some.inj destination_eq
    exact settled_inReach rfl (by decide)
  have goal : settled.IsGoal destination ['/', 'h'] :=
    ⟨⟨[['h']], (leads _).2 ⟨rfl, Tree.follow_of_idle rfl (by decide)⟩, rfl⟩, inReach, by decide, by decide⟩
  exact ⟨accepted, settled_rooted, goes, (goes.goes course see destination_eq goal).1⟩

/-- What is written behind the home directory is not always followed from it: here it begins with a slash. -/
theorem not_forall_below :
    ¬ ∀ (h : Host) (call : Call) (home rest path : Text), h.Rooted → isAbsolute call.context.cwd = true →
      cdForm.read none call.argv.tail = .accepted (some ('~' :: '/' :: rest)) → call.context.home = some home →
        h.IsGoal (home ++ '/' :: rest) path →
          ((cd.run call).runAlone { host := h }).1 = { directory := some path } := by
  intro always
  have home : settled.IsGoal (['/', 'h'] ++ '/' :: ['/']) ['/', 'h'] := by
    obtain ⟨-, -, followed⟩ := Tree.walkFar_eq_ok_iff.1 settled_walkFar
    obtain ⟨links, -, goes_on⟩ : ∃ links ≤ linkLimit,
        settled.tree.follow .use linkLimit [] (components ['/', 'h'] ++ [[]]) =
          settled.tree.follow .use links [['h']] [[]] := Tree.follow_append followed (by decide) (by simp)
    have stays : settled.tree.follow .use links [['h']] [[]] = .ok (.found [['h']] .directory) :=
      Tree.follow_of_idle rfl (by decide)
    have walked : settled.tree.walkFar .use [] (['/', 'h'] ++ '/' :: ['/']) = .ok (.found [['h']] .directory) :=
      Tree.walkFar_eq_ok_iff.2 ⟨by decide, by decide, goes_on.trans stays⟩
    exact ⟨⟨[['h']], walked, rfl⟩, settled_inReach rfl (by decide), by decide, by decide⟩
  have root : settled.IsGoal ['/'] ['/'] := settled.isCanonicalDirectory_root.isGoal settled_rooted
  have replied := always settled ⟨["cd".toList, ['~', '/', '/']], atHome, []⟩ _ ['/'] _ settled_rooted rfl rfl rfl home
  obtain ⟨answers, course, see⟩ := exists_course_cd ⟨["cd".toList, ['~', '/', '/']], atHome, []⟩
    (h := settled) (w := { host := settled }) rfl rfl
  rcases course_of_cd rfl settled_rooted see course rfl with ⟨path, goal, same, -⟩ | ⟨nowhere, -⟩
  · rw [replied, root.unique goal] at same
    cases same
  · exact nowhere _ root

end Builtin

end PipeShell
