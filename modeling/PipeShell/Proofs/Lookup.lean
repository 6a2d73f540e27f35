import Mathlib.Logic.ExistsUnique
import PipeShell.Lookup
import PipeShell.Proofs.Host.Walk

/-!
# Programs by name

Where is a program looked up, and which one is found?  The entries of a search path are what stands between its colons
(`Environment.HasEntries`), and the empty ones among them say nothing.  A name without slash is looked up in the other
entries in turn, and the first entry that has a program of this name settles the matter (`Host.looksUp`): no entry behind
it counts, and neither does the working directory, unless an entry leads there.
-/

namespace PipeShell

/-! ### Joined paths -/

/-- What is joined to a path stands behind a slash, unless it is absolute. -/
theorem slash_mem_joinPath {base : Text} (some_base : base ≠ []) (path : Text) : '/' ∈ joinPath base path := by
  by_cases absolute : isAbsolute path = true
  · rw [joinPath_of_isAbsolute absolute]
    cases path with
    | nil => cases absolute
    | cons c rest =>
      obtain rfl : c = '/' := by simpa [isAbsolute] using absolute
      exact List.mem_cons_self
  · obtain ⟨front, joined, -⟩ := joinPath_of_not_isAbsolute some_base (by simpa using absolute)
    simp [joined]

theorem joinPath_ne_nil {base path : Text} (some_path : path ≠ []) : joinPath base path ≠ [] := by
  unfold joinPath
  split
  · exact some_path
  · split <;> simp [some_path]

theorem mem_joinPath {base path : Text} {c : Char} (mem : c ∈ path) : c ∈ joinPath base path := by
  unfold joinPath
  split
  · exact mem
  · split <;> simp [mem]

/-! ### The entries of a search path -/

namespace Environment

variable {e e' : Environment} {entries : List Text}

/-- The entries of the search path, as they stand between its colons. -/
structure HasEntries (e : Environment) (entries : List Text) : Prop where
  some_entry : entries ≠ []
  noColon : ∀ entry ∈ entries, ':' ∉ entry
  value : (e.get? "PATH".toList).getD [] = joinWith [':'] entries

/-- The path under which a name is looked up for an entry of the search path. -/
def under (e : Environment) (entry name : Text) : Text := joinPath (joinPath e.directory entry) name

theorem under_eq (directory : e'.directory = e.directory) : e'.under = e.under := by
  unfold under
  rw [directory]

theorem HasEntries.splitAt_eq (has : e.HasEntries entries) :
    splitAt ':' ((e.get? "PATH".toList).getD []) = entries := by
  rw [has.value, splitAt_joinWith has.some_entry has.noColon]

/-- Every search path has entries, and in one way. -/
theorem existsUnique_hasEntries (e : Environment) : ∃! entries, e.HasEntries entries :=
  ⟨splitAt ':' ((e.get? "PATH".toList).getD []),
    ⟨splitAt_ne_nil _ _, fun _ => notMem_of_mem_splitAt, (joinWith_splitAt _ _).symm⟩,
    fun _ has => has.splitAt_eq.symm⟩

end Environment

/-! ### Programs -/

/-- The execute bits are the first of each class. -/
theorem testBit_execute {i : Nat} : (0o111 : Nat).testBit i = true ↔ i = 0 ∨ i = 3 ∨ i = 6 := by
  constructor
  · intro bit
    have low : i < 7 := Decidable.of_not_not fun high => by
      have small : 0o111 < 2 ^ i := Nat.lt_of_lt_of_le (by decide) (Nat.pow_le_pow_right (by decide) (Nat.not_lt.1 high))
      rw [Nat.testBit_lt_two_pow small] at bit
      cases bit
    have bits : ∀ i < 7, (0o111 : Nat).testBit i = true → i = 0 ∨ i = 3 ∨ i = 6 := by decide
    exact bits i low bit
  · rintro (rfl | rfl | rfl) <;> rfl

theorem and_execute_ne_zero_iff (permissions : Nat) :
    permissions &&& 0o111 ≠ 0 ↔
      permissions.testBit 0 = true ∨ permissions.testBit 3 = true ∨ permissions.testBit 6 = true := by
  constructor
  · intro some_bit
    obtain ⟨i, bit⟩ := Nat.exists_testBit_of_ne_zero some_bit
    obtain ⟨set, execute⟩ : permissions.testBit i = true ∧ (0o111 : Nat).testBit i = true := by
      simpa [Nat.testBit_and] using bit
    rcases testBit_execute.1 execute with rfl | rfl | rfl
    · exact .inl set
    · exact .inr (.inl set)
    · exact .inr (.inr set)
  · intro set none
    have clear : ∀ i, (0o111 : Nat).testBit i = true → permissions.testBit i = false := by
      intro i execute
      have bit : (permissions &&& 0o111).testBit i = false := by simp [none]
      simpa [Nat.testBit_and, execute] using bit
    rcases set with set | set | set
    all_goals rw [clear _ rfl] at set
    all_goals cases set

namespace Host

variable {h : Host} {e e' : Environment} {name path entry : Text} {entries before after after' : List Text}

/-- The path leads, through all links, to a regular file that someone may execute. -/
def IsProgram (h : Host) (path : Text) : Prop :=
  ∃ l number file, h.walk .use path = .ok (.found l (.file number)) ∧ h.files[number]? = some file ∧
    (file.permissions.testBit 0 = true ∨ file.permissions.testBit 3 = true ∨ file.permissions.testBit 6 = true)

theorem isExecutable_iff : h.isExecutable path = true ↔ h.IsProgram path := by
  constructor
  · intro executable
    unfold isExecutable node? at executable
    rcases walked : h.walk .use path with fault | ⟨l, _ | number | device | target⟩ | ⟨directory, missing⟩ <;>
      rw [walked] at executable
    case ok.found.file =>
      -- What is not among the files counts as a file that nobody may execute.
      cases present : h.files[number]? with
      | none => simp [List.getD, present] at executable
      | some file =>
        have bits : file.permissions &&& 0o111 ≠ 0 := by simpa [List.getD, present] using executable
        exact ⟨l, number, file, walked, present, (and_execute_ne_zero_iff _).1 bits⟩
    all_goals cases executable
  · rintro ⟨l, number, file, walked, present, bits⟩
    simp [isExecutable, node?, walked, List.getD, present, (and_execute_ne_zero_iff _).2 bits]

/-! ### The lookup -/

theorem program?_nil : h.program? e.context [] = none := rfl

/-- An entry that is not empty has a program of this name. -/
def offers (h : Host) (e : Environment) (name entry : Text) : Bool :=
  entry ≠ [] && h.isExecutable (e.under entry name)

theorem offers_iff : h.offers e name entry = true ↔ entry ≠ [] ∧ h.IsProgram (e.under entry name) := by
  simp [offers, isExecutable_iff]

theorem offers_eq (directory : e'.directory = e.directory) : h.offers e' name = h.offers e name := by
  unfold offers
  rw [Environment.under_eq directory]

/-- A name with a slash is looked up once. -/
theorem program?_of_slash (slash : '/' ∈ name) :
    h.program? e.context name =
      if h.isExecutable (joinPath e.directory name) = true then some (joinPath e.directory name) else none := by
  have some_name : name ≠ [] := List.ne_nil_of_mem slash
  simp [program?, Context.candidates, some_name, slash, List.find?_singleton, Environment.context]

/-- Any other name is looked up entry by entry. -/
theorem program?_of_noSlash (some_name : name ≠ []) (noSlash : '/' ∉ name) (has : e.HasEntries entries) :
    h.program? e.context name =
      (entries.find? (h.offers e name)).map (e.under · name) := by
  have searchPath : e.context.searchPath = entries.filter (· ≠ []) := by
    rw [Environment.context, searchPathOf, has.splitAt_eq]
  have candidates : e.context.candidates name = (entries.filter (· ≠ [])).map (e.under · name) := by
    simp only [Context.candidates, some_name, if_false, List.contains_eq_mem, noSlash, decide_false, searchPath,
      List.filter_filter, Bool.and_self, Bool.false_eq_true]
    rfl
  have offers : (fun entry => decide (decide (entry ≠ []) = true ∧ h.isExecutable (e.under entry name) = true)) =
      h.offers e name := by
    funext entry
    simp [Host.offers]
  rw [program?, candidates, List.find?_map, List.find?_filter, ← offers]
  rfl

/-- What is found depends on the entries only up to the first that offers something. -/
theorem program?_eq_of_entries (has : e.HasEntries (before ++ entry :: after))
    (has' : e'.HasEntries (before ++ entry :: after')) (directory : e'.directory = e.directory) (counts : entry ≠ [])
    (program : h.IsProgram (e.under entry name)) : h.program? e'.context name = h.program? e.context name := by
  by_cases some_name : name = []
  · rw [some_name, program?_nil, program?_nil]
  · by_cases slash : '/' ∈ name
    · rw [program?_of_slash slash, program?_of_slash slash, directory]
    · have wins : h.offers e name entry = true := offers_iff.2 ⟨counts, program⟩
      rw [program?_of_noSlash some_name slash has, program?_of_noSlash some_name slash has', offers_eq directory,
        Environment.under_eq directory, List.find?_append, List.find?_append, List.find?_cons_of_pos wins,
        List.find?_cons_of_pos wins]

/-- Entries at the end do not take anything away. -/
theorem program?_append (has : e.HasEntries entries) (has' : e'.HasEntries (entries ++ after))
    (directory : e'.directory = e.directory) (found : h.program? e.context name = some path) :
    h.program? e'.context name = some path := by
  by_cases some_name : name = []
  · rw [some_name, program?_nil] at found
    cases found
  · by_cases slash : '/' ∈ name
    · rwa [program?_of_slash slash, directory, ← program?_of_slash slash]
    · rw [program?_of_noSlash some_name slash has] at found
      obtain ⟨entry, first, rfl⟩ := Option.map_eq_some_iff.1 found
      rw [program?_of_noSlash some_name slash has', offers_eq directory, Environment.under_eq directory,
        List.find?_append, first]
      rfl

/-- How a name is looked up in an environment. -/
structure LooksUp (h : Host) (e : Environment) (name : Text) : Prop where
  /-- The search path has its entries, and no others. -/
  entries : ∃! entries, e.HasEntries entries
  /-- The empty name is that of no program. -/
  unnamed : name = [] → h.program? e.context name = none
  /-- A name with a slash is a path from the working directory, whatever the search path says. -/
  direct : '/' ∈ name → ∀ path,
    h.program? e.context name = some path ↔ path = joinPath e.directory name ∧ h.IsProgram path
  /-- Any other name is looked up in the entries that are not empty, and the first one that has a program wins. -/
  searched : name ≠ [] → '/' ∉ name → ∀ entries, e.HasEntries entries → ∀ path,
    h.program? e.context name = some path ↔ ∃ before entry after, entries = before ++ entry :: after ∧ entry ≠ [] ∧
      path = joinPath (joinPath e.directory entry) name ∧ h.IsProgram path ∧
        ∀ other ∈ before, other ≠ [] → ¬ h.IsProgram (joinPath (joinPath e.directory other) name)
  /-- It is not found if none of them has one. -/
  missing : name ≠ [] → '/' ∉ name → ∀ entries, e.HasEntries entries →
    (h.program? e.context name = none ↔
      ∀ entry ∈ entries, entry ≠ [] → ¬ h.IsProgram (joinPath (joinPath e.directory entry) name))
  /-- What is found is never a bare name, which would be looked up again. -/
  slash : ∀ path, h.program? e.context name = some path → '/' ∈ path
  /-- The entries behind the one that wins can be exchanged for any others. -/
  settled : ∀ (e' : Environment) (before : List Text) (entry : Text) (after after' : List Text),
    e.HasEntries (before ++ entry :: after) → e'.HasEntries (before ++ entry :: after') →
      e'.directory = e.directory → entry ≠ [] → h.IsProgram (joinPath (joinPath e.directory entry) name) →
        h.program? e'.context name = h.program? e.context name
  /-- Entries can be added at the end. -/
  extended : ∀ (e' : Environment) (entries more : List Text), e.HasEntries entries → e'.HasEntries (entries ++ more) →
    e'.directory = e.directory → ∀ path, h.program? e.context name = some path →
      h.program? e'.context name = some path

/-- **A program is found under its path, or else in the first entry that has it.** -/
theorem looksUp (h : Host) (e : Environment) (name : Text) : h.LooksUp e name where
  entries := e.existsUnique_hasEntries
  unnamed := by
    rintro rfl
    exact program?_nil
  direct slash path := by
    rw [program?_of_slash slash]
    split
    · rename_i executable
      rw [isExecutable_iff] at executable
      exact ⟨fun same => Option.some.inj same ▸ ⟨rfl, executable⟩, fun ⟨same, _⟩ => same ▸ rfl⟩
    · rename_i other
      rw [isExecutable_iff] at other
      exact iff_of_false nofun fun ⟨same, executable⟩ => other (same ▸ executable)
  searched some_name noSlash entries has path := by
    simp only [program?_of_noSlash some_name noSlash has, Option.map_eq_some_iff, List.find?_eq_some_iff_append]
    constructor
    · rintro ⟨entry, ⟨wins, before, after, rfl, none_before⟩, rfl⟩
      obtain ⟨counts, executable⟩ := offers_iff.1 wins
      refine ⟨before, entry, after, rfl, counts, rfl, executable, fun other mem counts executable => ?_⟩
      have passed := none_before other mem
      rw [Bool.not_eq_true', ← Bool.not_eq_true] at passed
      exact passed (offers_iff.2 ⟨counts, executable⟩)
    · rintro ⟨before, entry, after, rfl, counts, rfl, executable, none_before⟩
      refine ⟨entry, ⟨offers_iff.2 ⟨counts, executable⟩, before, after, rfl, fun other mem => ?_⟩, rfl⟩
      rw [Bool.not_eq_true', ← Bool.not_eq_true, offers_iff]
      exact fun ⟨counts, executable⟩ => none_before other mem counts executable
  missing some_name noSlash entries has := by
    simp only [program?_of_noSlash some_name noSlash has, Option.map_eq_none_iff, List.find?_eq_none, offers_iff, not_and]
    rfl
  slash path found := by
    by_cases some_name : name = []
    · rw [some_name, program?_nil] at found
      cases found
    · by_cases slash : '/' ∈ name
      · rw [program?_of_slash slash] at found
        split at found
        · exact Option.some.inj found ▸ mem_joinPath slash
        · cases found
      · obtain ⟨entries, has, -⟩ := e.existsUnique_hasEntries
        rw [program?_of_noSlash some_name slash has] at found
        obtain ⟨entry, first, rfl⟩ := Option.map_eq_some_iff.1 found
        obtain ⟨counts, -⟩ := offers_iff.1 (List.find?_some first)
        exact slash_mem_joinPath (joinPath_ne_nil counts) name
  settled _ _ _ _ _ has has' directory counts program := program?_eq_of_entries has has' directory counts program
  extended _ _ _ has has' directory _ found := program?_append has has' directory found

end Host

end PipeShell
