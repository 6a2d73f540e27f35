import PipeShell.Arguments

/-!
# Words without a dash, and numbers as words

Words that do not begin with a dash are operands, one after the other, until one of them cannot be taken.  As long as
options may come, the word `help` is no operand but asks for usage, and it is heard only if there is no mistake
(`Form.readFrom_of_plain`, `Form.readFrom_of_greedy`); behind the end of the options it is an operand like any other
(`Form.readFrom_of_ended`).  A word is taken for a number of 32 bits if it spells one (`readInt32_eq_ok_iff`), as the
decimal digits of each of them do (`spells_showInt`).
-/

namespace PipeShell

/-! ### Operands -/

/-- The word that asks for usage without a dash. -/
def helpWord : Text := "help".toList

/-- None of the words begins with a dash. -/
def Plain (words : List Text) : Prop := ∀ word ∈ words, word.head? ≠ some '-'

namespace Form

variable {α : Type} {f : Form α} {helped : Bool} {a : α} {words rest : List Text} {word : Text}

/-- Takes in words as operands, until there is one that it cannot take. -/
def takeAll (f : Form α) (a : α) (words : List Text) : Except Text α := words.foldlM f.takeOperand a

/-- What operands come to when usage was asked for, or was not. -/
def outcome (helped : Bool) : Except Text α → Reading α
  | .error text => .mistake text
  | .ok a => if helped then .usage else .accepted a

@[simp] theorem takeAll_nil : f.takeAll a [] = .ok a := rfl

theorem takeAll_of_ok {b : α} (taken : f.takeOperand a word = .ok b) :
    f.takeAll a (word :: rest) = f.takeAll b rest := by
  simp only [takeAll, List.foldlM_cons, taken]
  rfl

theorem takeAll_of_error {text : Text} (refused : f.takeOperand a word = .error text) :
    f.takeAll a (word :: rest) = .error text := by
  simp only [takeAll, List.foldlM_cons, refused]
  rfl

/-- Behind the end of the options, all words are operands. -/
theorem readFrom_of_ended : f.readFrom helped true a words = outcome helped (f.takeAll a words) := by
  induction words generalizing a with
  | nil => rfl
  | cons word rest ih =>
    cases taken : f.takeOperand a word with
    | error text => simp [readFrom, taken, takeAll_of_error taken, outcome]
    | ok b => simp [readFrom, taken, takeAll_of_ok taken, ih]

theorem isHelp_iff_of_plain (plain : word.head? ≠ some '-') : isHelp word = true ↔ word = helpWord := by
  have noDash : word ≠ "--help".toList := by
    rintro rfl
    exact plain rfl
  unfold isHelp helpWord
  simp only [Bool.or_eq_true, beq_iff_eq, noDash, false_or]

/-- **Words without a dash are operands, except for `help`**, which asks for usage. -/
theorem readFrom_of_plain (notGreedy : f.isGreedy = false) (plain : Plain words) :
    f.readFrom helped false a words =
      outcome (helped || words.contains helpWord) (f.takeAll a (words.filter (· ≠ helpWord))) := by
  induction words generalizing a helped with
  | nil => simp [readFrom, outcome]
  | cons word rest ih =>
    obtain ⟨noDash, later⟩ := List.forall_mem_cons.1 plain
    by_cases help : word = helpWord
    · subst help
      have asks : isHelp helpWord = true := rfl
      simp [readFrom, asks, ih later]
    · have noHelp : isHelp word = false := by simpa using mt (isHelp_iff_of_plain noDash).1 help
      cases taken : f.takeOperand a word with
      | error text => simp [readFrom, noHelp, noDash, taken, help, takeAll_of_error taken, outcome]
      | ok b => simp [readFrom, noHelp, noDash, taken, help, takeAll_of_ok taken, notGreedy, ih later, Ne.symm help]

/-- Where the first operand ends the options, `help` asks for usage at the front only. -/
theorem readFrom_of_greedy (greedy : f.isGreedy = true) (plain : Plain words) :
    f.readFrom helped false a words =
      outcome (helped || words.head? == some helpWord) (f.takeAll a (words.dropWhile (· = helpWord))) := by
  induction words generalizing helped with
  | nil => simp [readFrom, outcome]
  | cons word rest ih =>
    obtain ⟨noDash, later⟩ := List.forall_mem_cons.1 plain
    by_cases help : word = helpWord
    · subst help
      have asks : isHelp helpWord = true := rfl
      simp [readFrom, asks, ih later]
    · have noHelp : isHelp word = false := by simpa using mt (isHelp_iff_of_plain noDash).1 help
      cases taken : f.takeOperand a word with
      | error text => simp [readFrom, noHelp, noDash, taken, help, takeAll_of_error taken, outcome]
      | ok b =>
        have other : (word == helpWord) = false := by simpa using help
        simp [readFrom, noHelp, noDash, taken, help, other, takeAll_of_ok taken, greedy, readFrom_of_ended]

theorem filter_of_notMem (none : helpWord ∉ words) : words.filter (· ≠ helpWord) = words :=
  List.filter_eq_self.2 fun word mem => by
    have other : word ≠ helpWord := fun same => none (same ▸ mem)
    simpa using other

/-! What a form without options reads. -/

theorem read_of_operands (notGreedy : f.isGreedy = false) (plain : Plain words) (none : helpWord ∉ words) {b : α}
    (taken : f.takeAll a words = .ok b) : f.read a words = .accepted b := by
  rw [read, readFrom_of_plain notGreedy plain, filter_of_notMem none, taken]
  simp [outcome, none]

theorem read_of_refused (notGreedy : f.isGreedy = false) (plain : Plain words) {text : Text}
    (refused : f.takeAll a (words.filter (· ≠ helpWord)) = .error text) : f.read a words = .mistake text := by
  rw [read, readFrom_of_plain notGreedy plain, refused, outcome]

theorem read_of_help (notGreedy : f.isGreedy = false) (plain : Plain words) (asks : helpWord ∈ words) {b : α}
    (taken : f.takeAll a (words.filter (· ≠ helpWord)) = .ok b) : f.read a words = .usage := by
  rw [read, readFrom_of_plain notGreedy plain, taken]
  simp [outcome, asks]

/-! What a form reads whose first operand ends the options. -/

theorem read_of_greedy (greedy : f.isGreedy = true) (plain : Plain words) (first : words.head? ≠ some helpWord) {b : α}
    (taken : f.takeAll a words = .ok b) : f.read a words = .accepted b := by
  have none : words.dropWhile (· = helpWord) = words := by
    cases words with
    | nil => rfl
    | cons word rest =>
      have other : word ≠ helpWord := by simpa using first
      simp [other]
  rw [read, readFrom_of_greedy greedy plain, none, taken]
  simp [outcome, first]

theorem read_of_greedy_help (greedy : f.isGreedy = true) (plain : Plain words) (first : words.head? = some helpWord)
    {b : α} (taken : f.takeAll a (words.dropWhile (· = helpWord)) = .ok b) : f.read a words = .usage := by
  rw [read, readFrom_of_greedy greedy plain, taken]
  simp [outcome, first]

/-- `--help` on its own asks for usage. -/
theorem read_help : f.read a ["--help".toList] = .usage := by
  have asks : isHelp "--help".toList = true := rfl
  simp only [read, readFrom, asks]
  rfl

end Form

/-! ### Numbers -/

/-- A text spells a number in decimal digits, behind a sign or without one. -/
inductive Spells : Text → Int → Prop
  | digits {digits : Text} (some_digit : digits ≠ []) (all : ∀ c ∈ digits, c.isDigit = true) :
      Spells digits (Nat.ofDigitChars 10 digits 0)
  | plus {digits : Text} (some_digit : digits ≠ []) (all : ∀ c ∈ digits, c.isDigit = true) :
      Spells ('+' :: digits) (Nat.ofDigitChars 10 digits 0)
  | minus {digits : Text} (some_digit : digits ≠ []) (all : ∀ c ∈ digits, c.isDigit = true) :
      Spells ('-' :: digits) (-Nat.ofDigitChars 10 digits 0)

/-- A number of 32 bits. -/
def IsInt32 (n : Int) : Prop := -0x80000000 ≤ n ∧ n < 0x80000000

variable {word : Text} {n sign : Int} {m : Nat}

theorem Spells.ne_help (spells : Spells word n) : word ≠ helpWord := by
  rintro rfl
  cases spells with
  | digits _ all => exact absurd (all 'h' List.mem_cons_self) (by decide)

theorem le_ofDigitChars (digits : Text) (m : Nat) : m ≤ Nat.ofDigitChars 10 digits m := by
  induction digits generalizing m with
  | nil => exact Nat.le_refl m
  | cons c cs ih =>
    rw [Nat.ofDigitChars_cons]
    exact Nat.le_trans (by omega) (ih _)

/-- Digits are read on if they are digits and the number stays in its range; it only grows away from zero. -/
theorem readDigits_eq_ok_iff (unit : sign = 1 ∨ sign = -1) (range : IsInt32 (sign * m)) (digits : Text) :
    readDigits sign (sign * m) digits = .ok n ↔
      (∀ c ∈ digits, c.isDigit = true) ∧ n = sign * Nat.ofDigitChars 10 digits m ∧ IsInt32 n := by
  induction digits generalizing m with
  | nil =>
    simp only [readDigits, Except.ok.injEq, List.not_mem_nil, false_implies, implies_true, true_and]
    constructor
    · rintro rfl
      exact ⟨rfl, range⟩
    · exact fun ⟨same, _⟩ => same.symm
  | cons c cs ih =>
    rw [List.forall_mem_cons, Nat.ofDigitChars_cons]
    by_cases digit : c.isDigit = true
    · have next : sign * m * 10 + sign * ((c.toNat - '0'.toNat : Nat) : Int) =
          sign * ((10 * m + (c.toNat - '0'.toNat) : Nat) : Int) := by
        rw [Int.natCast_add, Int.natCast_mul, Int.mul_add, Int.mul_assoc, Int.mul_comm m]
        rfl
      have grows := le_ofDigitChars cs (10 * m + (c.toNat - '0'.toNat))
      simp only [readDigits, digit?, digit, if_true, next, true_and]
      by_cases fits : IsInt32 (sign * ((10 * m + (c.toNat - '0'.toNat) : Nat) : Int))
      · rw [if_neg (Int.not_lt.2 fits.1), if_neg (Int.not_le.2 fits.2)]
        exact ih fits
      · refine iff_of_false ?_ fun ⟨_, same, range⟩ => fits ?_
        · unfold IsInt32 at fits
          split
          · nofun
          · rw [if_pos (by omega)]
            nofun
        · unfold IsInt32 at range ⊢
          rcases unit with rfl | rfl <;> omega
    · simp [readDigits, digit?, digit]

/-- A word that begins with a digit has no sign. -/
theorem readInt32_of_isDigit {c : Char} {cs : Text} (digit : c.isDigit = true) :
    readInt32 (c :: cs) = readDigits 1 0 (c :: cs) := by
  have plus : c ≠ '+' := by
    rintro rfl
    cases digit
  have minus : c ≠ '-' := by
    rintro rfl
    cases digit
  simp [readInt32, plus, minus]

/-- **A word is read as a number of 32 bits if it spells one.** -/
theorem readInt32_eq_ok_iff : readInt32 word = .ok n ↔ Spells word n ∧ IsInt32 n := by
  have plain : ∀ digits, readDigits 1 0 digits = .ok n ↔
      (∀ c ∈ digits, c.isDigit = true) ∧ n = Nat.ofDigitChars 10 digits 0 ∧ IsInt32 n := fun digits => by
    simpa using readDigits_eq_ok_iff (n := n) (m := 0) (.inl rfl) ⟨by decide, by decide⟩ digits
  have negative : ∀ digits, readDigits (-1) 0 digits = .ok n ↔
      (∀ c ∈ digits, c.isDigit = true) ∧ n = -Nat.ofDigitChars 10 digits 0 ∧ IsInt32 n := fun digits => by
    simpa using readDigits_eq_ok_iff (n := n) (m := 0) (.inr rfl) ⟨by decide, by decide⟩ digits
  constructor
  · intro read
    unfold readInt32 at read
    split at read
    · cases read
    · cases read
    · cases read
    · rename_i digits none
      obtain ⟨all, rfl, range⟩ := (plain _).1 read
      exact ⟨.plus (by simpa using none) all, range⟩
    · rename_i digits none
      obtain ⟨all, rfl, range⟩ := (negative _).1 read
      exact ⟨.minus (by simpa using none) all, range⟩
    · rename_i digits empty _ _ _ _
      obtain ⟨all, rfl, range⟩ := (plain _).1 read
      exact ⟨.digits (by simpa using empty) all, range⟩
  · rintro ⟨spells, range⟩
    cases spells with
    | digits some_digit all =>
      obtain ⟨c, cs, rfl⟩ := List.exists_cons_of_ne_nil some_digit
      rw [readInt32_of_isDigit (all c List.mem_cons_self)]
      exact (plain _).2 ⟨all, rfl, range⟩
    | plus some_digit all =>
      obtain ⟨c, cs, rfl⟩ := List.exists_cons_of_ne_nil some_digit
      exact (plain _).2 ⟨all, rfl, range⟩
    | minus some_digit all =>
      obtain ⟨c, cs, rfl⟩ := List.exists_cons_of_ne_nil some_digit
      exact (negative _).2 ⟨all, rfl, range⟩

theorem isDigit_of_mem_showNat {c : Char} (mem : c ∈ showNat m) : c.isDigit = true :=
  Nat.isDigit_of_mem_toDigits (by decide) (by decide) mem

theorem showNat_ne_nil (m : Nat) : showNat m ≠ [] := Nat.toDigits_ne_nil

theorem spells_showInt (n : Int) : Spells (showInt n) n := by
  have value : Nat.ofDigitChars 10 (showNat n.natAbs) 0 = n.natAbs :=
    Nat.ofDigitChars_toDigits (by decide) (by decide)
  unfold showInt
  split
  · have spells := Spells.minus (showNat_ne_nil n.natAbs) fun c => isDigit_of_mem_showNat
    rwa [value, show -(n.natAbs : Int) = n by omega] at spells
  · have spells := Spells.digits (showNat_ne_nil n.natAbs) fun c => isDigit_of_mem_showNat
    rwa [value, show (n.natAbs : Int) = n by omega] at spells

end PipeShell
