import PipeShell.Token.Lexer

/-!
# One round of the lexer

The lexer reads a line in rounds, and a round takes one character, or two.  What a round can do is said once
(`Lexer.Round`): it separates words, which leaves nothing pending, or it goes on with the pending word (`Lexer.GoesOn`).
Every round keeps the fields of the lexer in agreement with each other (`Lexer.Sound`).
-/

namespace PipeShell

namespace Lexer

variable {s : Lexer} {c : Char} {next : Option Char} {r : Lexer × Bool}

/-- Outside quotes. -/
def IsBare (s : Lexer) : Prop := ∀ q, s.phase ≠ .inQuote q

theorem read_of_isBare (bare : s.IsBare) (c : Char) (next : Option Char) : s.read c next = s.readBare c next := by
  cases phase : s.phase with
  | start => simp [read, phase]
  | inWord => simp [read, phase]
  | inQuote q => exact absurd phase (bare q)

theorem isBare_or_inQuote (s : Lexer) : s.IsBare ∨ ∃ q, s.phase = .inQuote q := by
  cases phase : s.phase with
  | start | inWord => simp [IsBare, phase]
  | inQuote q => exact .inr ⟨q, rfl⟩

/-- The pending word, if there is one. -/
def words (s : Lexer) : List Token := if s.begun then [.word s.pending] else []

/-- The character is a blank, an operator or a bar, which no word goes across. -/
def Separates (s : Lexer) (c : Char) (next : Option Char) : Prop :=
  s.IsBare ∧ (isBlank c ∨ c = '>' ∨ c = '|' ∧ s.phase = .start ∧ endsWord next)

/-- The character opens a quote. -/
def Opens (s : Lexer) (c : Char) (_next : Option Char) : Prop := s.IsBare ∧ ∃ q : Quote, c = q.char

/-- The character is a backslash that escapes the next one. -/
def Escapes (s : Lexer) (c : Char) (next : Option Char) : Prop :=
  c = '\\' ∧ (s.IsBare ∧ next.isSome ∨ s.phase = .inQuote .double ∧ next.any isEscapable)

/-- The fields of the lexer agree with each other. -/
structure Sound (s : Lexer) : Prop where
  start_iff : s.phase = .start ↔ s.begun = false
  empty : s.begun = false → s.typed = [] ∧ s.guarded = false
  quoted : ∀ q, s.phase = .inQuote q → s.begun = true ∧ s.guarded = true

/-- How the target of an operator is opened, by the character behind its first arrow. -/
def modeOf (next : Option Char) : OpenMode := if next = some '>' then .append else .overwrite

/-- A character goes on with the pending word, or begins one. -/
structure GoesOn (s : Lexer) (c : Char) (next : Option Char) (r : Lexer × Bool) : Prop where
  tokens : r.1.tokens = s.tokens
  begun : r.1.begun = true
  pending : s.pending <+: r.1.pending
  guarded_iff : r.1.guarded = true ↔ s.guarded = true ∨ s.Opens c next ∨ s.Escapes c next
  unguarded : r.1.guarded = false → r.2 = false ∧ r.1.pending = s.pending ++ [c]

/-- What a round can do with a character before the next one; it may take that one with it. -/
inductive Round (s : Lexer) : Char → Option Char → Lexer × Bool → Prop
  | blank {c : Char} {next : Option Char} (bare : s.IsBare) (blank : isBlank c) :
      Round s c next ({ s.flush with phase := .start }, false)
  | bar {next : Option Char} (start : s.phase = .start) (ends : endsWord next) : Round s '|' next (s.emit .bar, false)
  | operator {next : Option Char} (bare : s.IsBare) : Round s '>' next (s.readOperator next)
  | opening {next : Option Char} (bare : s.IsBare) (q : Quote) : Round s q.char next (s.openQuote q, false)
  | escape (bare : s.IsBare) (d : Char) : Round s '\\' (some d) (s.pushEscaped d, true)
  | plain {c : Char} {next : Option Char} (bare : s.IsBare) (within : ¬ s.Separates c next)
      (noQuote : ¬ s.Opens c next) (noEscape : ¬ s.Escapes c next) : Round s c next (s.push c, false)
  | closing {q : Quote} {next : Option Char} (inside : s.phase = .inQuote q) :
      Round s q.char next ({ s with phase := .inWord }, false)
  | quoted {q : Quote} {c : Char} {next : Option Char} (inside : s.phase = .inQuote q) (other : c ≠ q.char)
      (noEscape : ¬ s.Escapes c next) : Round s c next (s.pushQuoted c, false)
  | quotedEscape {d : Char} (inside : s.phase = .inQuote .double) (escapable : isEscapable d) :
      Round s '\\' (some d) (s.pushQuoted d, true)

private theorem round_readBare (bare : s.IsBare) (c : Char) (next : Option Char) : s.Round c next (s.readBare c next) := by
  by_cases blank : isBlank c
  · have reads : s.readBare c next = ({ s.flush with phase := .start }, false) := by simp [readBare, blank]
    exact reads ▸ Round.blank bare blank
  by_cases quote : ∃ q : Quote, c = q.char
  · obtain ⟨q, rfl⟩ := quote
    have reads : s.readBare q.char next = (s.openQuote q, false) := by
      cases q <;> simp [readBare, Quote.char, isBlank]
    exact reads ▸ Round.opening bare q
  by_cases escape : s.Escapes c next
  · obtain ⟨rfl, h⟩ := escape
    obtain ⟨d, rfl⟩ : ∃ d, next = some d := by
      rcases h with ⟨-, some⟩ | ⟨inside, -⟩
      · exact Option.isSome_iff_exists.1 some
      · exact absurd inside (bare _)
    exact Round.escape bare d
  by_cases bar : c = '|' ∧ s.phase = .start ∧ endsWord next
  · obtain ⟨rfl, start, ends⟩ := bar
    have reads : s.readBare '|' next = (s.emit .bar, false) := by simp [readBare, start, ends, isBlank]
    exact reads ▸ Round.bar start ends
  by_cases arrow : c = '>'
  · subst arrow
    have reads : s.readBare '>' next = s.readOperator next := by simp [readBare, isBlank]
    exact reads ▸ Round.operator bare
  have goesOn : ¬ s.Separates c next := by simp [Separates, blank, bar, arrow]
  have reads : s.readBare c next = (s.push c, false) := by
    have noSingle : c ≠ '\'' := fun same => quote ⟨.single, same⟩
    have noDouble : c ≠ '"' := fun same => quote ⟨.double, same⟩
    by_cases backslash : c = '\\'
    · subst backslash
      cases next with
      | none => rfl
      | some d => exact absurd ⟨rfl, .inl ⟨bare, rfl⟩⟩ escape
    · simp [readBare, blank, noSingle, noDouble, backslash, bar, arrow]
  exact reads ▸ Round.plain bare goesOn (fun opens => quote opens.2) escape

private theorem round_readDouble (inside : s.phase = .inQuote .double) (c : Char) (next : Option Char) :
    s.Round c next (s.readDouble c next) := by
  by_cases closes : c = '"'
  · subst closes
    exact Round.closing inside
  by_cases escape : s.Escapes c next
  · obtain ⟨rfl, ⟨bare, -⟩ | ⟨-, some_escapable⟩⟩ := escape
    · exact absurd inside (bare _)
    obtain ⟨d, rfl, escapable⟩ := (Option.any_eq_true _ _).1 some_escapable
    have reads : s.readDouble '\\' (some d) = (s.pushQuoted d, true) := by simp [readDouble, escapable]
    exact reads ▸ Round.quotedEscape inside escapable
  have reads : s.readDouble c next = (s.pushQuoted c, false) := by
    by_cases backslash : c = '\\'
    · subst backslash
      cases next with
      | none => rfl
      | some d =>
        have plain : isEscapable d = false := Bool.eq_false_iff.2 fun escapable => escape ⟨rfl, .inr ⟨inside, escapable⟩⟩
        simp [readDouble, plain]
    · simp [readDouble, closes, backslash]
  exact reads ▸ Round.quoted inside closes escape

/-- Every round is one of these. -/
theorem round_read (s : Lexer) (c : Char) (next : Option Char) : s.Round c next (s.read c next) := by
  rcases s.isBare_or_inQuote with bare | ⟨q, inside⟩
  · exact read_of_isBare bare c next ▸ round_readBare bare c next
  cases q with
  | double => simpa [read, inside] using round_readDouble inside c next
  | single =>
    by_cases closes : c = '\''
    · subst closes
      have reads : s.read '\'' next = ({ s with phase := .inWord }, false) := by simp [read, inside, readSingle]
      exact reads ▸ Round.closing inside
    · have noEscape : ¬ s.Escapes c next := by
        rintro ⟨-, ⟨bare, -⟩ | ⟨double, -⟩⟩
        · exact bare _ inside
        · simp [inside] at double
      simpa [read, inside, readSingle, closes] using Round.quoted inside closes noEscape

/-! ### What a round does -/

private theorem pending_push (s : Lexer) (c : Char) : (s.push c).pending = s.pending ++ [c] := by
  simp [pending, push]

theorem sound_fresh (tokens : List Token) : ({ tokens } : Lexer).Sound := by
  constructor <;> simp

/-- Where a word may begin, the lexer is as at the beginning, but for the tokens. -/
theorem Sound.eq_of_start (sound : s.Sound) (start : s.phase = .start) : s = { tokens := s.tokens } := by
  have idle := sound.start_iff.1 start
  obtain ⟨empty, bare⟩ := sound.empty idle
  obtain ⟨phase, typed, begun, guarded, tokens⟩ := s
  obtain rfl : phase = .start := start
  obtain rfl : begun = false := idle
  obtain rfl : typed = [] := empty
  obtain rfl : guarded = false := bare
  rfl

theorem flush_eq (s : Lexer) : { s.flush with phase := .start } = ({ tokens := s.tokens ++ s.words } : Lexer) := by
  cases begun : s.begun <;> simp [flush, forget, emit, words, begun]

theorem readOperator_eq (s : Lexer) (next : Option Char) :
    s.readOperator next =
      ({ tokens := s.tokens ++ (if s.selector.isSome then [] else s.words) ++
        [.redirect ⟨s.selector.getD .out, modeOf next⟩] }, next == some '>') := by
  cases number : s.selector with
  | some stream => simp [readOperator, number, forget, emit, modeOf]
  | none => cases begun : s.begun <;> simp [readOperator, number, flush, forget, emit, words, begun, modeOf]

theorem read_of_isBlank (bare : s.IsBare) (blank : isBlank c) (next : Option Char) :
    s.read c next = ({ tokens := s.tokens ++ s.words }, false) := by
  simp only [read_of_isBare bare, readBare, if_pos blank, flush_eq]

theorem read_arrow (bare : s.IsBare) (next : Option Char) :
    s.read '>' next =
      ({ tokens := s.tokens ++ (if s.selector.isSome then [] else s.words) ++
        [.redirect ⟨s.selector.getD .out, modeOf next⟩] }, next == some '>') := by
  have reads : s.readBare '>' next = s.readOperator next := by simp [readBare, isBlank]
  rw [read_of_isBare bare, reads, readOperator_eq]

theorem bar_notMem_words (s : Lexer) : .bar ∉ s.words := by
  cases begun : s.begun <;> simp [words, begun]

namespace Round

theorem sound (round : s.Round c next r) (sound : s.Sound) : r.1.Sound := by
  cases round with
  | blank bare blank => exact flush_eq s ▸ sound_fresh _
  | bar start ends => exact ⟨sound.start_iff, sound.empty, sound.quoted⟩
  | operator bare => exact readOperator_eq s next ▸ sound_fresh _
  | opening bare q => constructor <;> simp [openQuote]
  | escape bare d => constructor <;> simp [pushEscaped, push]
  | plain bare within noQuote noEscape => constructor <;> simp [push]
  | closing inside =>
    have begun := (sound.quoted _ inside).1
    constructor <;> simp [begun]
  | quoted inside other noEscape =>
    obtain ⟨begun, guarded⟩ := sound.quoted _ inside
    constructor <;> simp [pushQuoted, inside, begun, guarded]
  | quotedEscape inside escapable =>
    obtain ⟨begun, guarded⟩ := sound.quoted _ inside
    constructor <;> simp [pushQuoted, inside, begun, guarded]

/-- Where two characters are read, there are two. -/
theorem isSome_next (round : s.Round c next r) (both : r.2 = true) : next.isSome := by
  cases round with
  | operator bare =>
    have arrow : next = some '>' := by simpa [readOperator] using both
    simp [arrow]
  | escape bare d => rfl
  | quotedEscape inside escapable => rfl
  | blank | bar | opening | plain | closing | quoted => cases both

theorem goesOn (round : s.Round c next r) (sound : s.Sound) (within : ¬ s.Separates c next) : s.GoesOn c next r := by
  cases round with
  | blank bare blank => exact absurd ⟨bare, .inl blank⟩ within
  | bar start ends => exact absurd ⟨by simp [IsBare, start], .inr (.inr ⟨rfl, start, ends⟩)⟩ within
  | operator bare => exact absurd ⟨bare, .inr (.inl rfl)⟩ within
  | opening bare q =>
    have opens : s.Opens q.char next := ⟨bare, q, rfl⟩
    constructor <;> simp [openQuote, pending, opens]
  | escape bare d =>
    have escapes : s.Escapes '\\' (some d) := ⟨rfl, .inl ⟨bare, rfl⟩⟩
    constructor <;> simp [pushEscaped, pending, push, escapes]
  | plain bare _ noQuote noEscape =>
    exact ⟨rfl, rfl, by simp [pending_push], by simp [push, noQuote, noEscape], fun _ => ⟨rfl, pending_push s c⟩⟩
  | closing inside =>
    obtain ⟨begun, guarded⟩ := sound.quoted _ inside
    constructor <;> simp [pending, begun, guarded]
  | quoted inside other noEscape =>
    obtain ⟨begun, guarded⟩ := sound.quoted _ inside
    constructor <;> simp [pushQuoted, pending, begun, guarded]
  | quotedEscape inside escapable =>
    obtain ⟨begun, guarded⟩ := sound.quoted _ inside
    constructor <;> simp [pushQuoted, pending, begun, guarded]

/-- A word may begin behind a character that separates words. -/
theorem phase_eq_start_iff (round : s.Round c next r) : r.1.phase = .start ↔ s.Separates c next := by
  cases round with
  | blank bare blank => simp [Separates, bare, blank]
  | bar start ends => simp [Separates, IsBare, emit, start, ends]
  | operator bare => simp [Separates, readOperator_eq, bare]
  | opening bare q => cases q <;> simp [Separates, openQuote, Quote.char, isBlank]
  | escape bare d => simp [Separates, pushEscaped, push, isBlank]
  | plain bare within noQuote noEscape => simp [push, within]
  | closing inside => simp [Separates, IsBare, inside]
  | quoted inside other noEscape => simp [Separates, IsBare, pushQuoted, inside]
  | quotedEscape inside escapable => simp [Separates, IsBare, pushQuoted, inside]

end Round

theorem phase_read_eq_start : (s.read c next).1.phase = .start ↔ s.Separates c next :=
  (round_read s c next).phase_eq_start_iff

/-- A character that separates words leaves nothing pending. -/
theorem exists_read_eq (sound : s.Sound) (separates : s.Separates c next) :
    ∃ tokens, (s.read c next).1 = { tokens } := by
  have start : (s.read c next).1.phase = .start := phase_read_eq_start.2 separates
  exact ⟨_, ((round_read s c next).sound sound).eq_of_start start⟩

end Lexer

end PipeShell
