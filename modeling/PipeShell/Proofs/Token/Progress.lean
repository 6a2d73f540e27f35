import PipeShell.Proofs.Token.Reading

/-!
# The lexer after every round

A line is read from a position that moves on with every round (`Lexer.after`).  The fields of the lexer can be told
from the rounds since words were last separated: a word is guarded if one of these opened a quote or escaped a character
(`Lexer.guarded_after_iff`), and if it is not, it stands in the line as it is (`Lexer.take_after_eq`).

`Lexer.Consistent` collects what holds after every round, and what becomes of the pending word when a blank, an operator
or the end of the line comes next: it is in the tokens once, at the place where it was begun.
-/

namespace PipeShell

namespace Lexer

variable {s : Lexer} {c : Char} {next : Option Char}

/-- How far a line is read, and the lexer there. -/
structure Cursor where
  lexer : Lexer := {}
  position : Nat := 0

/-- One more round, if there is something to read. -/
def Cursor.advance (text : Text) (k : Cursor) : Cursor :=
  match text[k.position]? with
  | none => k
  | some c =>
    let (lexer, both) := k.lexer.read c text[k.position + 1]?
    ⟨lexer, k.position + if both then 2 else 1⟩

/-- The lexer after some rounds of reading a line. -/
def after (text : Text) : Nat → Cursor
  | 0 => {}
  | n + 1 => (after text n).advance text

/-- Round `n`, counted from zero, reads a character of this kind. -/
def Meets (text : Text) (n : Nat) (kind : Lexer → Char → Option Char → Prop) : Prop :=
  ∃ c, text[(after text n).position]? = some c ∧ kind (after text n).lexer c text[(after text n).position + 1]?

/-- What round `j` reads is part of the word that is pending after `n` rounds: nothing has separated words since. -/
def InWord (text : Text) (j n : Nat) : Prop := j < n ∧ ∀ i, j ≤ i → i < n → ¬ Meets text i Separates

variable {text : Text} {n : Nat} {kind : Lexer → Char → Option Char → Prop}

theorem after_succ_of_ended (ended : text[(after text n).position]? = none) : after text (n + 1) = after text n := by
  simp only [after, Cursor.advance, ended]

theorem after_succ (here : text[(after text n).position]? = some c) :
    after text (n + 1) =
      ⟨((after text n).lexer.read c text[(after text n).position + 1]?).1, (after text n).position +
        if ((after text n).lexer.read c text[(after text n).position + 1]?).2 then 2 else 1⟩ := by
  simp only [after, Cursor.advance, here]

theorem not_meets (ended : text[(after text n).position]? = none) : ¬ Meets text n kind := by
  simp [Meets, ended]

theorem meets_iff (here : text[(after text n).position]? = some c) :
    Meets text n kind ↔ kind (after text n).lexer c text[(after text n).position + 1]? := by
  simp [Meets, here]

theorem sound_after (text : Text) (n : Nat) : (after text n).lexer.Sound := by
  induction n with
  | zero => exact sound_fresh []
  | succ n ih =>
    cases here : text[(after text n).position]? with
    | none => rwa [after_succ_of_ended here]
    | some c =>
      rw [after_succ here]
      exact (round_read _ _ _).sound ih

theorem position_le (text : Text) (n : Nat) : (after text n).position ≤ text.length := by
  induction n with
  | zero => exact Nat.zero_le _
  | succ n ih =>
    cases here : text[(after text n).position]? with
    | none => rwa [after_succ_of_ended here]
    | some c =>
      have inside := (List.getElem?_eq_some_iff.1 here).1
      rw [after_succ here]
      split
      · rename_i both
        obtain ⟨d, behind⟩ := Option.isSome_iff_exists.1 ((round_read _ _ _).isSome_next both)
        exact (List.getElem?_eq_some_iff.1 behind).1
      · exact inside

/-- A round reads something as long as there is something to read. -/
theorem le_position_or_ended (text : Text) (n : Nat) :
    n ≤ (after text n).position ∨ (after text n).position = text.length := by
  induction n with
  | zero => exact .inl (Nat.zero_le _)
  | succ n ih =>
    cases here : text[(after text n).position]? with
    | none =>
      have ended := List.getElem?_eq_none_iff.1 here
      rw [after_succ_of_ended here]
      exact .inr (Nat.le_antisymm (position_le text n) ended)
    | some c =>
      have inside := (List.getElem?_eq_some_iff.1 here).1
      rw [after_succ here]
      left
      dsimp only
      split <;> omega

private theorem drop_add_eq_left (text : Text) (position : Nat) (both : Bool) :
    text.drop (position + if both then 2 else 1) = left both (text.drop (position + 1)) := by
  cases both <;> simp [left]

/-- The rounds are those of reading the whole line. -/
theorem reads_after (text : Text) (n : Nat) :
    ({} : Lexer).Reads text (after text n).lexer (text.drop (after text n).position) := by
  induction n with
  | zero => exact .start
  | succ n ih =>
    cases here : text[(after text n).position]? with
    | none => rwa [after_succ_of_ended here]
    | some c =>
      obtain ⟨inside, first⟩ := List.getElem?_eq_some_iff.1 here
      rw [List.drop_eq_getElem_cons inside, first] at ih
      have reads := ih.next
      rw [List.head?_drop, ← drop_add_eq_left] at reads
      rwa [after_succ here]

/-! ### Since words were last separated -/

theorem inWord_succ_iff {j : Nat} :
    InWord text j (n + 1) ↔ ¬ Meets text n Separates ∧ (InWord text j n ∨ j = n) := by
  constructor
  · rintro ⟨before, within⟩
    refine ⟨within n (by omega) (by omega), ?_⟩
    rcases Nat.lt_succ_iff_lt_or_eq.1 before with earlier | last
    · exact .inl ⟨earlier, fun i from_j to_n => within i from_j (by omega)⟩
    · exact .inr last
  · rintro ⟨here, ⟨before, within⟩ | rfl⟩
    · refine ⟨by omega, fun i from_j to_n => ?_⟩
      rcases Nat.lt_succ_iff_lt_or_eq.1 to_n with earlier | rfl
      · exact within i from_j earlier
      · exact here
    · refine ⟨by omega, fun i from_j to_n => ?_⟩
      obtain rfl : i = j := by omega
      exact here

theorem exists_inWord_succ {P : Nat → Prop} : (∃ j, InWord text j (n + 1) ∧ P j) ↔
    ¬ Meets text n Separates ∧ ((∃ j, InWord text j n ∧ P j) ∨ P n) := by
  simp only [inWord_succ_iff]
  constructor
  · rintro ⟨j, ⟨within, earlier | rfl⟩, holds⟩
    · exact ⟨within, .inl ⟨j, earlier, holds⟩⟩
    · exact ⟨within, .inr holds⟩
  · rintro ⟨within, ⟨j, earlier, holds⟩ | holds⟩
    · exact ⟨j, ⟨within, .inl earlier⟩, holds⟩
    · exact ⟨n, ⟨within, .inr rfl⟩, holds⟩

/-- A flag that is down where nothing is pending, and that some characters set in a word, says that one of these was read
in the pending word. -/
private theorem flag_after_iff {flag : Lexer → Bool} {sets : Lexer → Char → Option Char → Prop}
    (down : ∀ tokens, flag { tokens } = false)
    (goesOn : ∀ {s c next r}, GoesOn s c next r → (flag r.1 = true ↔ flag s = true ∨ sets s c next)) (text : Text)
    (n : Nat) : flag (after text n).lexer = true ↔ ∃ j, InWord text j n ∧ Meets text j sets := by
  induction n with
  | zero => simp [after, InWord, down]
  | succ n ih =>
    rw [exists_inWord_succ, ← ih]
    cases here : text[(after text n).position]? with
    | none => simp [after_succ_of_ended here, not_meets here]
    | some c =>
      rw [after_succ here, meets_iff here, meets_iff here]
      by_cases separates : (after text n).lexer.Separates c text[(after text n).position + 1]?
      · obtain ⟨tokens, fresh⟩ := exists_read_eq (sound_after text n) separates
        simp [fresh, down, separates]
      · have sets := goesOn ((round_read _ _ _).goesOn (sound_after text n) separates)
        simp only [sets, separates, not_false_eq_true, true_and]

/-- A word has begun if anything was read of it. -/
theorem begun_after_iff (text : Text) (n : Nat) : (after text n).lexer.begun = true ↔
    ∃ j, InWord text j n ∧ Meets text j fun _ _ _ => True :=
  flag_after_iff (fun _ => rfl) (fun goesOn => by simp [goesOn.begun]) text n

/-- A word is guarded if a quote was opened in it, or a character escaped. -/
theorem guarded_after_iff (text : Text) (n : Nat) : (after text n).lexer.guarded = true ↔
    ∃ j, InWord text j n ∧ Meets text j fun s c next => s.Opens c next ∨ s.Escapes c next :=
  flag_after_iff (fun _ => rfl) (fun goesOn => goesOn.guarded_iff) text n

/-- An escaped digit is guarded, so that it is a word before an operator. -/
example :
    after "\\2>f".toList 1 = ⟨{ phase := .inWord, typed := ['2'], begun := true, guarded := true }, 2⟩ ∧
      after "\\2>f".toList 2 = ⟨{ tokens := [.word ['2'], .redirect ⟨.out, .overwrite⟩] }, 3⟩ :=
  ⟨rfl, rfl⟩

/-! ### Since the pending word began -/

/-- A round that does not separate words goes on with the pending one. -/
theorem goesOn_after_succ (within : ¬ Meets text n Separates) :
    (after text (n + 1)).lexer.tokens = (after text n).lexer.tokens ∧
      (after text n).lexer.pending <+: (after text (n + 1)).lexer.pending := by
  cases here : text[(after text n).position]? with
  | none => simp [after_succ_of_ended here]
  | some c =>
    rw [meets_iff here] at within
    have goesOn := (round_read _ _ _).goesOn (sound_after text n) within
    rw [after_succ here]
    exact ⟨goesOn.tokens, goesOn.pending⟩

/-- What an unguarded word gains is what is read. -/
private theorem exists_read_unguarded (within : ¬ Meets text n Separates)
    (unguarded : (after text (n + 1)).lexer.guarded = false) :
    (after text n).lexer.guarded = false ∧
      ∃ gain, (after text (n + 1)).lexer.pending = (after text n).lexer.pending ++ gain ∧
        text.take (after text (n + 1)).position = text.take (after text n).position ++ gain := by
  cases here : text[(after text n).position]? with
  | none =>
    rw [after_succ_of_ended here] at unguarded ⊢
    exact ⟨unguarded, [], by simp, by simp⟩
  | some c =>
    rw [meets_iff here] at within
    have goesOn := (round_read _ _ _).goesOn (sound_after text n) within
    rw [after_succ here] at unguarded ⊢
    obtain ⟨alone, pending⟩ := goesOn.unguarded unguarded
    refine ⟨?_, [c], pending, ?_⟩
    · rw [← Bool.not_eq_true] at unguarded ⊢
      exact fun guarded => unguarded (goesOn.guarded_iff.2 (.inl guarded))
    · simp only [alone, Bool.false_eq_true, ↓reduceIte, List.take_add_one, here, Option.toList_some]

/-- A word began behind the last character that separates words, or at the beginning of the line. -/
theorem exists_began (text : Text) (n : Nat) : ∃ j ≤ n, (∃ tokens, (after text j).lexer = { tokens }) ∧
    ∀ i, j ≤ i → i < n → ¬ Meets text i Separates := by
  induction n with
  | zero => exact ⟨0, Nat.le_refl _, ⟨[], rfl⟩, by omega⟩
  | succ n ih =>
    by_cases separates : Meets text n Separates
    · obtain ⟨c, here, separates⟩ := separates
      obtain ⟨tokens, fresh⟩ := exists_read_eq (sound_after text n) separates
      exact ⟨n + 1, Nat.le_refl _, ⟨tokens, by rw [after_succ here, fresh]⟩, by omega⟩
    · obtain ⟨j, before, fresh, within⟩ := ih
      refine ⟨j, by omega, fresh, fun i from_j to_n => ?_⟩
      rcases Nat.lt_succ_iff_lt_or_eq.1 to_n with earlier | rfl
      · exact within i from_j earlier
      · exact separates

section Began

variable {j : Nat} {tokens : List Token} (before : j ≤ n) (fresh : (after text j).lexer = { tokens })
  (within : ∀ i, j ≤ i → i < n → ¬ Meets text i Separates)
include before fresh within

/-- Since a word began no token was added. -/
theorem tokens_after_eq : (after text n).lexer.tokens = tokens := by
  induction before with
  | refl => rw [fresh]
  | @step n before ih =>
    rw [(goesOn_after_succ (within n before (Nat.lt_succ_self n))).1]
    exact ih fun i from_j to_n => within i from_j (by omega)

/-- A word that is not guarded stands in the line as it is. -/
theorem take_after_eq (unguarded : (after text n).lexer.guarded = false) :
    text.take (after text n).position = text.take (after text j).position ++ (after text n).lexer.pending := by
  induction before with
  | refl => simp [fresh, pending]
  | @step n before ih =>
    obtain ⟨earlier, gain, gains, reads⟩ := exists_read_unguarded (within n before (Nat.lt_succ_self n)) unguarded
    rw [reads, gains, ih (fun i from_j to_n => within i from_j (by omega)) earlier, List.append_assoc]

end Began

/-! ### What becomes of the pending word -/

/-- Where nothing is pending, the tokens to come are those of the rest of the line. -/
theorem tokens_ofLine_of_fresh {tokens : List Token} (fresh : (after text n).lexer = { tokens }) :
    (Lexed.ofLine text).tokens = tokens ++ (Lexed.ofLine (text.drop (after text n).position)).tokens := by
  rw [Lexed.ofLine, (reads_after text n).readAll_eq, fresh, finish_readAll_fresh]

theorem tokens_finish (s : Lexer) : s.finish.tokens = s.tokens ++ s.words :=
  congrArg Lexer.tokens (flush_eq s)

theorem tokens_ofLine_of_ended (all : (after text n).position = text.length) :
    (Lexed.ofLine text).tokens = (after text n).lexer.tokens ++ (after text n).lexer.words := by
  rw [Lexed.ofLine, (reads_after text n).readAll_eq, all, List.drop_length, readAll, tokens_finish]

/-- A bar is added to the tokens only where nothing is pending. -/
theorem nothing_pending_of_bar {added : List Token}
    (adds : (after text (n + 1)).lexer.tokens = (after text n).lexer.tokens ++ added) (some_bar : .bar ∈ added) :
    (after text n).lexer.begun = false ∧ (after text n).lexer.pending = [] := by
  by_cases separates : Meets text n Separates
  · obtain ⟨c, here, bare, kind⟩ := separates
    rw [after_succ here] at adds
    rcases kind with blank | rfl | ⟨-, start, -⟩
    · rw [read_of_isBlank bare blank] at adds
      rw [← List.append_cancel_left adds] at some_bar
      exact absurd some_bar (bar_notMem_words _)
    · rw [read_arrow bare, List.append_assoc] at adds
      rw [← List.append_cancel_left adds, List.mem_append, List.mem_singleton] at some_bar
      rcases some_bar with in_word | ⟨⟨⟩⟩
      split at in_word
      · cases in_word
      · exact absurd in_word (bar_notMem_words _)
    · rw [(sound_after text n).eq_of_start start]
      simp [pending]
  · rw [(goesOn_after_succ separates).1, List.self_eq_append_right] at adds
    simp [adds] at some_bar

/-- The fields of the lexer after some rounds, and what they say about the word that is pending. -/
structure Consistent (text : Text) (n : Nat) (s : Lexer) (position : Nat) : Prop extends Sound s where
  begun_iff : s.begun = true ↔ ∃ j, InWord text j n ∧ Meets text j fun _ _ _ => True
  guarded_iff : s.guarded = true ↔ ∃ j, InWord text j n ∧ Meets text j fun s c next => s.Opens c next ∨ s.Escapes c next
  position_le : position ≤ text.length
  /-- The rounds are those of reading the line, and they come to its end. -/
  reads : ({} : Lexer).Reads text s (text.drop position)
  ends : text.length ≤ n → position = text.length
  /-- Since the pending word began no token was added. -/
  began : ∃ j ≤ n, (after text j).lexer = { tokens := s.tokens } ∧ ∀ i, j ≤ i → i < n → InWord text i n
  /-- A single character without a guard, such as the number of a stream, is one that stands in the line, where nothing
  was pending before it. -/
  alone : ∀ d, s.typed = [d] → s.guarded = false →
    ∃ j < n, ∃ start, after text j = ⟨{ tokens := s.tokens }, start⟩ ∧ text[start]? = some d ∧ position = start + 1
  /-- A bar is a token only where nothing is pending. -/
  bar : ∀ added, (after text (n + 1)).lexer.tokens = s.tokens ++ added → .bar ∈ added → s.begun = false ∧ s.pending = []
  goesOn : ¬ Meets text n Separates →
    (after text (n + 1)).lexer.tokens = s.tokens ∧ s.pending <+: (after text (n + 1)).lexer.pending
  /-- Before a blank the pending word comes once, between the tokens before it and those of what is behind the blank. -/
  blank : s.IsBare → ∀ c, text[position]? = some c → isBlank c →
    (Lexed.ofLine text).tokens = s.tokens ++ s.words ++ (Lexed.ofLine (text.drop (position + 1))).tokens
  /-- So it does before an operator, if it is not the number of its stream. -/
  operator : s.IsBare → text[position]? = some '>' → s.selector = none →
    (Lexed.ofLine text).tokens = s.tokens ++ s.words ++ .redirect ⟨.out, modeOf text[position + 1]?⟩ ::
      (Lexed.ofLine (text.drop (after text (n + 1)).position)).tokens
  number : s.IsBare → text[position]? = some '>' → ∀ stream, s.selector = some stream →
    (Lexed.ofLine text).tokens = s.tokens ++ .redirect ⟨stream, modeOf text[position + 1]?⟩ ::
      (Lexed.ofLine (text.drop (after text (n + 1)).position)).tokens
  /-- At the end of the line it is the last token, in a quote or outside. -/
  ended : position = text.length → (Lexed.ofLine text).tokens = s.tokens ++ s.words

/-- **The fields of the lexer are consistent after every round**, and no pending word is lost or comes twice. -/
theorem consistent_after (text : Text) (n : Nat) : Consistent text n (after text n).lexer (after text n).position where
  toSound := sound_after text n
  begun_iff := begun_after_iff text n
  guarded_iff := guarded_after_iff text n
  position_le := position_le text n
  reads := reads_after text n
  ends all := by
    have := le_position_or_ended text n
    have := position_le text n
    omega
  began := by
    obtain ⟨j, before, ⟨tokens, fresh⟩, within⟩ := exists_began text n
    refine ⟨j, before, by rw [fresh, tokens_after_eq before fresh within], fun i from_j to_n => ?_⟩
    exact ⟨to_n, fun k from_i to_n => within k (Nat.le_trans from_j from_i) to_n⟩
  alone d typed unguarded := by
    obtain ⟨j, before, ⟨tokens, fresh⟩, within⟩ := exists_began text n
    have stands := take_after_eq before fresh within unguarded
    rw [pending, typed, List.reverse_singleton] at stands
    have inside := position_le text n
    have inside' := position_le text j
    have position : (after text n).position = (after text j).position + 1 := by
      have := congrArg List.length stands
      simp only [List.length_take, List.length_append, List.length_singleton] at this
      omega
    refine ⟨j, ?_, (after text j).position, ?_, ?_, position⟩
    · rcases Nat.lt_or_eq_of_le before with earlier | rfl
      · exact earlier
      · omega
    · rw [tokens_after_eq before fresh within, ← fresh]
    · have read : (after text j).position < (after text n).position := by omega
      rw [← List.getElem?_take_of_lt read, stands]
      simp [inside']
  bar _ adds some_bar := nothing_pending_of_bar adds some_bar
  goesOn := goesOn_after_succ
  blank bare c here blank := by
    have next := after_succ here
    rw [read_of_isBlank bare blank] at next
    rw [tokens_ofLine_of_fresh (congrArg Cursor.lexer next), next]
    rfl
  operator bare here none_selected := by
    have next := after_succ here
    rw [read_arrow bare, none_selected] at next
    rw [tokens_ofLine_of_fresh (congrArg Cursor.lexer next)]
    simp
  number bare here stream selected := by
    have next := after_succ here
    rw [read_arrow bare, selected] at next
    rw [tokens_ofLine_of_fresh (congrArg Cursor.lexer next)]
    simp
  ended := tokens_ofLine_of_ended

end Lexer

end PipeShell
