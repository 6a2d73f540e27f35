import PipeShell.Proofs.Token.Layout
import PipeShell.Proofs.Token.Reading

/-!
# Lines that go on

What is behind a line may change how its last character is read, and nothing else.  A backslash outside quotes escapes
what comes next, one inside double quotes may do so, a bar is a token only before a blank or nothing, and an arrow joins
another one.  Where none of this happens, a line and another one behind a blank have the tokens of the one and then
those of the other (`Lexed.ofLine_append`), and a quote at the end closes the open one, or else opens one and begins a
word if there is none yet (`Lexed.ofLine_append_quote`).
-/

namespace PipeShell

namespace Lexer

variable {s : Lexer} {c d : Char} {q : Quote} {line : Text}

/-- A line ends in these characters, and the lexer comes to them in such a state. -/
def EndsIn (line last : Text) (P : Lexer → Prop) : Prop := ∃ s, ({} : Lexer).Reads line s last ∧ P s

/-- A line is empty, or it ends in a blank or an operator that is neither quoted nor escaped. -/
def EndsFree (line : Text) : Prop :=
  line = [] ∨ (∃ c, isBlank c ∧ EndsIn line [c] IsBare) ∨ EndsIn line ['>'] IsBare ∨ EndsIn line ['>', '>'] IsBare

theorem not_endsIn {last : Text} (other : ¬ last <:+ line) (P : Lexer → Prop) : ¬ EndsIn line last P := by
  rintro ⟨s, reads, -⟩
  exact other reads.isSuffix

/-! ### The next character -/

private theorem eq_of_isBlank (blank : isBlank d) : d = ' ' ∨ d = '\t' := by
  simpa [isBlank] using blank

/-- Before a blank a character is read as at the end of the line, unless it is a backslash outside quotes. -/
theorem read_blank (blank : isBlank d) (noEscape : c = '\\' → ¬ s.IsBare) : s.read c (some d) = s.read c none := by
  have operator : s.readOperator (some d) = s.readOperator none := by
    rcases eq_of_isBlank blank with rfl | rfl <;> rfl
  have ends : endsWord (some d) = endsWord none := blank
  have plain : isEscapable d = false := by
    rcases eq_of_isBlank blank with rfl | rfl <;> rfl
  rcases s.isBare_or_inQuote with bare | ⟨q, phase⟩
  · have other : c ≠ '\\' := fun same => noEscape same bare
    simp only [read_of_isBare bare, readBare, operator, ends, if_neg other]
  · cases q with
    | single => simp [read, phase]
    | double => simp [read, phase, readDouble, plain]

/-- So it is before a quote, unless it is a backslash that is not in single quotes, or a bar where a word could begin. -/
theorem read_quote (q : Quote) (noEscape : c = '\\' → s.phase = .inQuote .single) (noBar : c = '|' → s.phase ≠ .start) :
    s.read c (some q.char) = s.read c none := by
  have operator : s.readOperator (some q.char) = s.readOperator none := by cases q <;> rfl
  rcases s.isBare_or_inQuote with bare | ⟨q', phase⟩
  · have other : c ≠ '\\' := fun same => bare _ (noEscape same)
    have noToken (next : Option Char) : ¬ (c = '|' ∧ s.phase = .start ∧ endsWord next) := fun h => noBar h.1 h.2.1
    simp only [read_of_isBare bare, readBare, operator, if_neg other, if_neg (noToken _)]
  · cases q' with
    | single => simp [read, phase]
    | double =>
      have other : c ≠ '\\' := fun same => by simpa [phase] using noEscape same
      simp [read, phase, readDouble, other]

/-! ### The state after the last character -/

theorem phase_read_backslash (s : Lexer) :
    (s.read '\\' none).1.phase = if s.phase = .start then .inWord else s.phase := by
  cases phase : s.phase with
  | start => simp [read, phase, readBare, isBlank, push]
  | inWord => simp [read, phase, readBare, isBlank, push]
  | inQuote q => cases q <;> simp [read, phase, readSingle, readDouble, pushQuoted]

/-- At the end of a line a word may begin where the line ends free, if it does not end in a bar that is a token. -/
theorem phase_readAll_eq_start (noBar : ¬ EndsIn line ['|'] (·.phase = .start)) :
    (({} : Lexer).readAll line).phase = .start ↔ EndsFree line := by
  constructor
  · intro start
    rcases eq_nil_or_exists_last {} line with empty | ⟨s, c, rest, reads, ended, last⟩
    · exact .inl empty
    · rw [last] at start
      obtain ⟨bare, first⟩ := phase_read_eq_start.1 start
      cases rest with
      | nil =>
        rcases first with blank | rfl | ⟨rfl, phase, -⟩
        · exact .inr (.inl ⟨c, blank, s, reads, bare⟩)
        · exact .inr (.inr (.inl ⟨s, reads, bare⟩))
        · exact absurd ⟨s, reads, phase⟩ noBar
      | cons d rest =>
        -- Two characters are read at once, which only the arrows of an operator are where a word may begin.
        have both : (s.readBare c (some d)).2 = true ∧ rest = [] := by
          rw [List.head?_cons, read_of_isBare bare] at ended
          cases taken : (s.readBare c (some d)).2 <;> simp_all [left]
        obtain ⟨taken, rfl⟩ := both
        rcases first with blank | rfl | ⟨rfl, phase, ends⟩
        · simp [readBare, blank] at taken
        · obtain rfl : d = '>' := by simpa [readBare, readOperator, isBlank] using taken
          exact .inr (.inr (.inr ⟨s, reads, bare⟩))
        · simp [readBare, phase, show endsWord (some d) = true from ends, isBlank] at taken
  · have phase {s : Lexer} {last : Text} (reads : ({} : Lexer).Reads line s last) :
        (({} : Lexer).readAll line).phase = (s.readAll last).phase := by rw [reads.readAll_eq]
    rintro (rfl | ⟨c, blank, s, reads, bare⟩ | ⟨s, reads, bare⟩ | ⟨s, reads, bare⟩)
    · rfl
    · exact (phase reads).trans (phase_read_eq_start.2 ⟨bare, .inl blank⟩)
    · exact (phase reads).trans (phase_read_eq_start.2 ⟨bare, .inr (.inl rfl)⟩)
    · rw [phase reads, readAll_cons, read_of_isBare bare]
      simp [readBare, readOperator, isBlank, left, readAll]

end Lexer

namespace Lexed

open Lexer

variable {line : Text} {q : Quote}

/-- What comes of a line that goes on, if its last character is read as at the end of the line. -/
private theorem exists_ofLine_append (second : Text)
    (same : ∀ s c, ({} : Lexer).Reads line s [c] → s.read c second.head? = s.read c none) :
    ∃ pending tokens, (({} : Lexer).readAll line) = having (ofLine line).openQuote pending tokens ∧
      (ofLine line).tokens = tokens ++ Token.wordOf pending ∧
      ofLine (line ++ second) = foretold (ofLine line).openQuote pending tokens second := by
  obtain ⟨q, pending, tokens, state, guarded, lexed⟩ := exists_readAll_eq_having line
  refine ⟨pending, tokens, by rw [state, lexed], by rw [lexed], ?_⟩
  rw [ofLine, readAll_append same, state, finish_readAll_having guarded, lexed]

/-- **The tokens of two lines with a blank between them** are those of the one and then those of the other, if no quote
and no escape reaches from the one into the other. -/
theorem ofLine_append {gap second : Text} (some_gap : gap ≠ []) (blank : ∀ c ∈ gap, isBlank c)
    (closed : (ofLine line).openQuote = none) (noEscape : ¬ EndsIn line ['\\'] IsBare) :
    ofLine (line ++ gap ++ second) = ⟨(ofLine line).tokens ++ (ofLine second).tokens, (ofLine second).openQuote⟩ := by
  have same (s : Lexer) (c : Char) (reads : ({} : Lexer).Reads line s [c]) :
      s.read c (gap ++ second).head? = s.read c none := by
    obtain ⟨b, gap, rfl⟩ := List.exists_cons_of_ne_nil some_gap
    exact read_blank (blank b List.mem_cons_self) fun escape bare => noEscape ⟨s, escape ▸ reads, bare⟩
  obtain ⟨pending, tokens, -, before, lexed⟩ := exists_ofLine_append _ same
  have behind : ofLine second = foretold none [] [] second :=
    have started : (none : Option Quote).isSome → ([] : List Mark).any Mark.isGuarded := nofun
    finish_readAll_having started [] second
  rw [List.append_assoc, lexed, closed, before, behind, foretold, foretold, scan_gap blank,
    ofMarksFrom_gap blank some_gap]
  simp

/-- The line `x >`, a tab, and the line `> 'a`: the arrows stay apart, and the quote stays open. -/
theorem ofLine_append_arrows :
    let line := "x >".toList
    let second := "> 'a".toList
    (∀ c ∈ ['\t'], isBlank c) ∧ (ofLine line).openQuote = none ∧ ¬ EndsIn line ['\\'] IsBare ∧
      ofLine (line ++ ['\t'] ++ second) =
        ⟨[.word ['x'], .redirect ⟨.out, .overwrite⟩, .redirect ⟨.out, .overwrite⟩, .word ['a']], some .single⟩ := by
  intro line second
  have blank : ∀ c ∈ ['\t'], isBlank c := by simp [isBlank]
  have noEscape : ¬ EndsIn line ['\\'] IsBare := not_endsIn (by decide) _
  exact ⟨blank, rfl, noEscape, ofLine_append (by simp) blank rfl noEscape⟩

/-! ### Quotes at the end -/

theorem openQuote_eq_some_iff : (ofLine line).openQuote = some q ↔ (({} : Lexer).readAll line).phase = .inQuote q := by
  unfold ofLine finish
  cases (({} : Lexer).readAll line).phase <;> simp

/-- The open quote at the end of a line is closed there. -/
private theorem ofLine_close (opened : (ofLine line).openQuote = some q)
    (noEscape : q = .double → ¬ EndsIn line ['\\'] (·.phase = .inQuote .double)) :
    ofLine (line ++ [q.char]) = ⟨(ofLine line).tokens, none⟩ := by
  have same (s : Lexer) (c : Char) (reads : ({} : Lexer).Reads line s [c]) : s.read c (some q.char) = s.read c none := by
    have phase : (s.read c none).1.phase = .inQuote q := by
      have last := openQuote_eq_some_iff.1 opened
      rwa [reads.readAll_eq, readAll] at last
    refine read_quote q (fun escape => ?_) (fun bar start => ?_)
    · rw [escape, phase_read_backslash] at phase
      split at phase
      · cases phase
      · cases q with
        | single => exact phase
        | double => exact absurd ⟨s, escape ▸ reads, phase⟩ (noEscape rfl)
    · have bare : s.IsBare := by simp [IsBare, start]
      rw [phase_read_eq_start.2 ⟨bare, .inr (.inr ⟨bar, start, rfl⟩)⟩] at phase
      cases phase
  obtain ⟨pending, tokens, -, before, lexed⟩ := exists_ofLine_append [q.char] same
  rw [lexed, opened, before, foretold, Mark.scan_close]
  simp [Token.ofMarksFrom_nil]

/-- A quote at the end of a line that has none open is open there, and belongs to the word before it, if there is one. -/
private theorem ofLine_open (closed : (ofLine line).openQuote = none) (noEscape : ¬ EndsIn line ['\\'] IsBare)
    (noBar : ¬ EndsIn line ['|'] (·.phase = .start)) (q : Quote) :
    (EndsFree line → ofLine (line ++ [q.char]) = ⟨(ofLine line).tokens ++ [.word []], some q⟩) ∧
      (¬ EndsFree line → ofLine (line ++ [q.char]) = ⟨(ofLine line).tokens, some q⟩) := by
  have same (s : Lexer) (c : Char) (reads : ({} : Lexer).Reads line s [c]) : s.read c (some q.char) = s.read c none := by
    refine read_quote q (fun escape => ?_) (fun bar start => noBar ⟨s, bar ▸ reads, start⟩)
    rcases s.isBare_or_inQuote with bare | ⟨q', phase⟩
    · exact absurd ⟨s, escape ▸ reads, bare⟩ noEscape
    · have stays : (({} : Lexer).readAll line).phase = .inQuote q' := by
        rw [reads.readAll_eq, readAll, escape, phase_read_backslash, phase]
        rfl
      rw [openQuote_eq_some_iff.2 stays] at closed
      cases closed
  obtain ⟨pending, tokens, state, before, lexed⟩ := exists_ofLine_append [q.char] same
  rw [closed] at state lexed
  have free : EndsFree line ↔ pending = [] := by
    rw [← phase_readAll_eq_start noBar, state]
    simp [having]
  have opened : ofLine (line ++ [q.char]) = ⟨tokens ++ [.word (Mark.text pending)], some q⟩ := by
    rw [lexed, foretold, Mark.scan_open]
    simp [Mark.before, Token.ofMarksFrom_guarded (m := .opening) rfl, Token.ofMarksFrom_nil, Token.wordOf, Mark.text,
      Mark.char?]
  rw [free, opened, before]
  constructor
  · rintro rfl
    simp [Token.wordOf]
  · intro pending_word
    simp [Token.wordOf, pending_word]

/-- **A quote at the end of a line closes the open quote**, and leaves the tokens as they are, unless a backslash before it
escapes it.  If no quote is open it opens one, which is reported, and the tokens are the same but for an empty word where
there is no word that the quote could belong to. -/
theorem ofLine_append_quote (line : Text) (q : Quote) :
    ((ofLine line).openQuote = some q → (q = .double → ¬ EndsIn line ['\\'] (·.phase = .inQuote .double)) →
        ofLine (line ++ [q.char]) = ⟨(ofLine line).tokens, none⟩) ∧
      ((ofLine line).openQuote = none → ¬ EndsIn line ['\\'] IsBare → ¬ EndsIn line ['|'] (·.phase = .start) →
        (EndsFree line → ofLine (line ++ [q.char]) = ⟨(ofLine line).tokens ++ [.word []], some q⟩) ∧
          (¬ EndsFree line → ofLine (line ++ [q.char]) = ⟨(ofLine line).tokens, some q⟩)) :=
  ⟨ofLine_close, fun closed noEscape noBar => ofLine_open closed noEscape noBar q⟩

/-- The line `x "2>` with its quote closed, and the line `x 2>` with a quote behind it, which begins an empty word. -/
theorem ofLine_append_quote_number :
    ((ofLine "x \"2>".toList).openQuote = some .double ∧
        ¬ EndsIn "x \"2>".toList ['\\'] (·.phase = .inQuote .double) ∧
        ofLine ("x \"2>".toList ++ ['"']) = ⟨[.word ['x'], .word ['2', '>']], none⟩) ∧
      ((ofLine "x 2>".toList).openQuote = none ∧ ¬ EndsIn "x 2>".toList ['\\'] IsBare ∧
        ¬ EndsIn "x 2>".toList ['|'] (·.phase = .start) ∧ EndsFree "x 2>".toList ∧
        ofLine ("x 2>".toList ++ ['"']) = ⟨[.word ['x'], .redirect ⟨.err, .overwrite⟩, .word []], some .double⟩) := by
  have noEscape : ¬ EndsIn "x \"2>".toList ['\\'] (·.phase = .inQuote .double) := not_endsIn (by decide) _
  have noEscape' : ¬ EndsIn "x 2>".toList ['\\'] IsBare := not_endsIn (by decide) _
  have noBar : ¬ EndsIn "x 2>".toList ['|'] (·.phase = .start) := not_endsIn (by decide) _
  have free : EndsFree "x 2>".toList := (phase_readAll_eq_start noBar).1 rfl
  exact ⟨⟨rfl, noEscape, (ofLine_append_quote _ .double).1 rfl fun _ => noEscape⟩,
    rfl, noEscape', noBar, free, ((ofLine_append_quote _ .double).2 rfl noEscape' noBar).1 free⟩

end Lexed

end PipeShell
