import PipeShell.Proofs.Token.Rounds
import PipeShell.Proofs.Token.TwoPhases

/-!
# How far the lexer has read

Reading a line, the lexer goes from state to state, with less and less of the line before it (`Lexer.Reads`).  How a
character is read depends on the state and on the next character, and nothing else.  So a line can be read in two parts,
one after the other, if the last character of the first part is read before the second part as it is read at the end of
a line (`Lexer.readAll_append`).
-/

namespace PipeShell

namespace Lexer

/-- Reading `line` from `s`, the lexer comes to a state in which some of the line is still to be read. -/
inductive Reads (s : Lexer) (line : Text) : Lexer → Text → Prop
  | start : Reads s line s line
  | next {s' : Lexer} {c : Char} {rest : Text} (before : Reads s line s' (c :: rest)) :
      Reads s line (s'.read c rest.head?).1 (left (s'.read c rest.head?).2 rest)

variable {s s' : Lexer} {c : Char} {line rest : Text} {result : Lexed}

theorem left_suffix (both : Bool) (rest : Text) : left both rest <:+ rest := by
  unfold left
  split
  · exact List.tail_suffix rest
  · exact List.suffix_rfl

namespace Reads

/-- What comes of a line whose first character is read comes of the whole line. -/
theorem cons (later : (s.read c rest.head?).1.Reads (left (s.read c rest.head?).2 rest) s' line) :
    s.Reads (c :: rest) s' line := by
  induction later with
  | start => exact Reads.start.next
  | next _ ih => exact ih.next

theorem isSuffix (reads : s.Reads line s' rest) : rest <:+ line := by
  induction reads with
  | start => exact List.suffix_rfl
  | next _ ih => exact ((left_suffix _ _).trans (List.suffix_cons _ _)).trans ih

theorem readAll_eq (reads : s.Reads line s' rest) : s.readAll line = s'.readAll rest := by
  induction reads with
  | start => rfl
  | next _ ih => rw [ih, readAll_cons]

/-- On the way through a line the result stays the same. -/
theorem awaits (reads : s.Reads line s' rest) (awaits : s.Awaits line result) : s'.Awaits rest result := by
  induction reads with
  | start => exact awaits
  | next _ ih => exact ih.read

end Reads

/-- The lexer comes to the end of every line. -/
theorem reads_readAll : (s : Lexer) → (line : Text) → s.Reads line (s.readAll line) []
  | s, [] => .start
  | s, c :: rest => by
    rw [readAll_cons]
    exact (reads_readAll _ _).cons
  termination_by _ line => line.length
  decreasing_by exact Nat.lt_succ_of_le (length_left_le _ _)

/-- A line is empty, or there is a last character from which the lexer comes to the end. -/
theorem eq_nil_or_exists_last (s : Lexer) (line : Text) :
    line = [] ∨ ∃ s' c rest, s.Reads line s' (c :: rest) ∧ left (s'.read c rest.head?).2 rest = [] ∧
      s.readAll line = (s'.read c rest.head?).1 := by
  have reads := reads_readAll s line
  generalize s.readAll line = last at reads ⊢
  generalize ([] : Text) = ended at reads ⊢
  cases reads with
  | start => exact .inl rfl
  | next before => exact .inr ⟨_, _, _, before, rfl, rfl⟩

/-- Reading the last character takes no other one with it. -/
theorem read_none (s : Lexer) (c : Char) : (s.read c none).2 = false := by
  cases both : (s.read c none).2 with
  | false => rfl
  | true => exact absurd ((round_read s c none).isSome_next both) (by simp)

/-- Reading a line and then another one is reading both in a row, if the end of the first one is read alike before the
second one and before nothing. -/
theorem readAll_append {second : Text} : {s : Lexer} → {line : Text} →
    (∀ s' c, s.Reads line s' [c] → s'.read c second.head? = s'.read c none) →
      s.readAll (line ++ second) = (s.readAll line).readAll second
  | _, [], _ => rfl
  | s, [c], same => by
    rw [List.singleton_append, readAll_cons, same s c .start, read_none]
    rfl
  | s, c :: d :: rest, same => by
    have split : left (s.read c (some d)).2 (d :: (rest ++ second)) = left (s.read c (some d)).2 (d :: rest) ++ second := by
      cases (s.read c (some d)).2 <;> rfl
    simp only [List.cons_append, readAll_cons s c, List.head?_cons, split]
    exact readAll_append fun s' c' reads => same s' c' reads.cons
  termination_by _ line => line.length
  decreasing_by exact Nat.lt_succ_of_le (length_left_le _ _)

/-! ### The state on the way -/

/-- On the way through a line the lexer has the marks of a word pending, which are guarded inside a quote. -/
theorem Reads.exists_having (reads : ({} : Lexer).Reads line s rest) :
    ∃ q pending tokens, s = having q pending tokens ∧ (q.isSome → pending.any Mark.isGuarded) := by
  obtain ⟨q, pending, tokens, same, guarded, -⟩ := reads.awaits (awaits_ofMarks line)
  exact ⟨q, pending, tokens, same, guarded⟩

/-- From a state with a word pending the rest of the line gives what the two phases make of it. -/
theorem finish_readAll_having {q : Option Quote} {pending : List Mark} (guarded : q.isSome → pending.any Mark.isGuarded)
    (tokens : List Token) (rest : Text) :
    ((having q pending tokens).readAll rest).finish = foretold q pending tokens rest :=
  Awaits.finish_readAll ⟨q, pending, tokens, rfl, guarded, rfl⟩

/-- From a state with nothing pending, what is still to be read is lexed as a line of its own. -/
theorem finish_readAll_fresh (tokens : List Token) (rest : Text) :
    (({ tokens } : Lexer).readAll rest).finish =
      ⟨tokens ++ (Lexed.ofLine rest).tokens, (Lexed.ofLine rest).openQuote⟩ := by
  have started : (none : Option Quote).isSome → ([] : List Mark).any Mark.isGuarded := nofun
  have behind : Lexed.ofLine rest = foretold none [] [] rest := finish_readAll_having started [] rest
  rw [behind]
  exact finish_readAll_having started tokens rest

/-- What a line leaves pending at its end: its tokens are those before and the pending word, and it is open if the end
stands in a quote. -/
theorem exists_readAll_eq_having (line : Text) : ∃ q pending tokens, ({} : Lexer).readAll line = having q pending tokens ∧
    (q.isSome → pending.any Mark.isGuarded) ∧ Lexed.ofLine line = ⟨tokens ++ Token.wordOf pending, q⟩ := by
  obtain ⟨q, pending, tokens, same, guarded⟩ := (reads_readAll {} line).exists_having
  have finished := finish_readAll_having guarded tokens []
  refine ⟨q, pending, tokens, same, guarded, ?_⟩
  rw [Lexed.ofLine, same]
  rw [readAll] at finished
  simpa [foretold, Token.ofMarksFrom_nil] using finished

end Lexer

end PipeShell
