import PipeShell.Proofs.Token.Marks

/-!
# Quotes first, tokens second

The lexer quotes, escapes and cuts in one pass.  It gives what the two phases give that know the quotes before the
tokens: the marks of the line, and the tokens of the marks (`Lexed.ofLine_eq_ofMarks`).

`Lexer.having` is the state of the lexer when a word is pending of which only the marks are known, and `Lexer.Awaits`
says that the two phases, applied to what is still to be read, complete a state to a given result.  Reading a character
keeps the result (`Awaits.read`), with a case for each kind of character.
-/

namespace PipeShell

namespace Lexer

/-! ### The lexer with some marks pending -/

/-- The lexer in a quote or outside, with a word pending that has these marks. -/
def having (q : Option Quote) (pending : List Mark) (tokens : List Token) : Lexer where
  phase :=
    match q with
    | some q => .inQuote q
    | none => if pending = [] then .start else .inWord
  typed := (Mark.text pending).reverse
  begun := pending ≠ []
  guarded := pending.any Mark.isGuarded
  tokens

theorem having_nil : having none [] [] = {} := rfl

private theorem pending_having (q : Option Quote) (pending : List Mark) (tokens : List Token) :
    (having q pending tokens).pending = Mark.text pending := by
  simp [Lexer.pending, having]

private theorem flush_having (q : Option Quote) (pending : List Mark) (tokens : List Token) :
    { (having q pending tokens).flush with phase := .start } =
      having none [] (tokens ++ Token.wordOf pending) := by
  by_cases h : pending = []
  · subst h
    simp [flush, forget, having, Token.wordOf]
  · have hb : (having q pending tokens).begun = true := by simp [having, h]
    simp [flush, forget, emit, pending_having, hb, Token.wordOf, h]
    simp [having]

private theorem forget_having (q : Option Quote) (pending : List Mark) (tokens : List Token) :
    { (having q pending tokens).forget with phase := .start } = having none [] tokens := rfl

private theorem bar_having (tokens : List Token) :
    (having none [] tokens).emit .bar = having none [] (tokens ++ [.bar]) := rfl

private theorem push_having (pending : List Mark) (tokens : List Token) (c : Char) :
    (having none pending tokens).push c = having none (pending ++ [.plain c]) tokens := by
  simp [push, having, Mark.text, Mark.char?, Mark.isGuarded]

private theorem pushEscaped_having (pending : List Mark) (tokens : List Token) (c : Char) :
    (having none pending tokens).pushEscaped c = having none (pending ++ [.guarded c]) tokens := by
  simp [pushEscaped, push, having, Mark.text, Mark.char?, Mark.isGuarded]

private theorem openQuote_having (pending : List Mark) (tokens : List Token) (q : Quote) :
    (having none pending tokens).openQuote q = having (some q) (pending ++ [.opening]) tokens := by
  simp [openQuote, having, Mark.text, Mark.char?, Mark.isGuarded]

/-- Inside a quote the pending word is guarded already. -/
private theorem pushQuoted_having {pending : List Mark} (hg : pending.any Mark.isGuarded) (tokens : List Token)
    (q : Quote) (c : Char) :
    (having (some q) pending tokens).pushQuoted c = having (some q) (pending ++ [.guarded c]) tokens := by
  have hne : pending ≠ [] := by rintro rfl; simp at hg
  simp [pushQuoted, having, Mark.text, Mark.char?, Mark.isGuarded, hg, hne]

private theorem closeQuote_having {pending : List Mark} (hg : pending.any Mark.isGuarded) (tokens : List Token)
    (q : Quote) :
    { having (some q) pending tokens with phase := .inWord } = having none pending tokens := by
  have hne : pending ≠ [] := by rintro rfl; simp at hg
  simp [having, hne]

/-- Without guarded marks the characters are all there is to know about a word. -/
private theorem text_eq_singleton {pending : List Mark} (hg : pending.any Mark.isGuarded = false) {c : Char} :
    Mark.text pending = [c] ↔ pending = [.plain c] := by
  have hp : pending = (Mark.text pending).map .plain := by
    induction pending with
    | nil => rfl
    | cons m l ih =>
      simp only [List.any_cons, Bool.or_eq_false_iff] at hg
      cases m with
      | plain d => simpa [Mark.text, Mark.char?] using ih hg.2
      | guarded d => simp [Mark.isGuarded] at hg
      | opening => simp [Mark.isGuarded] at hg
  constructor
  · intro h
    rw [hp, h]
    rfl
  · rintro rfl
    rfl

private theorem selector_having (pending : List Mark) (tokens : List Token) :
    (having none pending tokens).selector = Token.streamOf pending := by
  cases hg : pending.any Mark.isGuarded with
  | true =>
    have h₁ : pending ≠ [.plain '1'] := by rintro rfl; simp [Mark.isGuarded] at hg
    have h₂ : pending ≠ [.plain '2'] := by rintro rfl; simp [Mark.isGuarded] at hg
    simp [selector, having, hg, Token.streamOf, h₁, h₂]
  | false =>
    have ht (c : Char) : (Mark.text pending).reverse = [c] ↔ pending = [.plain c] := by
      rw [List.reverse_eq_iff, List.reverse_singleton, text_eq_singleton hg]
    simp [selector, having, hg, Token.streamOf, ht]

private theorem readOperator_having (pending : List Mark) (tokens : List Token) (next : Option Char) :
    (having none pending tokens).readOperator next =
      (having none [] (tokens ++ Token.operatorOf pending (if next = some '>' then .append else .overwrite)),
        next == some '>') := by
  have hf := forget_having none pending tokens
  have hl := flush_having none pending tokens
  have he (l : Lexer) (t : Token) : { l.emit t with phase := .start } = { l with phase := .start }.emit t := rfl
  unfold readOperator Token.operatorOf
  rw [selector_having]
  cases Token.streamOf pending with
  | some stream =>
    simp only [Option.isSome_some, ↓reduceIte, he, hf, beq_iff_eq]
    rfl
  | none =>
    simp only [Option.isSome_none, Bool.false_eq_true, ↓reduceIte, he, hl, beq_iff_eq, ← List.append_assoc]
    rfl

/-! ### The result of what is still to be read -/

/-- What the two phases make of the rest of a line, after some tokens and a pending word. -/
def foretold (q : Option Quote) (pending : List Mark) (tokens : List Token) (rest : Text) : Lexed :=
  ⟨tokens ++ Token.ofMarksFrom pending (Mark.scan q rest).1, (Mark.scan q rest).2⟩

/-- The two phases, applied to what is still to be read, complete the state to this result.  A word that reaches into
a quote is guarded. -/
def Awaits (s : Lexer) (rest : Text) (result : Lexed) : Prop :=
  ∃ q pending tokens, s = having q pending tokens ∧ (q.isSome → pending.any Mark.isGuarded) ∧
    result = foretold q pending tokens rest

/-- What is still to be read after a character that may have taken the next one with it. -/
def left (both : Bool) (rest : Text) : Text := if both then rest.tail else rest

/-- The same of a state in which the next character may have been read together with the last one. -/
def AwaitsAfter (s : Lexer × Bool) (rest : Text) (result : Lexed) : Prop := s.1.Awaits (left s.2 rest) result

private theorem Awaits.of_bare {pending : List Mark} {tokens : List Token} {rest : Text} {result : Lexed}
    (h : result = foretold none pending tokens rest) : Awaits (having none pending tokens) rest result :=
  ⟨none, pending, tokens, rfl, by simp, h⟩

private theorem Awaits.of_quote {q : Quote} {pending : List Mark} {tokens : List Token} {rest : Text} {result : Lexed}
    (hg : pending.any Mark.isGuarded) (h : result = foretold (some q) pending tokens rest) :
    Awaits (having (some q) pending tokens) rest result :=
  ⟨some q, pending, tokens, rfl, fun _ => hg, h⟩

section Step

variable (pending : List Mark) (tokens : List Token) (rest : Text)

/-! ### A character outside quotes -/

private theorem readBare_blank {c : Char} (hb : isBlank c) :
    AwaitsAfter ((having none pending tokens).readBare c rest.head?) rest
      (foretold none pending tokens (c :: rest)) := by
  have h₁ : c ≠ '\'' := by rintro rfl; simp [isBlank] at hb
  have h₂ : c ≠ '"' := by rintro rfl; simp [isBlank] at hb
  have h₃ : c ≠ '\\' := by rintro rfl; simp [isBlank] at hb
  simp only [readBare, hb, ↓reduceIte, flush_having]
  apply Awaits.of_bare
  simp [foretold, left, Mark.scan_plain h₁ h₂ h₃, Mark.before, Token.ofMarksFrom_blank hb]

private theorem readBare_quote (q : Quote) :
    AwaitsAfter ((having none pending tokens).readBare q.char rest.head?) rest
      (foretold none pending tokens (q.char :: rest)) := by
  have hr : (having none pending tokens).readBare q.char rest.head? =
      ((having none pending tokens).openQuote q, false) := by
    cases q <;> simp [readBare, Quote.char, isBlank]
  rw [hr, openQuote_having]
  apply Awaits.of_quote (by simp [Mark.isGuarded])
  simp [foretold, left, Mark.scan_open, Mark.before, Token.ofMarksFrom_guarded (m := .opening) rfl]

private theorem readBare_backslash :
    AwaitsAfter ((having none pending tokens).readBare '\\' rest.head?) rest
      (foretold none pending tokens ('\\' :: rest)) := by
  cases rest with
  | nil =>
    -- at the end of the line the backslash has nothing to escape
    have hr : (having none pending tokens).readBare '\\' none = ((having none pending tokens).push '\\', false) := rfl
    rw [List.head?_nil, hr, push_having]
    apply Awaits.of_bare
    simp [foretold, left, Mark.scan_backslash, Token.ofMarksFrom_plain, isBlank]
  | cons d rest =>
    have hr : (having none pending tokens).readBare '\\' (some d) =
        ((having none pending tokens).pushEscaped d, true) := rfl
    rw [List.head?_cons, hr, pushEscaped_having]
    apply Awaits.of_bare
    simp [foretold, left, Mark.scan_escaped, Mark.before, Token.ofMarksFrom_guarded (m := .guarded d) rfl]

private theorem readBare_operator :
    AwaitsAfter ((having none pending tokens).readBare '>' rest.head?) rest
      (foretold none pending tokens ('>' :: rest)) := by
  have hr : (having none pending tokens).readBare '>' rest.head? =
      (having none pending tokens).readOperator rest.head? := by
    simp [readBare, isBlank]
  have hs := Mark.scan_plain (c := '>') (by decide) (by decide) (by decide)
  have hh := Mark.head?_scan_none (c := '>') (by decide) (by decide) (by decide) rest
  rw [hr, readOperator_having]
  apply Awaits.of_bare
  by_cases h : rest.head? = some '>'
  · obtain ⟨rest, rfl⟩ := List.head?_eq_some_iff.1 h
    simp [foretold, left, hs, Mark.before, Token.ofMarksFrom_operator]
  · have hne : (rest.head? == some '>') = false := by simpa using h
    simp [foretold, left, hs, Mark.before, Token.ofMarksFrom_operator, hh, h, hne]

private theorem readBare_bar :
    AwaitsAfter ((having none pending tokens).readBare '|' rest.head?) rest
      (foretold none pending tokens ('|' :: rest)) := by
  have hs := Mark.scan_plain (c := '|') (by decide) (by decide) (by decide) rest
  have hp : (having none pending tokens).phase = .start ↔ pending = [] := by simp [having]
  by_cases h : pending = [] ∧ endsWord rest.head?
  · obtain ⟨rfl, he⟩ := h
    have hr : (having none [] tokens).readBare '|' rest.head? = ((having none [] tokens).emit .bar, false) := by
      simp [readBare, isBlank, hp, he]
    rw [hr, bar_having]
    apply Awaits.of_bare
    simp [foretold, left, hs, Mark.before, Token.ofMarksFrom_bar, Mark.endsWord_scan_none, he]
  · have hr : (having none pending tokens).readBare '|' rest.head? =
        ((having none pending tokens).push '|', false) := by
      simp [readBare, isBlank, hp, h]
    rw [hr, push_having]
    apply Awaits.of_bare
    simp [foretold, left, hs, Mark.before, Token.ofMarksFrom_bar, Mark.endsWord_scan_none, h]

private theorem readBare_other {c : Char} (hb : isBlank c = false) (h₁ : c ≠ '\'') (h₂ : c ≠ '"') (h₃ : c ≠ '\\')
    (ho : c ≠ '>') (hbar : c ≠ '|') :
    AwaitsAfter ((having none pending tokens).readBare c rest.head?) rest
      (foretold none pending tokens (c :: rest)) := by
  have hr : (having none pending tokens).readBare c rest.head? = ((having none pending tokens).push c, false) := by
    simp [readBare, hb, h₁, h₂, h₃, ho, hbar]
  rw [hr, push_having]
  apply Awaits.of_bare
  simp [foretold, left, Mark.scan_plain h₁ h₂ h₃, Mark.before, Token.ofMarksFrom_plain hb ho hbar]

private theorem readBare_awaits (c : Char) :
    AwaitsAfter ((having none pending tokens).readBare c rest.head?) rest
      (foretold none pending tokens (c :: rest)) := by
  by_cases hb : isBlank c
  · exact readBare_blank pending tokens rest hb
  by_cases h₁ : c = '\''
  · exact h₁ ▸ readBare_quote pending tokens rest .single
  by_cases h₂ : c = '"'
  · exact h₂ ▸ readBare_quote pending tokens rest .double
  by_cases h₃ : c = '\\'
  · exact h₃ ▸ readBare_backslash pending tokens rest
  by_cases ho : c = '>'
  · exact ho ▸ readBare_operator pending tokens rest
  by_cases hbar : c = '|'
  · exact hbar ▸ readBare_bar pending tokens rest
  exact readBare_other pending tokens rest (by simpa using hb) h₁ h₂ h₃ ho hbar

/-! ### A character inside quotes -/

variable {pending}

private theorem close_awaits (hg : pending.any Mark.isGuarded) (q : Quote) :
    Awaits { having (some q) pending tokens with phase := .inWord } rest
      (foretold (some q) pending tokens (q.char :: rest)) := by
  rw [closeQuote_having hg]
  apply Awaits.of_bare
  simp [foretold, Mark.scan_close]

private theorem readSingle_awaits (hg : pending.any Mark.isGuarded) (c : Char) :
    Awaits ((having (some .single) pending tokens).readSingle c) rest
      (foretold (some .single) pending tokens (c :: rest)) := by
  unfold readSingle
  split
  · subst c
    exact close_awaits tokens rest hg .single
  · rename_i hc
    rw [pushQuoted_having hg]
    apply Awaits.of_quote (by simp [hg])
    simp [foretold, Mark.scan_single hc, Mark.before, Token.ofMarksFrom_guarded (m := .guarded c) rfl]

private theorem readDouble_backslash (hg : pending.any Mark.isGuarded) :
    AwaitsAfter ((having (some .double) pending tokens).readDouble '\\' rest.head?) rest
      (foretold (some .double) pending tokens ('\\' :: rest)) := by
  cases h : rest.head?.any isEscapable with
  | true =>
    obtain ⟨d, hd, he⟩ := (Option.any_eq_true _ _).1 h
    obtain ⟨rest, rfl⟩ := List.head?_eq_some_iff.1 hd
    have hr : (having (some .double) pending tokens).readDouble '\\' (some d) =
        ((having (some .double) pending tokens).pushQuoted d, true) := by
      simp [readDouble, he]
    rw [List.head?_cons, hr, pushQuoted_having hg]
    apply Awaits.of_quote (by simp [hg])
    simp [foretold, left, Mark.scan_double_escaped he, Mark.before, Token.ofMarksFrom_guarded (m := .guarded d) rfl]
  | false =>
    have hr : (having (some .double) pending tokens).readDouble '\\' rest.head? =
        ((having (some .double) pending tokens).pushQuoted '\\', false) := by
      cases rest with
      | nil => rfl
      | cons d rest =>
        have hd : isEscapable d = false := h
        simp [readDouble, hd]
    rw [hr, pushQuoted_having hg]
    apply Awaits.of_quote (by simp [hg])
    simp [foretold, left, Mark.scan_double_backslash h, Mark.before, Token.ofMarksFrom_guarded (m := .guarded _) rfl]

private theorem readDouble_awaits (hg : pending.any Mark.isGuarded) (c : Char) :
    AwaitsAfter ((having (some .double) pending tokens).readDouble c rest.head?) rest
      (foretold (some .double) pending tokens (c :: rest)) := by
  by_cases hq : c = '"'
  · subst hq
    exact close_awaits tokens rest hg .double
  by_cases hb : c = '\\'
  · exact hb ▸ readDouble_backslash tokens rest hg
  simp only [readDouble, hq, hb, ↓reduceIte, pushQuoted_having hg]
  apply Awaits.of_quote (by simp [hg])
  simp [foretold, left, Mark.scan_double hq hb, Mark.before, Token.ofMarksFrom_guarded (m := .guarded c) rfl]

end Step

/-! ### A whole line -/

/-- Reading a character keeps the result. -/
theorem Awaits.read {s : Lexer} {c : Char} {rest : Text} {result : Lexed} (h : s.Awaits (c :: rest) result) :
    AwaitsAfter (s.read c rest.head?) rest result := by
  obtain ⟨q, pending, tokens, rfl, hg, rfl⟩ := h
  match q with
  | none =>
    have hr : (having none pending tokens).read c rest.head? = (having none pending tokens).readBare c rest.head? := by
      by_cases hp : pending = [] <;> simp [Lexer.read, having, hp]
    rw [hr]
    exact readBare_awaits pending tokens rest c
  | some .single => exact readSingle_awaits tokens rest (hg rfl) c
  | some .double => exact readDouble_awaits tokens rest (hg rfl) c

/-- At the end of the line the result is there. -/
theorem Awaits.finish {s : Lexer} {result : Lexed} (h : s.Awaits [] result) : s.finish = result := by
  obtain ⟨q, pending, tokens, rfl, -, rfl⟩ := h
  have hf := congrArg Lexer.tokens (flush_having q pending tokens)
  simp only [having] at hf
  simp only [Lexer.finish, foretold, Mark.scan_nil, Token.ofMarksFrom_nil, Lexed.mk.injEq]
  refine ⟨hf, ?_⟩
  cases q with
  | none => by_cases hp : pending = [] <;> simp [having, hp]
  | some q => rfl

/-- Reading a text reads its first character, before the second one. -/
theorem readAll_cons (s : Lexer) (c : Char) (rest : Text) :
    s.readAll (c :: rest) = (s.read c rest.head?).1.readAll (left (s.read c rest.head?).2 rest) := by
  cases rest with
  | nil => cases h : (s.read c none).2 <;> simp [readAll, left, h]
  | cons d rest =>
    rw [readAll]
    cases h : (s.read c (some d)).2 <;> simp [left, h]

theorem length_left_le (both : Bool) (rest : Text) : (left both rest).length ≤ rest.length := by
  unfold left
  split <;> simp

/-- Reading the rest of the line gives the result. -/
theorem Awaits.finish_readAll {s : Lexer} {result : Lexed} :
    {line : Text} → s.Awaits line result → (s.readAll line).finish = result
  | [], h => h.finish
  | c :: rest, h => by
    rw [readAll_cons]
    exact h.read.finish_readAll
  termination_by line => line.length
  decreasing_by exact Nat.lt_succ_of_le (length_left_le _ _)

/-- Before a line is read, the result is that of the two phases. -/
theorem awaits_ofMarks (line : Text) :
    ({} : Lexer).Awaits line ⟨Token.ofMarks (Mark.scan none line).1, (Mark.scan none line).2⟩ := by
  rw [← having_nil]
  exact Awaits.of_bare rfl

end Lexer

/-- The lexer reads a line as if its quotes were known before its tokens: the marks of the line, made without regard
to tokens, give the tokens, and the quote in which the marks end is the open quote. -/
theorem Lexed.ofLine_eq_ofMarks (line : Text) :
    Lexed.ofLine line = ⟨Token.ofMarks (Mark.scan none line).1, (Mark.scan none line).2⟩ :=
  (Lexer.awaits_ofMarks line).finish_readAll

end PipeShell
