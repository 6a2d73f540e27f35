import PipeShell.Token.Lexer

/-!
# The marks of a line, and the tokens of marks

A line can be read in two phases.  The first, `Mark.scan`, knows nothing but the quote that it is in, and gives every
character a mark: plain, or guarded by a quote or a backslash; an opening quote leaves a mark of its own, so that an
empty quote is not lost.  The second, `Token.ofMarks`, sees the marks alone and cuts them into tokens.

The lemmas say what each phase does with the first character or mark that it meets.
-/

namespace PipeShell

/-- A character of a line, once its quotes are known. -/
inductive Mark
  | plain (c : Char)
  /-- Inside quotes, or after a backslash. -/
  | guarded (c : Char)
  /-- A quote opens here. -/
  | opening
  deriving DecidableEq

namespace Mark

def char? : Mark → Option Char
  | .plain c => some c
  | .guarded c => some c
  | .opening => none

def isGuarded : Mark → Bool
  | .plain _ => false
  | .guarded _ => true
  | .opening => true

/-- A blank that separates words. -/
def isSpace : Mark → Bool
  | .plain c => isBlank c
  | .guarded _ => false
  | .opening => false

/-- The characters under some marks. -/
def text (marks : List Mark) : Text := marks.filterMap char?

/-- One more mark in front. -/
def before (m : Mark) (scanned : List Mark × Option Quote) : List Mark × Option Quote :=
  (m :: scanned.1, scanned.2)

/-- The marks of a line whose beginning stands in a quote or outside, and the quote that its end stands in. -/
def scan : Option Quote → Text → List Mark × Option Quote
  | q, [] => ([], q)
  | none, c :: rest =>
    if c = '\'' then before .opening (scan (some .single) rest)
    else if c = '"' then before .opening (scan (some .double) rest)
    else if c = '\\' then
      match rest with
      | [] => ([.plain '\\'], none)
      | d :: rest => before (.guarded d) (scan none rest)
    else before (.plain c) (scan none rest)
  | some .single, c :: rest =>
    if c = '\'' then scan none rest else before (.guarded c) (scan (some .single) rest)
  | some .double, c :: rest =>
    if c = '"' then scan none rest
    else if c = '\\' then
      match rest with
      | [] => ([.guarded '\\'], some .double)
      | d :: rest =>
        if isEscapable d then before (.guarded d) (scan (some .double) rest)
        else before (.guarded '\\') (scan (some .double) (d :: rest))
    else before (.guarded c) (scan (some .double) rest)

/-- The marks end here, or a blank follows. -/
def endsWord : List Mark → Bool
  | [] => true
  | m :: _ => m.isSpace

end Mark

namespace Token

/-- The word that some marks make, if there are any. -/
def wordOf (pending : List Mark) : List Token := if pending = [] then [] else [.word (Mark.text pending)]

/-- The stream whose number some marks spell: a single plain digit. -/
def streamOf (pending : List Mark) : Option StdStream :=
  if pending = [.plain '1'] then some .out else if pending = [.plain '2'] then some .err else none

/-- An operator after some marks, which are the number of its stream or else a word. -/
def operatorOf (pending : List Mark) (mode : OpenMode) : List Token :=
  match streamOf pending with
  | some stream => [.redirect ⟨stream, mode⟩]
  | none => wordOf pending ++ [.redirect ⟨.out, mode⟩]

/-- The tokens of some marks after those of a pending word. -/
def ofMarksFrom (pending : List Mark) : List Mark → List Token
  | [] => wordOf pending
  | .plain '>' :: .plain '>' :: rest => operatorOf pending .append ++ ofMarksFrom [] rest
  | .plain '>' :: rest => operatorOf pending .overwrite ++ ofMarksFrom [] rest
  | m :: rest =>
    if m.isSpace then wordOf pending ++ ofMarksFrom [] rest
    else if m = .plain '|' ∧ pending = [] ∧ Mark.endsWord rest then .bar :: ofMarksFrom [] rest
    else ofMarksFrom (pending ++ [m]) rest

/-- The tokens of some marks. -/
def ofMarks (marks : List Mark) : List Token := ofMarksFrom [] marks

end Token

namespace Mark

@[simp] theorem text_nil : text [] = [] := rfl

@[simp] theorem text_append (l k : List Mark) : text (l ++ k) = text l ++ text k := List.filterMap_append

/-! ### The first phase -/

@[simp] theorem scan_nil (q : Option Quote) : scan q [] = ([], q) := by
  rcases q with _ | _ | _ <;> rfl

theorem scan_open (q : Quote) (rest : Text) :
    scan none (q.char :: rest) = before .opening (scan (some q) rest) := by
  cases q <;> cases rest <;> rfl

theorem scan_close (q : Quote) (rest : Text) : scan (some q) (q.char :: rest) = scan none rest := by
  cases q <;> cases rest <;> rfl

/-- At the end of the line a backslash stands for itself. -/
theorem scan_backslash : scan none ['\\'] = ([.plain '\\'], none) := rfl

theorem scan_escaped (d : Char) (rest : Text) :
    scan none ('\\' :: d :: rest) = before (.guarded d) (scan none rest) := rfl

/-- Outside quotes a character that quotes nothing is plain. -/
theorem scan_plain {c : Char} (h₁ : c ≠ '\'') (h₂ : c ≠ '"') (h₃ : c ≠ '\\') (rest : Text) :
    scan none (c :: rest) = before (.plain c) (scan none rest) := by
  cases rest <;> exact (if_neg h₁).trans ((if_neg h₂).trans (if_neg h₃))

theorem scan_single {c : Char} (hc : c ≠ '\'') (rest : Text) :
    scan (some .single) (c :: rest) = before (.guarded c) (scan (some .single) rest) :=
  if_neg hc

theorem scan_double {c : Char} (h₁ : c ≠ '"') (h₂ : c ≠ '\\') (rest : Text) :
    scan (some .double) (c :: rest) = before (.guarded c) (scan (some .double) rest) := by
  cases rest <;> exact (if_neg h₁).trans (if_neg h₂)

theorem scan_double_escaped {d : Char} (hd : isEscapable d) (rest : Text) :
    scan (some .double) ('\\' :: d :: rest) = before (.guarded d) (scan (some .double) rest) :=
  if_pos hd

/-- Inside double quotes a backslash stays where it escapes nothing. -/
theorem scan_double_backslash {rest : Text} (h : rest.head?.any isEscapable = false) :
    scan (some .double) ('\\' :: rest) = before (.guarded '\\') (scan (some .double) rest) := by
  cases rest with
  | nil => rfl
  | cons d rest =>
    have hd : ¬ isEscapable d = true := by simpa using h
    exact if_neg hd

/-- A character that quotes nothing comes first among the marks where it comes first in the text. -/
theorem head?_scan_none {c : Char} (h₁ : c ≠ '\'') (h₂ : c ≠ '"') (h₃ : c ≠ '\\') (rest : Text) :
    (scan none rest).1.head? = some (.plain c) ↔ rest.head? = some c := by
  cases rest with
  | nil => simp
  | cons d rest =>
    by_cases hd : d = '\\'
    · subst hd
      cases rest <;> simp [scan_backslash, scan_escaped, before, Ne.symm h₃]
    by_cases hs : d = '\''
    · have := scan_open .single rest
      simp_all [Quote.char, before, Ne.symm h₁]
    by_cases hq : d = '"'
    · have := scan_open .double rest
      simp_all [Quote.char, before, Ne.symm h₂]
    simp [scan_plain hs hq hd, before]

/-- Where the marks end a word, the text does. -/
theorem endsWord_scan_none (rest : Text) : endsWord (scan none rest).1 = PipeShell.endsWord rest.head? := by
  cases rest with
  | nil => simp [endsWord, PipeShell.endsWord]
  | cons d rest =>
    by_cases hd : d = '\\'
    · subst hd
      cases rest <;> simp [scan_backslash, scan_escaped, before, endsWord, PipeShell.endsWord, isSpace, isBlank]
    by_cases hs : d = '\''
    · have := scan_open .single rest
      simp_all [Quote.char, before, endsWord, PipeShell.endsWord, isSpace, isBlank]
    by_cases hq : d = '"'
    · have := scan_open .double rest
      simp_all [Quote.char, before, endsWord, PipeShell.endsWord, isSpace, isBlank]
    simp [scan_plain hs hq hd, before, endsWord, PipeShell.endsWord, isSpace]

end Mark

/-! ### The second phase -/

namespace Token

theorem ofMarksFrom_nil (pending : List Mark) : ofMarksFrom pending [] = wordOf pending := rfl

/-- What a mark does that is no operator. -/
theorem ofMarksFrom_cons {m : Mark} (other : m ≠ .plain '>') (pending rest : List Mark) :
    ofMarksFrom pending (m :: rest) =
      if m.isSpace then wordOf pending ++ ofMarksFrom [] rest
      else if m = .plain '|' ∧ pending = [] ∧ Mark.endsWord rest then .bar :: ofMarksFrom [] rest
      else ofMarksFrom (pending ++ [m]) rest := by
  rw [ofMarksFrom.eq_4] <;> simp [other]

/-- A blank ends the pending word. -/
theorem ofMarksFrom_blank {c : Char} (hc : isBlank c) (pending rest : List Mark) :
    ofMarksFrom pending (.plain c :: rest) = wordOf pending ++ ofMarksFrom [] rest := by
  have other : Mark.plain c ≠ .plain '>' := by
    rintro ⟨⟩
    simp [isBlank] at hc
  rw [ofMarksFrom_cons other]
  exact if_pos hc

/-- An operator ends the pending word, or takes it as the number of its stream. -/
theorem ofMarksFrom_operator (pending rest : List Mark) :
    ofMarksFrom pending (.plain '>' :: rest) =
      if rest.head? = some (.plain '>') then operatorOf pending .append ++ ofMarksFrom [] rest.tail
      else operatorOf pending .overwrite ++ ofMarksFrom [] rest := by
  split
  · rename_i h
    obtain ⟨rest, rfl⟩ := List.head?_eq_some_iff.1 h
    simp [ofMarksFrom]
  · rename_i h
    rw [ofMarksFrom.eq_3]
    rintro r rfl
    simp at h

/-- A bar is a token where a word could begin and ends. -/
theorem ofMarksFrom_bar (pending rest : List Mark) :
    ofMarksFrom pending (.plain '|' :: rest) =
      if pending = [] ∧ Mark.endsWord rest then .bar :: ofMarksFrom [] rest
      else ofMarksFrom (pending ++ [.plain '|']) rest := by
  rw [ofMarksFrom_cons (by simp)]
  simp [Mark.isSpace, isBlank]

/-- A guarded mark always belongs to the word. -/
theorem ofMarksFrom_guarded {m : Mark} (hm : m.isGuarded) (pending rest : List Mark) :
    ofMarksFrom pending (m :: rest) = ofMarksFrom (pending ++ [m]) rest := by
  cases m with
  | plain c => simp [Mark.isGuarded] at hm
  | guarded c => simp [ofMarksFrom_cons, Mark.isSpace]
  | opening => simp [ofMarksFrom_cons, Mark.isSpace]

/-- So does a plain character that separates nothing. -/
theorem ofMarksFrom_plain {c : Char} (hb : isBlank c = false) (ho : c ≠ '>') (hbar : c ≠ '|')
    (pending rest : List Mark) :
    ofMarksFrom pending (.plain c :: rest) = ofMarksFrom (pending ++ [.plain c]) rest := by
  rw [ofMarksFrom_cons (by simpa using ho)]
  simp [Mark.isSpace, hb, hbar]

end Token

end PipeShell
