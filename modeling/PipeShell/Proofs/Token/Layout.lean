import Mathlib.Data.List.Basic
import PipeShell.Proofs.Token.TwoPhases

/-!
# Laying tokens out on a line

A word is written in pieces, each bare, quoted in one of the two ways, or escaped; an operator is written with or
without the number of its stream.  Between these elements stand blanks, which may be left out where nothing runs
together (`Element.MayTouch`).

However some elements are laid out, their tokens are read back (`Layout.ofLine_eq`).  The line is followed through the
two phases of reading: first the marks that an element leaves, then the tokens of the marks, where the marks of a word
stay pending until something ends the word.
-/

namespace PipeShell

/-- A character that stands for itself wherever it is written. -/
def isBare (c : Char) : Bool :=
  !isBlank c && c != '\'' && c != '"' && c != '\\' && c != '>' && c != '|'

/-- A part of a written word. -/
inductive Piece
  | bare (text : Text) (ne_nil : text ≠ []) (bare : ∀ c ∈ text, isBare c)
  | single (text : Text) (quote_notMem : '\'' ∉ text)
  | double (text : Text)
  | escaped (c : Char)

namespace Piece

/-- A character inside double quotes. -/
def inDouble (c : Char) : Text := if isEscapable c then ['\\', c] else [c]

/-- The characters that a piece adds to the word. -/
def text : Piece → Text
  | .bare t _ _ => t
  | .single t _ => t
  | .double t => t
  | .escaped c => [c]

/-- What is written. -/
def spelling : Piece → Text
  | .bare t _ _ => t
  | .single t _ => '\'' :: t ++ ['\'']
  | .double t => '"' :: t.flatMap inDouble ++ ['"']
  | .escaped c => ['\\', c]

/-- How the first phase reads it. -/
def marks : Piece → List Mark
  | .bare t _ _ => t.map .plain
  | .single t _ => .opening :: t.map .guarded
  | .double t => .opening :: t.map .guarded
  | .escaped c => [.guarded c]

end Piece

/-- A word in pieces, of which there is at least one. -/
structure WrittenWord where
  pieces : List Piece
  ne_nil : pieces ≠ []

namespace WrittenWord

def text (w : WrittenWord) : Text := w.pieces.flatMap Piece.text

def spelling (w : WrittenWord) : Text := w.pieces.flatMap Piece.spelling

def marks (w : WrittenWord) : List Mark := w.pieces.flatMap Piece.marks

/-- A word that an operator could take as the number of its stream. -/
def isNumber (w : WrittenWord) : Bool := w.spelling == ['1'] || w.spelling == ['2']

end WrittenWord

/-- The ways to write an operator. -/
inductive Sign
  | plain (mode : OpenMode)
  | one (mode : OpenMode)
  | two (mode : OpenMode)

namespace Sign

def operator : Sign → Operator
  | .plain mode => ⟨.out, mode⟩
  | .one mode => ⟨.out, mode⟩
  | .two mode => ⟨.err, mode⟩

def number : Sign → Text
  | .plain _ => []
  | .one _ => ['1']
  | .two _ => ['2']

/-- The arrows of an operator. -/
def arrows (s : Sign) : Text :=
  match s.operator.mode with
  | .overwrite => ['>']
  | .append => ['>', '>']

end Sign

/-- What stands between blanks. -/
inductive Element
  | word (w : WrittenWord)
  | operator (s : Sign)
  | bar

namespace Element

def token : Element → Token
  | .word w => .word w.text
  | .operator s => .redirect s.operator
  | .bar => .bar

def spelling : Element → Text
  | .word w => w.spelling
  | .operator s => s.number ++ s.arrows
  | .bar => ['|']

def marks : Element → List Mark
  | .word w => w.marks
  | .operator s => (s.number ++ s.arrows).map .plain
  | .bar => [.plain '|']

/-- No blank is needed between these two: a file name may follow its operator, and an operator without number may
follow a word that is not a number itself. -/
def MayTouch : Element → Element → Prop
  | .operator _, .word _ => True
  | .word w, .operator (.plain _) => w.isNumber = false
  | _, _ => False

end Element

/-- A text is made of these elements, which follow another one or the beginning of the line, with blanks between. -/
inductive Layout : Option Element → List Element → Text → Prop
  | done {last : Option Element} (gap : Text) (hgap : ∀ c ∈ gap, isBlank c) : Layout last [] gap
  | next {last : Option Element} {e : Element} {es : List Element} (gap : Text) {rest : Text}
    (hgap : ∀ c ∈ gap, isBlank c) (htouch : gap = [] → ∀ b ∈ last, b.MayTouch e) (h : Layout (some e) es rest) :
    Layout last (e :: es) (gap ++ e.spelling ++ rest)

/-! ### The marks of a spelling -/

private theorem not_blank_of_isBare {c : Char} (h : isBare c) : isBlank c = false := by
  simp_all [isBare]

private theorem ne_of_isBare {c : Char} (h : isBare c) : c ≠ '\'' ∧ c ≠ '"' ∧ c ≠ '\\' ∧ c ≠ '>' ∧ c ≠ '|' := by
  simp_all [isBare]

/-- A text that quotes nothing has plain marks. -/
private theorem scan_plain_text {t : Text} (ht : ∀ c ∈ t, c ≠ '\'' ∧ c ≠ '"' ∧ c ≠ '\\') (rest : Text) :
    Mark.scan none (t ++ rest) = (t.map .plain ++ (Mark.scan none rest).1, (Mark.scan none rest).2) := by
  induction t with
  | nil => rfl
  | cons c t ih =>
    obtain ⟨h₁, h₂, h₃⟩ := ht c (List.mem_cons_self ..)
    rw [List.cons_append, Mark.scan_plain h₁ h₂ h₃, ih fun d hd => ht d (List.mem_cons_of_mem _ hd)]
    rfl

private theorem scan_single_text {t : Text} (ht : '\'' ∉ t) (rest : Text) :
    Mark.scan (some .single) (t ++ '\'' :: rest) =
      (t.map .guarded ++ (Mark.scan none rest).1, (Mark.scan none rest).2) := by
  induction t with
  | nil => exact Mark.scan_close .single rest
  | cons c t ih =>
    simp only [List.mem_cons, not_or] at ht
    rw [List.cons_append, Mark.scan_single (Ne.symm ht.1), ih ht.2]
    rfl

private theorem scan_double_text (t rest : Text) :
    Mark.scan (some .double) (t.flatMap Piece.inDouble ++ '"' :: rest) =
      (t.map .guarded ++ (Mark.scan none rest).1, (Mark.scan none rest).2) := by
  induction t with
  | nil => exact Mark.scan_close .double rest
  | cons c t ih =>
    rw [List.flatMap_cons, List.append_assoc]
    by_cases hc : isEscapable c
    · have he : Piece.inDouble c = ['\\', c] := if_pos hc
      rw [he, List.cons_append, List.singleton_append, Mark.scan_double_escaped hc, ih]
      rfl
    · have he : Piece.inDouble c = [c] := if_neg hc
      have h₁ : c ≠ '"' := by rintro rfl; simp [isEscapable] at hc
      have h₂ : c ≠ '\\' := by rintro rfl; simp [isEscapable] at hc
      rw [he, List.singleton_append, Mark.scan_double h₁ h₂, ih]
      rfl

private theorem scan_piece (p : Piece) (rest : Text) :
    Mark.scan none (p.spelling ++ rest) = (p.marks ++ (Mark.scan none rest).1, (Mark.scan none rest).2) := by
  cases p with
  | bare t _ hb =>
    apply scan_plain_text
    intro c hc
    obtain ⟨h₁, h₂, h₃, -⟩ := ne_of_isBare (hb c hc)
    exact ⟨h₁, h₂, h₃⟩
  | single t ht =>
    have ho := Mark.scan_open .single (t ++ '\'' :: rest)
    rw [scan_single_text ht] at ho
    simpa [Piece.spelling, Piece.marks, Mark.before, Quote.char] using ho
  | double t =>
    have ho := Mark.scan_open .double (t.flatMap Piece.inDouble ++ '"' :: rest)
    rw [scan_double_text] at ho
    simpa [Piece.spelling, Piece.marks, Mark.before, Quote.char] using ho
  | escaped c => exact Mark.scan_escaped c rest

private theorem scan_word (w : WrittenWord) (rest : Text) :
    Mark.scan none (w.spelling ++ rest) = (w.marks ++ (Mark.scan none rest).1, (Mark.scan none rest).2) := by
  unfold WrittenWord.spelling WrittenWord.marks
  induction w.pieces with
  | nil => rfl
  | cons p ps ih => simp only [List.flatMap_cons, List.append_assoc, scan_piece, ih]

private theorem scan_element (e : Element) (rest : Text) :
    Mark.scan none (e.spelling ++ rest) = (e.marks ++ (Mark.scan none rest).1, (Mark.scan none rest).2) := by
  cases e with
  | word w => exact scan_word w rest
  | operator s =>
    apply scan_plain_text
    rcases s with mode | mode | mode <;> cases mode <;>
      simp [Element.spelling, Sign.number, Sign.arrows, Sign.operator]
  | bar => exact scan_plain_text (t := ['|']) (by simp) rest

theorem scan_gap {gap : Text} (hgap : ∀ c ∈ gap, isBlank c) (rest : Text) :
    Mark.scan none (gap ++ rest) = (gap.map .plain ++ (Mark.scan none rest).1, (Mark.scan none rest).2) := by
  apply scan_plain_text
  intro c hc
  have hb := hgap c hc
  refine ⟨?_, ?_, ?_⟩ <;> rintro rfl <;> simp [isBlank] at hb

/-! ### The tokens of the marks -/

/-- Marks of a word join the pending word. -/
private theorem ofMarksFrom_marks {l : List Mark} (hl : ∀ m ∈ l, m.isGuarded ∨ ∃ c, m = .plain c ∧ isBare c)
    (pending ms : List Mark) : Token.ofMarksFrom pending (l ++ ms) = Token.ofMarksFrom (pending ++ l) ms := by
  induction l generalizing pending with
  | nil => simp
  | cons m l ih =>
    have hrest := ih fun k hk => hl k (List.mem_cons_of_mem _ hk)
    have hm : Token.ofMarksFrom pending (m :: (l ++ ms)) = Token.ofMarksFrom (pending ++ [m]) (l ++ ms) := by
      rcases hl m (List.mem_cons_self ..) with hg | ⟨c, rfl, hc⟩
      · exact Token.ofMarksFrom_guarded hg ..
      · obtain ⟨-, -, -, ho, hb⟩ := ne_of_isBare hc
        exact Token.ofMarksFrom_plain (not_blank_of_isBare hc) ho hb ..
    rw [List.cons_append, hm, hrest, List.append_assoc, List.singleton_append]

private theorem mem_marks {w : WrittenWord} {m : Mark} (hm : m ∈ w.marks) :
    m.isGuarded ∨ ∃ c, m = .plain c ∧ isBare c := by
  have hguarded {t : Text} (h : m ∈ Mark.opening :: t.map .guarded) : m.isGuarded := by
    rcases List.mem_cons.1 h with rfl | h
    · rfl
    · obtain ⟨c, -, rfl⟩ := List.mem_map.1 h
      rfl
  obtain ⟨p, -, hp⟩ := List.mem_flatMap.1 hm
  cases p with
  | bare t _ hb =>
    obtain ⟨c, hc, rfl⟩ := List.mem_map.1 hp
    exact .inr ⟨c, rfl, hb c hc⟩
  | single t _ => exact .inl (hguarded hp)
  | double t => exact .inl (hguarded hp)
  | escaped c =>
    obtain rfl := List.mem_singleton.1 hp
    exact .inl rfl

private theorem marks_ne_nil (w : WrittenWord) : w.marks ≠ [] := by
  obtain ⟨p, ps, hp⟩ := List.exists_cons_of_ne_nil w.ne_nil
  have hne : p.marks ≠ [] := by
    cases p with
    | bare t ht _ => simpa [Piece.marks] using ht
    | single t _ => simp [Piece.marks]
    | double t => simp [Piece.marks]
    | escaped c => simp [Piece.marks]
  simp [WrittenWord.marks, hp, hne]

private theorem text_marks (w : WrittenWord) : Mark.text w.marks = w.text := by
  have hpiece (p : Piece) : Mark.text p.marks = p.text := by
    cases p <;> simp [Piece.marks, Piece.text, Mark.text, List.filterMap_cons, List.filterMap_map, Function.comp_def, Mark.char?]
  unfold WrittenWord.marks WrittenWord.text
  induction w.pieces with
  | nil => rfl
  | cons p ps ih => simp [ih, hpiece]

/-- A word whose marks are all plain is written as they are. -/
private theorem marks_of_plain {w : WrittenWord} (h : ∀ m ∈ w.marks, m.isGuarded = false) :
    w.marks = w.spelling.map .plain := by
  have hp : ∀ p ∈ w.pieces, p.marks = p.spelling.map .plain := by
    intro p hp
    have hm : ∀ m ∈ p.marks, m.isGuarded = false := fun m hm => h m (List.mem_flatMap.2 ⟨p, hp, hm⟩)
    cases p with
    | bare t _ _ => rfl
    | single t _ => simp [Piece.marks, Mark.isGuarded] at hm
    | double t => simp [Piece.marks, Mark.isGuarded] at hm
    | escaped c => simp [Piece.marks, Mark.isGuarded] at hm
  rw [WrittenWord.marks, WrittenWord.spelling, List.map_flatMap]
  exact List.flatMap_congr hp

private theorem streamOf_marks {w : WrittenWord} (h : w.isNumber = false) : Token.streamOf w.marks = none := by
  have hne (c : Char) (hc : w.spelling ≠ [c]) : w.marks ≠ [.plain c] := by
    intro hm
    have hp := marks_of_plain (w := w) (by simp [hm, Mark.isGuarded])
    rw [hm, eq_comm, List.map_eq_singleton_iff] at hp
    obtain ⟨d, hd, hdc⟩ := hp
    exact hc (by rw [hd, Mark.plain.inj hdc])
  simp only [WrittenWord.isNumber, Bool.or_eq_false_iff, beq_eq_false_iff_ne] at h
  simp [Token.streamOf, hne _ h.1, hne _ h.2]

private theorem wordOf_marks (w : WrittenWord) : Token.wordOf w.marks = [.word w.text] := by
  simp [Token.wordOf, marks_ne_nil, text_marks]

theorem ofMarksFrom_gap {gap : Text} (hgap : ∀ c ∈ gap, isBlank c) (hne : gap ≠ []) (pending ms : List Mark) :
    Token.ofMarksFrom pending (gap.map .plain ++ ms) = Token.wordOf pending ++ Token.ofMarksFrom [] ms := by
  induction gap generalizing pending with
  | nil => exact absurd rfl hne
  | cons c gap ih =>
    rw [List.map_cons, List.cons_append, Token.ofMarksFrom_blank (hgap c (List.mem_cons_self ..))]
    congr 1
    by_cases hg : gap = []
    · subst hg
      rfl
    · rw [ih (fun d hd => hgap d (List.mem_cons_of_mem _ hd)) hg]
      rfl

/-- The marks that are pending after an element. -/
private def pendingAfter : Option Element → List Mark
  | some (.word w) => w.marks
  | _ => []

/-- Marks that may follow an element: an operator goes on with an arrow, and a bar is one only before a blank or the
end of the line. -/
private def MayFollow : Element → List Mark → Prop
  | .word _, _ => True
  | .operator _, ms => ms.head? ≠ some (.plain '>')
  | .bar, ms => Mark.endsWord ms

private theorem ofMarksFrom_arrows (s : Sign) {ms : List Mark} (hms : ms.head? ≠ some (.plain '>'))
    (pending : List Mark) :
    Token.ofMarksFrom pending (s.arrows.map .plain ++ ms) =
      Token.operatorOf pending s.operator.mode ++ Token.ofMarksFrom [] ms := by
  cases hm : s.operator.mode <;> simp [Sign.arrows, hm, Token.ofMarksFrom_operator, hms]

/-- An element where a word could begin leaves its token, which of a word is still pending. -/
private theorem ofMarksFrom_element (e : Element) {ms : List Mark} (hms : MayFollow e ms) (tokens : List Token)
    (h : Token.ofMarksFrom (pendingAfter (some e)) ms = Token.wordOf (pendingAfter (some e)) ++ tokens) :
    Token.ofMarksFrom [] (e.marks ++ ms) = e.token :: tokens := by
  cases e with
  | word w =>
    rw [Element.marks, ofMarksFrom_marks fun m hm => mem_marks hm, List.nil_append]
    rw [pendingAfter, wordOf_marks] at h
    exact h
  | operator s =>
    have hn : ∀ m ∈ s.number.map Mark.plain, m.isGuarded ∨ ∃ c, m = .plain c ∧ isBare c := by
      rcases s with mode | mode | mode <;> simp [Sign.number, Mark.isGuarded, isBare, isBlank]
    have ho : Token.operatorOf (s.number.map .plain) s.operator.mode = [.redirect s.operator] := by
      rcases s with mode | mode | mode <;> rfl
    have h' : Token.ofMarksFrom [] ms = tokens := h
    rw [Element.marks, List.map_append, List.append_assoc, ofMarksFrom_marks hn, List.nil_append,
      ofMarksFrom_arrows s hms, ho, h']
    rfl
  | bar =>
    have h' : Token.ofMarksFrom [] ms = tokens := h
    simp [Element.marks, Element.token, Token.ofMarksFrom_bar, show Mark.endsWord ms = true from hms, h']

private theorem mayFollow_gap (e : Element) {gap : Text} (hgap : ∀ c ∈ gap, isBlank c) {ms : List Mark}
    (hms : gap = [] → MayFollow e ms) : MayFollow e (gap.map .plain ++ ms) := by
  cases gap with
  | nil => exact hms rfl
  | cons c gap =>
    have hc := hgap c (List.mem_cons_self ..)
    have hne : c ≠ '>' := by rintro rfl; simp [isBlank] at hc
    cases e with
    | word w => trivial
    | operator s => simp [MayFollow, hne]
    | bar => simpa [MayFollow, Mark.endsWord, Mark.isSpace] using hc

private theorem mayFollow_touching {b e : Element} (h : b.MayTouch e) (ms : List Mark) : MayFollow b (e.marks ++ ms) := by
  cases b with
  | word w => trivial
  | operator s =>
    cases e with
    | word w =>
      obtain ⟨m, l, hm⟩ := List.exists_cons_of_ne_nil (marks_ne_nil w)
      have hne : m ≠ .plain '>' := by
        rintro rfl
        rcases mem_marks (w := w) (m := .plain '>') (by simp [hm]) with hg | ⟨c, hc, hb⟩
        · simp [Mark.isGuarded] at hg
        · obtain rfl := Mark.plain.inj hc
          simp [isBare] at hb
      simp [MayFollow, Element.marks, hm, hne]
    | operator t => exact h.elim
    | bar => exact h.elim
  | bar => exact h.elim

/-- An operator without number that touches a word leaves the word a word. -/
private theorem ofMarksFrom_touching {b e : Element} (h : b.MayTouch e) (ms : List Mark) (hms : MayFollow e ms) :
    Token.ofMarksFrom (pendingAfter (some b)) (e.marks ++ ms) =
      Token.wordOf (pendingAfter (some b)) ++ Token.ofMarksFrom [] (e.marks ++ ms) := by
  cases b with
  | word w =>
    cases e with
    | operator s =>
      rcases s with mode | mode | mode
      · have ha (pending : List Mark) := ofMarksFrom_arrows (.plain mode) hms pending
        have ho : Token.operatorOf w.marks mode = Token.wordOf w.marks ++ Token.operatorOf [] mode := by
          rw [Token.operatorOf, streamOf_marks h]
          rfl
        have hm : (Element.operator (.plain mode)).marks = (Sign.plain mode).arrows.map .plain := rfl
        rw [hm, ha, ha, pendingAfter, show (Sign.plain mode).operator.mode = mode from rfl, ho, List.append_assoc]
      · exact h.elim
      · exact h.elim
    | word v => exact h.elim
    | bar => exact h.elim
  | operator s => rfl
  | bar => rfl

/-- A text is read as the tokens of its elements. -/
private theorem ofMarksFrom_layout {last : Option Element} {es : List Element} {text : Text} (h : Layout last es text) :
    Token.ofMarksFrom (pendingAfter last) (Mark.scan none text).1 =
        Token.wordOf (pendingAfter last) ++ es.map Element.token ∧
      (Mark.scan none text).2 = none ∧ ∀ e ∈ last, MayFollow e (Mark.scan none text).1 := by
  induction h with
  | done gap hgap =>
    have hs := scan_gap hgap []
    rw [List.append_nil, Mark.scan_nil] at hs
    rw [hs]
    refine ⟨?_, rfl, fun e _ => mayFollow_gap e hgap fun _ => ?_⟩
    · by_cases hg : gap = []
      · simp [hg, Token.ofMarksFrom_nil]
      · rw [ofMarksFrom_gap hgap hg]
        simp [Token.ofMarksFrom_nil, Token.wordOf]
    · cases e <;> simp [MayFollow, Mark.endsWord]
  | @next last e es gap rest hgap htouch _ ih =>
    obtain ⟨htokens, hquote, hfollow⟩ := ih
    have hms := hfollow e rfl
    have he := ofMarksFrom_element e hms (es.map Element.token) htokens
    rw [List.append_assoc, scan_gap hgap, scan_element]
    refine ⟨?_, hquote, fun b hb => mayFollow_gap b hgap fun hg => mayFollow_touching (htouch hg b hb) _⟩
    by_cases hg : gap = []
    · subst hg
      cases last with
      | none => simpa [pendingAfter, Token.wordOf] using he
      | some b =>
        rw [List.map_nil, List.nil_append, ofMarksFrom_touching (htouch rfl b rfl) _ hms, he]
        rfl
    · rw [ofMarksFrom_gap hgap hg, he]
      rfl

/-- The tokens of a line that is laid out from some elements. -/
theorem Layout.ofLine_eq {es : List Element} {line : Text} (h : Layout none es line) :
    Lexed.ofLine line = ⟨es.map Element.token, none⟩ := by
  obtain ⟨htokens, hquote, -⟩ := ofMarksFrom_layout h
  have hl := (Lexer.awaits_ofMarks line).finish_readAll
  rw [Token.ofMarks, hquote] at hl
  rw [Lexed.ofLine, hl]
  simpa [pendingAfter, Token.wordOf] using htokens

end PipeShell
