import Mathlib.Data.List.Forall2
import PipeShell.Pipeline.Parser

/-!
# The grammar of pipelines

A segment is a row of items, which are words and redirections; the items describe a stage if a word of a command is
among them.  All other segments have a fault, and `Flaw` says which one is reported.  `Verdict` extends this to a
whole line: what comes of its tokens, by the order in which faults are looked for.  It does not run a parser: bars cut
the tokens, and a segment is compared with the tokens of its items.

The parser gives exactly the verdict (`Pipeline.ofLine_eq_iff`).  As every line has a verdict (`exists_verdict`), it is
enough that the parser agrees with the verdicts that there are.
-/

namespace PipeShell

/-- An item of a segment: a word of the command, or an operator with its file name. -/
inductive Item
  | word (text : Text)
  | redirect (op : Operator) (path : Text)
  deriving DecidableEq

namespace Item

def tokens : Item → List Token
  | .word w => [.word w]
  | .redirect op path => [.redirect op, .word path]

def word? : Item → Option Text
  | .word w => some w
  | .redirect _ _ => none

/-- The target that an item gives to a stream. -/
def target? (s : StdStream) : Item → Option Target
  | .word _ => none
  | .redirect op path => if op.stream = s then some ⟨path, op.mode⟩ else none

/-- The words of a command, in order. -/
def words (items : List Item) : List Text := items.filterMap word?

/-- The target of a stream is the last one that it is given. -/
def target (s : StdStream) (items : List Item) : Option Target := (items.filterMap (target? s)).getLast?

/-- The stage that some items describe. -/
def stage (items : List Item) : Stage := ⟨words items, ⟨target .out items, target .err items⟩⟩

end Item

/-- A segment that spells a stage consists of items that describe it, with a command among them. -/
def Stage.SpelledBy (s : Stage) (segment : List Token) : Prop :=
  ∃ items, segment = items.flatMap Item.tokens ∧ Item.words items ≠ [] ∧ s = Item.stage items

/-- What is wrong with a segment.  The first operator without a file name counts, and only if there is none, the lack
of a command. -/
inductive Flaw : List Token → SyntaxError → Prop
  | unexpected (items : List Item) (op next : Operator) (rest : List Token) :
    Flaw (items.flatMap Item.tokens ++ .redirect op :: .redirect next :: rest) (.unexpected next.text)
  | dangling (items : List Item) (op : Operator) :
    Flaw (items.flatMap Item.tokens ++ [.redirect op]) (.danglingOperator op)
  | noCommand (items : List Item) (h : Item.words items = []) : Flaw (items.flatMap Item.tokens) .noCommand

/-- The segments are what the bars cut the tokens into. -/
structure Cut (tokens : List Token) (segments : List (List Token)) : Prop where
  ne_nil : segments ≠ []
  bar_notMem : ∀ segment ∈ segments, .bar ∉ segment
  joined : [Token.bar].intercalate segments = tokens

/-- What comes of a line, in the order in which it is looked for. -/
inductive Verdict : Lexed → Except SyntaxError (Option Pipeline) → Prop
  | openQuote (tokens : List Token) (q : Quote) : Verdict ⟨tokens, some q⟩ (.error (.openQuote q.char))
  | blank : Verdict ⟨[], none⟩ (.ok none)
  | emptySegment {tokens : List Token} {segments : List (List Token)} (hne : tokens ≠ [])
    (hcut : Cut tokens segments) (hnil : [] ∈ segments) : Verdict ⟨tokens, none⟩ (.error .emptySegment)
  | flaw {tokens : List Token} {before after : List (List Token)} {segment : List Token} {e : SyntaxError}
    (hcut : Cut tokens (before ++ segment :: after)) (hnil : [] ∉ before ++ segment :: after)
    (hbefore : ∀ b ∈ before, ∃ s : Stage, s.SpelledBy b) (hflaw : Flaw segment e) : Verdict ⟨tokens, none⟩ (.error e)
  | accepted {tokens : List Token} {segments : List (List Token)} {p : Pipeline} (hcut : Cut tokens segments)
    (hspelled : List.Forall₂ Stage.SpelledBy p.stages segments) : Verdict ⟨tokens, none⟩ (.ok (some p))

/-! ### Cutting at bars -/

namespace Token

theorem runs_eq_splitOn (tokens : List Token) : runs tokens = tokens.splitOn .bar := by
  induction tokens with
  | nil => simp [runs]
  | cons t ts ih =>
    have hne := List.splitOn_ne_nil Token.bar ts
    by_cases h : t = .bar
    · simp [runs, List.splitOn_cons_eq_if_modifyHead, h, ih]
    · cases hs : ts.splitOn Token.bar with
      | nil => exact absurd hs hne
      | cons seg segs => simp [runs, List.splitOn_cons_eq_if_modifyHead, h, ih, hs]

/-- No bar is left in a run. -/
theorem bar_notMem_of_mem_runs {tokens seg : List Token} (h : seg ∈ runs tokens) : .bar ∉ seg := by
  induction tokens generalizing seg with
  | nil => simp_all [runs]
  | cons t ts ih =>
    unfold runs at h
    split at h
    · rcases List.mem_cons.1 h with rfl | h
      · simp
      · exact ih h
    · rename_i ht
      cases hr : runs ts with
      | nil => simp_all [Ne.symm ht]
      | cons first rest =>
        rw [hr] at h ih
        rcases List.mem_cons.1 h with rfl | h
        · simp [Ne.symm ht, ih]
        · exact ih (List.mem_cons_of_mem _ h)

end Token

theorem cut_runs (tokens : List Token) : Cut tokens (Token.runs tokens) where
  ne_nil := by
    rw [Token.runs_eq_splitOn]
    exact List.splitOn_ne_nil _ tokens
  bar_notMem _ h := Token.bar_notMem_of_mem_runs h
  joined := by rw [Token.runs_eq_splitOn, List.intercalate_splitOn]

/-- There is one way to cut tokens at their bars. -/
theorem Cut.runs_eq {tokens : List Token} {segments : List (List Token)} (h : Cut tokens segments) :
    Token.runs tokens = segments := by
  rw [Token.runs_eq_splitOn, ← h.joined, List.splitOn_intercalate _ h.bar_notMem h.ne_nil]

/-! ### The items of a segment -/

namespace Item

@[simp] theorem words_nil : words [] = [] := rfl

theorem target_cons (s : StdStream) (i : Item) (items : List Item) :
    target s (i :: items) = (target s items).or (target? s i) := by
  unfold target
  cases h : target? s i <;> simp [h, List.getLast?_cons]

end Item

namespace Stage

/-- A stage with one more item. -/
def take (s : Stage) : Item → Stage
  | .word w => { s with argv := s.argv ++ [w] }
  | .redirect op path => { s with redirections := s.redirections.set op path }

/-- Items are added one by one. -/
theorem add_items (s : Stage) (items : List Item) (rest : List Token) :
    s.add (items.flatMap Item.tokens ++ rest) = (items.foldl take s).add rest := by
  induction items generalizing s with
  | nil => rfl
  | cons i items ih =>
    cases i with
    | word w => simp [Item.tokens, add, take, ← ih]
    | redirect op path => simp [Item.tokens, add, take, ← ih]

theorem argv_foldl_take (s : Stage) (items : List Item) :
    (items.foldl take s).argv = s.argv ++ Item.words items := by
  induction items generalizing s with
  | nil => simp
  | cons i items ih =>
    rw [List.foldl_cons, ih]
    cases i with
    | word w => simp [take, Item.words, Item.word?]
    | redirect op path => rfl

theorem redirections_foldl_take (s : Stage) (items : List Item) (stream : StdStream) :
    (items.foldl take s).redirections.get stream = (Item.target stream items).or (s.redirections.get stream) := by
  induction items generalizing s with
  | nil => simp [Item.target]
  | cons i items ih =>
    rw [List.foldl_cons, ih, Item.target_cons, Option.or_assoc]
    congr 1
    cases i with
    | word w => rfl
    | redirect op path =>
      simp only [take, Item.target?, Redirections.get_set, eq_comm (a := stream)]
      split <;> simp

/-- The stage that is gathered from items is the one that they describe. -/
theorem foldl_take (items : List Item) : items.foldl take ⟨[], {}⟩ = Item.stage items := by
  have ha := argv_foldl_take ⟨[], {}⟩ items
  have ho := redirections_foldl_take ⟨[], {}⟩ items .out
  have he := redirections_foldl_take ⟨[], {}⟩ items .err
  generalize items.foldl take ⟨[], {}⟩ = s at ha ho he ⊢
  obtain ⟨argv, out, err⟩ := s
  simp only [Redirections.get, Option.or_none, List.nil_append] at ha ho he
  simp [Item.stage, ha, ho, he]

theorem gather_items (items : List Item) (rest : List Token) :
    gather (items.flatMap Item.tokens ++ rest) = (Item.stage items).add rest := by
  rw [gather, add_items, foldl_take]

/-- The stage that a segment spells is made from it. -/
theorem SpelledBy.ofTokens_eq {s : Stage} {segment : List Token} (h : s.SpelledBy segment) :
    ofTokens segment = .ok s := by
  obtain ⟨items, rfl, hw, rfl⟩ := h
  have hg := gather_items items []
  rw [List.append_nil] at hg
  have hne : (Item.stage items).argv ≠ [] := hw
  simp [ofTokens, hg, add, bind, Except.bind, hne]

end Stage

/-- The fault of a segment is what is reported. -/
theorem Flaw.ofTokens_eq {segment : List Token} {e : SyntaxError} (h : Flaw segment e) :
    Stage.ofTokens segment = .error e := by
  cases h with
  | unexpected items op next rest => simp [Stage.ofTokens, Stage.gather_items, Stage.add, bind, Except.bind, Token.text]
  | dangling items op => simp [Stage.ofTokens, Stage.gather_items, Stage.add, bind, Except.bind]
  | noCommand items h =>
    have hg := Stage.gather_items items []
    rw [List.append_nil] at hg
    have hnil : (Item.stage items).argv = [] := h
    simp [Stage.ofTokens, hg, Stage.add, bind, Except.bind, hnil]

/-- Items are taken from a segment up to its end or to an operator without a file name. -/
private theorem exists_items : (segment : List Token) → .bar ∉ segment →
    ∃ (items : List Item) (rest : List Token), segment = items.flatMap Item.tokens ++ rest ∧
      (rest = [] ∨ (∃ op, rest = [.redirect op]) ∨ ∃ op next more, rest = .redirect op :: .redirect next :: more)
  | [], _ => ⟨[], [], rfl, .inl rfl⟩
  | .bar :: _, h => absurd (List.mem_cons_self ..) h
  | .redirect _ :: .bar :: _, h => absurd (List.mem_cons_of_mem _ (List.mem_cons_self ..)) h
  | [.redirect op], _ => ⟨[], [.redirect op], rfl, .inr (.inl ⟨op, rfl⟩)⟩
  | .redirect op :: .redirect next :: more, _ => ⟨[], _, rfl, .inr (.inr ⟨op, next, more, rfl⟩)⟩
  | .word w :: ts, h => by
    obtain ⟨items, rest, hts, hrest⟩ := exists_items ts fun hm => h (List.mem_cons_of_mem _ hm)
    exact ⟨.word w :: items, rest, by simp [hts, Item.tokens], hrest⟩
  | .redirect op :: .word path :: ts, h => by
    have hbar : .bar ∉ ts := fun hm => h (List.mem_cons_of_mem _ (List.mem_cons_of_mem _ hm))
    obtain ⟨items, rest, hts, hrest⟩ := exists_items ts hbar
    exact ⟨.redirect op path :: items, rest, by simp [hts, Item.tokens], hrest⟩

/-- A segment either spells a stage or has a fault. -/
theorem spelledBy_or_flaw {segment : List Token} (h : .bar ∉ segment) :
    (∃ s : Stage, s.SpelledBy segment) ∨ ∃ e, Flaw segment e := by
  obtain ⟨items, rest, rfl, rfl | ⟨op, rfl⟩ | ⟨op, next, more, rfl⟩⟩ := exists_items segment h
  · rw [List.append_nil]
    by_cases hw : Item.words items = []
    · exact .inr ⟨_, .noCommand items hw⟩
    · exact .inl ⟨_, items, rfl, hw, rfl⟩
  · exact .inr ⟨_, .dangling items op⟩
  · exact .inr ⟨_, .unexpected items op next more⟩

/-! ### All segments of a line -/

private theorem mapM_ofTokens_of_spelled {stages : List Stage} {segments : List (List Token)}
    (h : List.Forall₂ Stage.SpelledBy stages segments) : segments.mapM Stage.ofTokens = .ok stages := by
  induction h with
  | nil => rfl
  | cons hs _ ih => simp [List.mapM_cons, hs.ofTokens_eq, ih, bind, Except.bind, pure, Except.pure]

private theorem mapM_ofTokens_of_flaw {before after : List (List Token)} {segment : List Token} {e : SyntaxError}
    (hbefore : ∀ b ∈ before, ∃ s : Stage, s.SpelledBy b) (hflaw : Flaw segment e) :
    (before ++ segment :: after).mapM Stage.ofTokens = .error e := by
  induction before with
  | nil => simp [List.mapM_cons, hflaw.ofTokens_eq, bind, Except.bind]
  | cons b before ih =>
    obtain ⟨s, hs⟩ := hbefore b (List.mem_cons_self ..)
    have hrest := ih fun b hb => hbefore b (List.mem_cons_of_mem _ hb)
    simp [List.mapM_cons, hs.ofTokens_eq, hrest, bind, Except.bind]

/-- Either all segments spell stages, or there is a first one with a fault. -/
private theorem spelled_or_exists_flaw (segments : List (List Token)) (h : ∀ segment ∈ segments, .bar ∉ segment) :
    (∃ stages, List.Forall₂ Stage.SpelledBy stages segments) ∨
      ∃ before segment after e, segments = before ++ segment :: after ∧
        (∀ b ∈ before, ∃ s : Stage, s.SpelledBy b) ∧ Flaw segment e := by
  induction segments with
  | nil => exact .inl ⟨[], .nil⟩
  | cons segment segments ih =>
    rcases spelledBy_or_flaw (h segment (List.mem_cons_self ..)) with ⟨s, hs⟩ | ⟨e, he⟩
    · rcases ih fun b hb => h b (List.mem_cons_of_mem _ hb) with ⟨stages, hr⟩ | ⟨before, b, after, e, rfl, hb, he⟩
      · exact .inl ⟨s :: stages, .cons hs hr⟩
      · refine .inr ⟨segment :: before, b, after, e, rfl, ?_, he⟩
        intro c hc
        rcases List.mem_cons.1 hc with rfl | hc
        · exact ⟨s, hs⟩
        · exact hb c hc
    · exact .inr ⟨[], segment, segments, e, rfl, by simp, he⟩

theorem Cut.segments_eq {tokens : List Token} {segments : List (List Token)} (h : Cut tokens segments) :
    Token.segments tokens = if [] ∈ segments then .error .emptySegment else .ok segments := by
  have hany : segments.any List.isEmpty = true ↔ [] ∈ segments := by simp [List.any_eq_true]
  unfold Token.segments
  rw [h.runs_eq]
  by_cases hnil : [] ∈ segments
  · rw [if_pos (hany.2 hnil), if_pos hnil]
  · rw [if_neg (mt hany.1 hnil), if_neg hnil]

theorem Cut.ofTokens_eq {tokens : List Token} {segments : List (List Token)} (h : Cut tokens segments) :
    Pipeline.ofTokens tokens =
      if [] ∈ segments then .error .emptySegment else (segments.mapM Stage.ofTokens).map Pipeline.mk := by
  unfold Pipeline.ofTokens
  rw [h.segments_eq]
  split
  · rfl
  · cases hm : segments.mapM Stage.ofTokens <;> simp [bind, Except.bind, Except.map, pure, Except.pure, hm]

/-- Tokens without an empty segment are tokens. -/
theorem Cut.ne_nil_of_notMem {tokens : List Token} {segments : List (List Token)} (h : Cut tokens segments)
    (hnil : [] ∉ segments) : tokens ≠ [] := by
  rintro rfl
  rw [← h.runs_eq] at hnil
  exact hnil (List.mem_cons_self ..)

theorem Stage.SpelledBy.ne_nil {s : Stage} {segment : List Token} (h : s.SpelledBy segment) : segment ≠ [] := by
  rintro rfl
  have := h.ofTokens_eq
  simp [Stage.ofTokens, Stage.gather, Stage.add, bind, Except.bind] at this

theorem nil_notMem_of_spelled {stages : List Stage} {segments : List (List Token)}
    (h : List.Forall₂ Stage.SpelledBy stages segments) : [] ∉ segments := by
  induction h with
  | nil => simp
  | cons hs _ ih => simp [hs.ne_nil.symm, ih]

/-! ### The verdict on a line -/

/-- Every line has a verdict. -/
theorem exists_verdict (l : Lexed) : ∃ r, Verdict l r := by
  rcases l with ⟨tokens, _ | q⟩
  · by_cases hne : tokens = []
    · subst hne
      exact ⟨_, .blank⟩
    by_cases hnil : [] ∈ Token.runs tokens
    · exact ⟨_, .emptySegment hne (cut_runs tokens) hnil⟩
    rcases spelled_or_exists_flaw _ (cut_runs tokens).bar_notMem with ⟨stages, hs⟩ | ⟨before, b, after, e, hr, hb, he⟩
    · exact ⟨_, .accepted (p := ⟨stages⟩) (cut_runs tokens) hs⟩
    · exact ⟨_, .flaw (hr ▸ cut_runs tokens) (hr ▸ hnil) hb he⟩
  · exact ⟨_, .openQuote tokens q⟩

private theorem ofLine_of_tokens {line : Text} {tokens : List Token} (h : Lexed.ofLine line = ⟨tokens, none⟩)
    (hne : tokens ≠ []) : Pipeline.ofLine line = (Pipeline.ofTokens tokens).map some := by
  cases tokens with
  | nil => exact absurd rfl hne
  | cons t ts => rw [Pipeline.ofLine, h]

/-- A verdict is the answer of the parser. -/
theorem Verdict.ofLine_eq {line : Text} {r : Except SyntaxError (Option Pipeline)} (h : Verdict (Lexed.ofLine line) r) :
    Pipeline.ofLine line = r := by
  generalize hl : Lexed.ofLine line = l at h
  cases h with
  | openQuote tokens q => rw [Pipeline.ofLine, hl]
  | blank => rw [Pipeline.ofLine, hl]
  | emptySegment hne hcut hnil =>
    rw [ofLine_of_tokens hl hne, hcut.ofTokens_eq, if_pos hnil]
    rfl
  | flaw hcut hnil hbefore hflaw =>
    rw [ofLine_of_tokens hl (hcut.ne_nil_of_notMem hnil), hcut.ofTokens_eq, if_neg hnil,
      mapM_ofTokens_of_flaw hbefore hflaw]
    rfl
  | accepted hcut hspelled =>
    have hnil := nil_notMem_of_spelled hspelled
    rw [ofLine_of_tokens hl (hcut.ne_nil_of_notMem hnil), hcut.ofTokens_eq, if_neg hnil,
      mapM_ofTokens_of_spelled hspelled]
    rfl

/-- The parser accepts the lines of the grammar and no others, and reports the fault that the order of precedence asks
for: an open quote before all others, then an empty segment, then the leftmost segment with a fault. -/
theorem Pipeline.ofLine_eq_iff (line : Text) (r : Except SyntaxError (Option Pipeline)) :
    Pipeline.ofLine line = r ↔ Verdict (Lexed.ofLine line) r := by
  constructor
  · rintro rfl
    obtain ⟨r, hr⟩ := exists_verdict (Lexed.ofLine line)
    rwa [hr.ofLine_eq]
  · exact Verdict.ofLine_eq

end PipeShell
