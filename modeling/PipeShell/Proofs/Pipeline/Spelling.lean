import PipeShell.Proofs.Pipeline.Grammar
import PipeShell.Proofs.Token.Layout

/-!
# The ways to write a pipeline

A stage is written as its words in order, with redirections anywhere between them; a redirection is replaced by a later
one of the same stream.  Bars stand between the stages, and all of it is laid out on a line.  `Pipeline.WrittenAs` says
that a line is such a spelling of a pipeline.

Every spelling is read back as the pipeline, and every pipeline has one (`Pipeline.ofLine_of_writtenAs`).
-/

namespace PipeShell

/-- A word or a redirection of a written stage. -/
inductive WrittenItem
  | word (w : WrittenWord)
  | redirect (s : Sign) (file : WrittenWord)

namespace WrittenItem

def item : WrittenItem → Item
  | .word w => .word w.text
  | .redirect s file => .redirect s.operator file.text

def elements : WrittenItem → List Element
  | .word w => [.word w]
  | .redirect s file => [.operator s, .word file]

end WrittenItem

/-- The items describe the stage: its words in order, with its redirections anywhere between them, and before the last
one of a stream any others that it replaces. -/
def Stage.WrittenAs (s : Stage) (items : List WrittenItem) : Prop := s = Item.stage (items.map WrittenItem.item)

/-- A line is a spelling of a pipeline. -/
def Pipeline.WrittenAs (p : Pipeline) (line : Text) : Prop :=
  ∃ stages : List (List WrittenItem), List.Forall₂ Stage.WrittenAs p.stages stages ∧
    Layout none ([.bar].intercalate (stages.map (·.flatMap WrittenItem.elements))) line

/-! ### Reading a spelling back -/

private theorem map_intercalate_bar (parts : List (List Element)) :
    ([.bar].intercalate parts).map Element.token = [Token.bar].intercalate (parts.map (·.map Element.token)) := by
  induction parts with
  | nil => rfl
  | cons part parts ih =>
    cases parts with
    | nil => simp
    | cons next parts => simpa [List.intercalate_cons_cons, Element.token] using ih

/-- The tokens of a written stage. -/
private def segmentOf (items : List WrittenItem) : List Token := (items.map WrittenItem.item).flatMap Item.tokens

private theorem map_token_elements (items : List WrittenItem) :
    (items.flatMap WrittenItem.elements).map Element.token = segmentOf items := by
  unfold segmentOf
  induction items with
  | nil => rfl
  | cons i items ih => cases i <;> simpa [WrittenItem.elements, WrittenItem.item, Item.tokens, Element.token] using ih

private theorem bar_notMem_segmentOf (items : List WrittenItem) : .bar ∉ segmentOf items := by
  unfold segmentOf
  intro h
  obtain ⟨i, -, hi⟩ := List.mem_flatMap.1 h
  cases i <;> simp [Item.tokens] at hi

private theorem spelledBy_segmentOf {stages : List Stage} {written : List (List WrittenItem)}
    (h : List.Forall₂ Stage.WrittenAs stages written) (hargv : ∀ s ∈ stages, s.argv ≠ []) :
    List.Forall₂ Stage.SpelledBy stages (written.map segmentOf) := by
  induction h with
  | nil => exact .nil
  | @cons s items _ _ hs _ ih =>
    refine .cons ⟨items.map WrittenItem.item, rfl, ?_, hs⟩ (ih fun s hm => hargv s (List.mem_cons_of_mem _ hm))
    have := hargv s (List.mem_cons_self ..)
    rwa [hs] at this

/-- Every spelling of a pipeline is read back as the pipeline. -/
theorem Pipeline.WrittenAs.ofLine_eq {p : Pipeline} {line : Text} (h : p.WrittenAs line) (hne : p.stages ≠ [])
    (hargv : ∀ s ∈ p.stages, s.argv ≠ []) : Pipeline.ofLine line = .ok (some p) := by
  obtain ⟨written, hstages, hlayout⟩ := h
  have hspelled := spelledBy_segmentOf hstages hargv
  have hwne : written.map segmentOf ≠ [] := by
    intro hnil
    rw [hnil] at hspelled
    exact hne (List.forall₂_nil_right_iff.1 hspelled)
  have hcut : Cut ([Token.bar].intercalate (written.map segmentOf)) (written.map segmentOf) := by
    refine ⟨hwne, ?_, rfl⟩
    intro segment hs
    obtain ⟨items, -, rfl⟩ := List.mem_map.1 hs
    exact bar_notMem_segmentOf items
  have hlexed := hlayout.ofLine_eq
  rw [map_intercalate_bar, List.map_map, show (·.map Element.token) ∘ (·.flatMap WrittenItem.elements) = segmentOf from
    funext map_token_elements] at hlexed
  apply Verdict.ofLine_eq
  rw [hlexed]
  exact .accepted hcut hspelled

/-! ### A spelling of every pipeline -/

/-- Any word can be written in double quotes. -/
def WrittenWord.inQuotes (t : Text) : WrittenWord := ⟨[.double t], by simp⟩

private def redirectTo (s : OpenMode → Sign) : Option Target → List WrittenItem
  | none => []
  | some t => [.redirect (s t.mode) (.inQuotes t.path)]

/-- The words of a stage, and then its redirections. -/
private def itemsOf (s : Stage) : List WrittenItem :=
  s.argv.map (fun w => .word (.inQuotes w)) ++ redirectTo .plain s.redirections.out ++ redirectTo .two s.redirections.err

private theorem text_inQuotes (t : Text) : (WrittenWord.inQuotes t).text = t := by
  simp [WrittenWord.text, WrittenWord.inQuotes, Piece.text]

private theorem writtenAs_itemsOf (s : Stage) : s.WrittenAs (itemsOf s) := by
  obtain ⟨argv, out, err⟩ := s
  have hw : (argv.map fun w => WrittenItem.word (.inQuotes w)).map WrittenItem.item = argv.map Item.word := by
    simp [Function.comp_def, WrittenItem.item, text_inQuotes]
  have hargv : (argv.map Item.word).filterMap Item.word? = argv := by
    simp [List.filterMap_map, Function.comp_def, Item.word?]
  have htarget (st : StdStream) : (argv.map Item.word).filterMap (Item.target? st) = [] := by
    simp [Item.target?]
  cases out <;> cases err <;>
    simp [Stage.WrittenAs, Item.stage, itemsOf, redirectTo, hw, Item.words, Item.target, hargv, htarget,
      WrittenItem.item, text_inQuotes, Item.word?, Item.target?, Sign.operator]

private theorem exists_layout (last : Option Element) (es : List Element) : ∃ text, Layout last es text := by
  induction es generalizing last with
  | nil => exact ⟨[], .done [] (by simp)⟩
  | cons e es ih =>
    obtain ⟨rest, h⟩ := ih (some e)
    exact ⟨_, .next [' '] (by simp [isBlank]) (by simp) h⟩

/-- Every pipeline can be written. -/
theorem Pipeline.exists_writtenAs (p : Pipeline) : ∃ line, p.WrittenAs line := by
  obtain ⟨line, h⟩ := exists_layout none ([.bar].intercalate ((p.stages.map itemsOf).map (·.flatMap WrittenItem.elements)))
  refine ⟨line, p.stages.map itemsOf, ?_, h⟩
  induction p.stages with
  | nil => exact .nil
  | cons s stages ih => exact .cons (writtenAs_itemsOf s) ih

/-- Words of bare characters can be written as they are, with a blank between any two of them. -/
private theorem exists_layout_of_bare {words : List Text} (bare : ∀ word ∈ words, word ≠ [] ∧ ∀ c ∈ word, isBare c)
    (last : Option Element) {gap : Text} (blank : ∀ c ∈ gap, isBlank c) (apart : gap = [] → last = none) :
    ∃ items : List WrittenItem, items.map WrittenItem.item = words.map Item.word ∧
      Layout last (items.flatMap WrittenItem.elements) (gap ++ joinWith [' '] words) := by
  induction words generalizing last gap with
  | nil => exact ⟨[], rfl, by simpa [joinWith] using Layout.done gap blank⟩
  | cons word rest ih =>
    obtain ⟨⟨ne_nil, chars⟩, later⟩ := List.forall_mem_cons.1 bare
    let written : WrittenWord := ⟨[.bare word ne_nil chars], by simp⟩
    have text : written.text = word := by simp [written, WrittenWord.text, Piece.text]
    have spelling : written.spelling = word := by simp [written, WrittenWord.spelling, Piece.spelling]
    have touch : gap = [] → ∀ b ∈ last, b.MayTouch (.word written) := fun none b mem => by
      rw [apart none] at mem
      cases mem
    cases rest with
    | nil =>
      refine ⟨[.word written], by simp [WrittenItem.item, text], ?_⟩
      have layout := Layout.next gap blank touch (.done [] (by simp))
      simpa [joinWith, WrittenItem.elements, Element.spelling, spelling] using layout
    | cons next more =>
      have oneBlank : ∀ c ∈ [' '], isBlank c := by simp [isBlank]
      obtain ⟨items, same, layout⟩ := ih later (some (.word written)) oneBlank (by simp)
      refine ⟨.word written :: items, by simp [WrittenItem.item, text, same], ?_⟩
      have layout := Layout.next gap blank touch layout
      simpa [joinWith, WrittenItem.elements, Element.spelling, spelling] using layout

/-- A line of such words is a pipeline of one stage. -/
theorem Pipeline.ofLine_of_bare {words : List Text} (some_word : words ≠ [])
    (bare : ∀ word ∈ words, word ≠ [] ∧ ∀ c ∈ word, isBare c) :
    Pipeline.ofLine (joinWith [' '] words) = .ok (some ⟨[⟨words, {}⟩]⟩) := by
  have noBlank : ∀ c ∈ ([] : Text), isBlank c := nofun
  obtain ⟨items, same, layout⟩ := exists_layout_of_bare bare none noBlank fun _ => rfl
  have written : Stage.WrittenAs ⟨words, {}⟩ items := by
    simp [Stage.WrittenAs, same, Item.stage, Item.words, Item.target, List.filterMap_map, Function.comp_def, Item.word?,
      Item.target?]
  refine Pipeline.WrittenAs.ofLine_eq ⟨[items], .cons written .nil, ?_⟩ (by simp) (by simpa using some_word)
  simpa using layout

/-- A pipeline has spellings, and whatever spelling of it is read, the result is the pipeline: quotes, escapes, blanks,
operators next to words, and redirections that are replaced leave no trace. -/
theorem Pipeline.ofLine_of_writtenAs (p : Pipeline) (hne : p.stages ≠ []) (hargv : ∀ s ∈ p.stages, s.argv ≠ []) :
    (∃ line, p.WrittenAs line) ∧ ∀ line, p.WrittenAs line → Pipeline.ofLine line = .ok (some p) :=
  ⟨p.exists_writtenAs, fun _ h => h.ofLine_eq hne hargv⟩

/-- A bare character as a piece of its own. -/
private def bareChar (c : Char) (h : isBare c) : Piece := .bare [c] (by simp) (by simpa using h)

/-- The line `e ''1>>x >> a\ b | '|'`: its number is a word because of the empty quote, the first target is replaced,
and the last bar is the name of a command. -/
theorem Pipeline.ofLine_of_writtenAs_mixed :
    let p : Pipeline := ⟨[⟨[['e'], ['1']], { out := some ⟨['a', ' ', 'b'], .append⟩ }⟩, ⟨[['|']], {}⟩]⟩
    let line := ['e', ' ', '\'', '\'', '1', '>', '>', 'x', ' ', '>', '>', ' ', 'a', '\\', ' ', 'b', ' ', '|', ' ',
      '\'', '|', '\'']
    p.stages ≠ [] ∧ (∀ s ∈ p.stages, s.argv ≠ []) ∧ p.WrittenAs line ∧ Pipeline.ofLine line = .ok (some p) := by
  intro p line
  have hne : p.stages ≠ [] := by simp [p]
  have hargv : ∀ s ∈ p.stages, s.argv ≠ [] := by simp [p]
  let e : WrittenWord := ⟨[bareChar 'e' rfl], by simp⟩
  let one : WrittenWord := ⟨[.single [] (by simp), bareChar '1' rfl], by simp⟩
  let x : WrittenWord := ⟨[bareChar 'x' rfl], by simp⟩
  let ab : WrittenWord := ⟨[bareChar 'a' rfl, .escaped ' ', bareChar 'b' rfl], by simp⟩
  let bar : WrittenWord := ⟨[.single ['|'] (by simp)], by simp⟩
  have hblank : ∀ c ∈ [' '], isBlank c := by simp [isBlank]
  have hnone : ∀ c ∈ ([] : Text), isBlank c := by simp
  have hw : p.WrittenAs line := by
    refine ⟨[[.word e, .word one, .redirect (.plain .append) x, .redirect (.plain .append) ab], [.word bar]],
      .cons rfl (.cons rfl .nil), ?_⟩
    exact .next [] hnone (by simp) <| .next [' '] hblank (by simp) <|
      .next [] hnone (fun _ b hb => by obtain rfl := Option.some.inj hb; rfl) <|
      .next [] hnone (fun _ b hb => by obtain rfl := Option.some.inj hb; trivial) <|
      .next [' '] hblank (by simp) <| .next [' '] hblank (by simp) <| .next [' '] hblank (by simp) <|
      .next [' '] hblank (by simp) <| .done [] hnone
  exact ⟨hne, hargv, hw, (Pipeline.ofLine_of_writtenAs p hne hargv).2 line hw⟩

end PipeShell
