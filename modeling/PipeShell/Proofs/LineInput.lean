import Mathlib.Data.List.Forall2
import PipeShell.LineInput

/-!
# How input falls into lines

The lines of some input are the input cut behind every line feed, and there is only one way to do that
(`LineInput.cuts_iff`).  A line says the text whose bytes it has, without the line feed at its end and a carriage return
before that (`LineInput.Reads`).  The shell gets what the lines say, in order, up to the first line whose bytes are those
of no text (`LineInput.delivers_textLines`).
-/

namespace PipeShell

/-! ### Texts and their bytes -/

/-- Reading gives back the text that has these bytes, if there is one. -/
theorem utf8?_eq_some_iff {b : Bytes} {t : Text} : utf8? b = some t ↔ utf8 t = b := by
  have packed : ∀ b : Bytes, (⟨b.toArray⟩ : ByteArray) = b.toByteArray := fun b =>
    ByteArray.ext List.data_toByteArray.symm
  simp only [utf8?, String.fromUTF8?, packed, Option.map_eq_some_iff]
  constructor
  · rintro ⟨s, read, rfl⟩
    split at read
    · cases read
      exact List.toByteArray_inj.1 String.utf8Encode_toList
    · cases read
  · rintro rfl
    have valid : (utf8 t).toByteArray.IsValidUTF8 := ByteArray.isValidUTF8_utf8Encode
    have read : String.fromUTF8 _ valid = String.ofList t := String.toByteArray_inj.1 String.toByteArray_ofList.symm
    exact ⟨String.ofList t, by rw [dif_pos valid, read], String.toList_ofList⟩

theorem utf8?_utf8 (t : Text) : utf8? (utf8 t) = some t := utf8?_eq_some_iff.2 rfl

theorem utf8_injective : Function.Injective utf8 := fun s _ same =>
  Option.some.inj ((utf8?_utf8 s).symm.trans (utf8?_eq_some_iff.2 same.symm))

/-- A line feed is one byte, and no other character has this byte. -/
theorem mem_utf8EncodeChar_iff {c : Char} : 10 ∈ String.utf8EncodeChar c ↔ c = '\n' := by
  constructor
  · intro mem
    have bytes : ∀ n, (10 : UInt8) = UInt8.ofNat n ↔ 10 = n % 256 := fun n => by
      rw [← UInt8.toNat_inj, UInt8.toNat_ofNat']
      rfl
    have small : c.val.toNat = 10 := by
      simp only [String.utf8EncodeChar] at mem
      -- The bytes of a character of more than one byte are all greater than 127.
      repeat' split at mem
      all_goals
        simp only [List.mem_cons, List.not_mem_nil, or_false, bytes] at mem
        omega
    exact Char.ext (UInt32.toNat_inj.1 small)
  · rintro rfl
    decide

theorem mem_utf8_iff {t : Text} : 10 ∈ utf8 t ↔ '\n' ∈ t := by
  simp only [utf8, List.mem_flatMap, mem_utf8EncodeChar_iff]
  simp

namespace LineInput

variable {input line body rest : Bytes} {lines : List Bytes} {texts : List Text} {t : Text}

/-! ### Cutting input into lines -/

/-- The input is cut behind every line feed into these lines. -/
inductive Cuts : Bytes → List Bytes → Prop
  | nothing : Cuts [] []
  /-- The last line has no line feed. -/
  | last {line : Bytes} (some : line ≠ []) (whole : 10 ∉ line) : Cuts line [line]
  | line {body rest : Bytes} {lines : List Bytes} (whole : 10 ∉ body) (more : Cuts rest lines) :
      Cuts (body ++ 10 :: rest) ((body ++ [10]) :: lines)

theorem linesOf_cons_of_ne {b : UInt8} (other : b ≠ 10) (rest : Bytes) :
    linesOf (b :: rest) = match linesOf rest with
      | [] => [[b]]
      | line :: more => (b :: line) :: more := if_neg other

theorem linesOf_of_notMem (whole : 10 ∉ line) (some : line ≠ []) : linesOf line = [line] := by
  induction line with
  | nil => exact absurd rfl some
  | cons b line ih =>
    rw [linesOf_cons_of_ne (List.ne_of_not_mem_cons whole).symm]
    cases line with
    | nil => rfl
    | cons c line => rw [ih (List.not_mem_of_not_mem_cons whole) (List.cons_ne_nil c line)]

theorem linesOf_append (whole : 10 ∉ body) (rest : Bytes) :
    linesOf (body ++ 10 :: rest) = (body ++ [10]) :: linesOf rest := by
  induction body with
  | nil => rfl
  | cons b body ih =>
    rw [List.cons_append, linesOf_cons_of_ne (List.ne_of_not_mem_cons whole).symm,
      ih (List.not_mem_of_not_mem_cons whole)]
    rfl

/-- **Input falls into its lines**, and there is no other way to cut it. -/
theorem cuts_iff : Cuts input lines ↔ linesOf input = lines := by
  constructor
  · intro cuts
    induction cuts with
    | nothing => rfl
    | last some whole => exact linesOf_of_notMem whole some
    | line whole more ih => rw [linesOf_append whole, ih]
  · rintro rfl
    induction n : input.length using Nat.strongRecOn generalizing input with
    | _ n ih =>
      by_cases ends : 10 ∈ input
      · obtain ⟨body, rest, rfl, whole⟩ := List.eq_append_cons_of_mem ends
        rw [linesOf_append whole]
        exact .line whole (ih rest.length (by simp at n; omega) rfl)
      · by_cases none : input = []
        · subst none
          exact .nothing
        · rw [linesOf_of_notMem ends none]
          exact .last none ends

/-! ### What a line says -/

theorem stripEnd_of_notMem (whole : '\n' ∉ t) : stripEnd t = t := by
  have reversed : '\n' ∉ t.reverse := by simpa using whole
  unfold stripEnd
  split
  · rename_i same
    simp [same] at reversed
  · rename_i same
    simp [same] at reversed
  · rfl

theorem stripEnd_append_crlf (t : Text) : stripEnd (t ++ ['\r', '\n']) = t := by
  simp [stripEnd]

theorem stripEnd_append_lf (noReturn : t.getLast? ≠ some '\r') : stripEnd (t ++ ['\n']) = t := by
  rw [List.getLast?_eq_head?_reverse] at noReturn
  unfold stripEnd
  rw [List.reverse_append]
  cases reversed : t.reverse with
  | nil => simpa using reversed.symm
  | cons c rest =>
    have other : c ≠ '\r' := by simpa [reversed] using noReturn
    have back : (c :: rest).reverse = t := by rw [← reversed, List.reverse_reverse]
    simp only [List.reverse_singleton, List.singleton_append]
    split
    · rename_i same
      cases same
      exact absurd rfl other
    · rename_i same
      cases same
      exact back
    · rename_i noFeed
      exact absurd rfl (noFeed _)

/-- What the shell is given for a line that is text: the text without the line feed at its end and the carriage return
before that, as it looks after all backspaces in it. -/
inductive Reads : Bytes → Text → Prop
  | unended {t : Text} (whole : '\n' ∉ t) : Reads (utf8 t) (edited t)
  | lf {t : Text} (whole : '\n' ∉ t) (noReturn : t.getLast? ≠ some '\r') : Reads (utf8 (t ++ ['\n'])) (edited t)
  | crlf {t : Text} (whole : '\n' ∉ t) : Reads (utf8 (t ++ ['\r', '\n'])) (edited t)

/-- A line of some input has a line feed at its end only. -/
def IsLine (line : Bytes) : Prop := ∃ body, 10 ∉ body ∧ (line = body ∨ line = body ++ [10])

theorem Cuts.isLine (cuts : Cuts input lines) : ∀ line ∈ lines, IsLine line := by
  induction cuts with
  | nothing => simp
  | last some whole => simpa using ⟨_, whole, .inl rfl⟩
  | line whole more ih => exact List.forall_mem_cons.2 ⟨⟨_, whole, .inr rfl⟩, ih⟩

theorem reads_of_isLine (isLine : IsLine line) (text : utf8 t = line) : Reads line (edited (stripEnd t)) := by
  obtain ⟨body, whole, rfl | rfl⟩ := isLine
  · have whole : '\n' ∉ t := fun mem => whole (text ▸ mem_utf8_iff.2 mem)
    rw [stripEnd_of_notMem whole, ← text]
    exact .unended whole
  · -- The byte at the end is a character by itself, and there is no other like it.
    obtain ⟨front, back, rfl, whole'⟩ := List.eq_append_cons_of_mem (mem_utf8_iff.1 (text ▸ (by simp) : 10 ∈ utf8 t))
    have feed : utf8 (front ++ '\n' :: back) = utf8 front ++ 10 :: utf8 back := utf8_append _ _
    obtain ⟨-, -, none⟩ := (List.append_cons_inj_of_notMem whole (by simp)).1 (text.symm.trans feed)
    obtain rfl : back = [] := utf8_injective none.symm
    rw [← text]
    rcases List.eq_nil_or_concat front with rfl | ⟨front, c, rfl⟩
    · exact .lf whole' (by simp)
    · by_cases returns : c = '\r'
      · subst returns
        have same : front ++ ['\r'] ++ ['\n'] = front ++ ['\r', '\n'] := by simp
        rw [List.concat_eq_append, same, stripEnd_append_crlf]
        exact .crlf fun mem => whole' (by simp [mem])
      · have noReturn : (front.concat c).getLast? ≠ some '\r' := by simpa using returns
        rw [stripEnd_append_lf noReturn]
        exact .lf whole' noReturn

/-- Some lines give these texts to the shell, and `allText` tells whether all of them are text. -/
structure Delivers (lines : List Bytes) (texts : List Text) (allText : Bool) : Prop where
  /-- The texts are what the first lines say. -/
  reads : List.Forall₂ Reads (lines.take texts.length) texts
  all : allText = true → texts.length = lines.length
  /-- The first line that is none has the bytes of no text. -/
  stops : allText = false → ∃ line, lines[texts.length]? = some line ∧ ∀ t, utf8 t ≠ line

theorem delivers_textLines (isLine : ∀ line ∈ lines, IsLine line) :
    Delivers lines (textLines lines).1 (textLines lines).2 := by
  induction lines with
  | nil => exact ⟨.nil, fun _ => rfl, fun none => by cases none⟩
  | cons line lines ih =>
    obtain ⟨first, isLine⟩ := List.forall_mem_cons.1 isLine
    have later := ih isLine
    cases read : utf8? line with
    | none =>
      simp only [textLines, read]
      refine ⟨.nil, fun all => (by cases all), fun _ => ⟨line, rfl, fun t text => ?_⟩⟩
      rw [utf8?_eq_some_iff.2 text] at read
      cases read
    | some t =>
      simp only [textLines, read]
      refine ⟨.cons (reads_of_isLine first (utf8?_eq_some_iff.1 read)) later.reads, fun all => ?_, fun stops => ?_⟩
      · simp [later.all all]
      · simpa using later.stops stops

/-- A single line is given as it is, unless there is nothing of it. -/
theorem ofBytes_of_line {ending : Bytes} (ends : ending = [] ∨ ending = [10]) (whole : '\n' ∉ t)
    (noReturn : t.getLast? ≠ some '\r') (typed : edited t = t) :
    ofBytes (utf8 t ++ ending) = (if t = [] ∧ ending = [] then [] else [t], true) := by
  have bytes : 10 ∉ utf8 t := mt mem_utf8_iff.1 whole
  rcases ends with rfl | rfl
  · by_cases none : t = []
    · subst none
      rfl
    · have some : utf8 t ≠ [] := fun empty => none (utf8_injective empty)
      simp only [List.append_nil, ofBytes, linesOf_of_notMem bytes some, textLines, utf8?_utf8, stripEnd_of_notMem whole,
        typed, none, false_and, if_false]
  · have feed : utf8 t ++ [10] = utf8 (t ++ ['\n']) := (utf8_append t ['\n']).symm
    have lines : linesOf (utf8 (t ++ ['\n'])) = [utf8 (t ++ ['\n'])] := by
      rw [← feed]
      exact linesOf_append bytes []
    simp only [feed, ofBytes, lines, textLines, utf8?_utf8, stripEnd_append_lf noReturn, typed]
    simp

/-- The line that the input begins with is given first, whatever comes behind it. -/
theorem head?_ofBytes_of_line (some_text : t ≠ []) (whole : '\n' ∉ t) (noReturn : t.getLast? ≠ some '\r')
    (typed : edited t = t) {rest : Bytes} (ended : ∀ b ∈ rest.head?, b = 10) :
    (ofBytes (utf8 t ++ rest)).1.head? = some t := by
  cases rest with
  | nil => rw [ofBytes_of_line (.inl rfl) whole noReturn typed, if_neg fun none => some_text none.1, List.head?_cons]
  | cons b rest =>
    obtain rfl : b = 10 := ended b rfl
    have feed : utf8 t ++ [10] = utf8 (t ++ ['\n']) := (utf8_append t ['\n']).symm
    have bytes : 10 ∉ utf8 t := mt mem_utf8_iff.1 whole
    simp only [ofBytes, linesOf_append bytes, feed, textLines, utf8?_utf8, stripEnd_append_lf noReturn, typed,
      List.head?_cons]

end LineInput

end PipeShell
