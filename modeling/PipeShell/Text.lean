/-!
# Text and bytes

A text is the list of its characters, the contents of a file or a stream the list of its bytes.  `utf8` turns the
one into the other and `utf8?` turns it back where the bytes are valid; `showNat` and `showInt` write numbers.
-/

namespace PipeShell

/-- The characters of a text, in order. -/
abbrev Text := List Char

/-- The bytes of a file or of a stream, in order. -/
abbrev Bytes := List UInt8

/-- The UTF-8 bytes of a text. -/
def utf8 (t : Text) : Bytes := t.flatMap String.utf8EncodeChar

/-- The text that some bytes encode, if they are valid UTF-8. -/
def utf8? (b : Bytes) : Option Text := (String.fromUTF8? ⟨b.toArray⟩).map String.toList

/-- Bytes as the characters of the same numbers.  Programs of the machine treat all texts in this form. -/
def charsOf (b : Bytes) : Text := b.map fun c => Char.ofNat c.toNat

/-- The bytes of a text in which every character stands for a byte. -/
def bytesOf (t : Text) : Bytes := t.map fun c => UInt8.ofNat c.toNat

/-- A text in which every character stands for a byte. -/
def spellOut (t : Text) : Text := charsOf (utf8 t)

/-- The text that is spelled out; bytes that are no text stand for themselves. -/
def readBack (t : Text) : Text := (utf8? (bytesOf t)).getD t

/-- A number in decimal digits. -/
def showNat (n : Nat) : Text := Nat.toDigits 10 n

/-- A number in decimal digits, with a minus sign if it is negative. -/
def showInt (n : Int) : Text := if n < 0 then '-' :: showNat n.natAbs else showNat n.natAbs

/-- A digit in base eight. -/
def isOctal (c : Char) : Bool := '0' ≤ c && c ≤ '7'

/-- The number that digits in base eight spell. -/
def octalValue (digits : Text) : Nat := digits.foldl (fun n c => n * 8 + (c.toNat - 48)) 0

/-- The order of texts by their characters. -/
def compareText : Text → Text → Ordering
  | [], [] => .eq
  | [], _ :: _ => .lt
  | _ :: _, [] => .gt
  | a :: as, b :: bs => if a = b then compareText as bs else compare a.toNat b.toNat

/-- The parts of a text between the occurrences of `sep`; there is always at least one. -/
def splitAt (sep : Char) : Text → List Text
  | [] => [[]]
  | c :: cs =>
    if c = sep then [] :: splitAt sep cs
    else
      match splitAt sep cs with
      | [] => [[c]]
      | part :: parts => (c :: part) :: parts

/-- Texts in one, with `sep` between neighbours. -/
def joinWith (sep : Text) : List Text → Text
  | [] => []
  | [t] => t
  | t :: ts => t ++ sep ++ joinWith sep ts

/-- The bytes of two texts in a row are those of the one and then those of the other. -/
theorem utf8_append (s t : Text) : utf8 (s ++ t) = utf8 s ++ utf8 t := by
  simp [utf8]

/-- Even the empty text has a part. -/
theorem splitAt_ne_nil (sep : Char) (t : Text) : splitAt sep t ≠ [] := by
  cases t with
  | nil => simp [splitAt]
  | cons c cs =>
    unfold splitAt
    split
    · simp
    · split <;> simp

/-- Putting the separators back gives the text again. -/
theorem joinWith_splitAt (sep : Char) (t : Text) : joinWith [sep] (splitAt sep t) = t := by
  induction t with
  | nil => rfl
  | cons c cs ih =>
    have hne := splitAt_ne_nil sep cs
    unfold splitAt
    cases hs : splitAt sep cs with
    | nil => exact absurd hs hne
    | cons p ps =>
      rw [hs] at ih
      split
      · rename_i h
        simp [joinWith, ih, h]
      · cases ps with
        | nil => simpa [joinWith] using ih
        | cons q qs => simpa [joinWith] using ih

end PipeShell
