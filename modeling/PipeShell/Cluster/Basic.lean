import PipeShell.Cluster.Table
import PipeShell.Text

/-!
# Clusters

A cluster is what a reader takes for one character: a letter with its accents, a flag of two letters, a row of joined
pictures, a syllable.  `clusters` cuts a text between them, by the rules of the Unicode standard for extended grapheme
clusters.
-/

namespace PipeShell

namespace Cluster

/-- How a character takes part in clusters. -/
inductive Kind
  | other
  | carriageReturn
  | lineFeed
  | control
  | extending
  | joiner
  | spacing
  | prepended
  /-- Half of a flag. -/
  | regional
  | leading
  | vowel
  | trailing
  /-- A syllable that ends in its vowel. -/
  | openSyllable
  | closedSyllable
  deriving DecidableEq, Inhabited

/-- A number is in one of some ranges. -/
def isIn (n : Nat) (ranges : List (Nat × Nat)) : Bool := ranges.any fun (first, last) => first ≤ n && n ≤ last

/-- The kind of a part of a Korean syllable. -/
def koreanKind? (n : Nat) : Option Kind :=
  if isIn n [(0x1100, 0x115f), (0xa960, 0xa97c)] then some .leading
  else if isIn n [(0x1160, 0x11a7), (0xd7b0, 0xd7c6), (0x16d63, 0x16d63), (0x16d67, 0x16d6a)] then some .vowel
  else if isIn n [(0x11a8, 0x11ff), (0xd7cb, 0xd7fb)] then some .trailing
  else if isIn n [(0xac00, 0xd7a3)] then some (if (n - 0xac00) % 28 = 0 then .openSyllable else .closedSyllable)
  else none

/-- The kind of a character. -/
def kindOf (c : Char) : Kind :=
  let n := c.toNat
  if n = 13 then .carriageReturn
  else if n = 10 then .lineFeed
  else if n < 32 then .control
  else if n < 127 then .other
  else if n = 0x200d then .joiner
  else if isIn n Table.extending then .extending
  else if isIn n Table.controls then .control
  else if isIn n Table.spacing then .spacing
  else if isIn n Table.prepended then .prepended
  else if isIn n [(0x1f1e6, 0x1f1ff)] then .regional
  else (koreanKind? n).getD .other

/-- What matters of the characters before a place for whether a cluster ends there. -/
structure Reading where
  last : Kind
  /-- An odd number of halves of flags ends here. -/
  halfFlag : Bool := false
  /-- A picture, perhaps with extending characters, ends here. -/
  picture : Bool := false
  /-- Such a picture with a joiner ends here. -/
  joined : Bool := false
  /-- A consonant, perhaps with extending characters, ends here. -/
  consonant : Bool := false
  /-- There is a virama among these. -/
  linked : Bool := false
  deriving Inhabited

namespace Reading

/-- What is known after a further character. -/
def next (r : Reading) (c : Char) : Reading :=
  let kind := kindOf c
  let extends_ := kind = .extending || kind = .joiner
  { last := kind
    halfFlag := kind = .regional && !r.halfFlag
    picture := isIn c.toNat Table.pictographs || (r.picture && kind = .extending)
    joined := r.picture && kind = .joiner
    consonant := isIn c.toNat Table.conjoined || (r.consonant && extends_ && c.toNat != 0x200c)
    linked := r.consonant && extends_ && c.toNat != 0x200c && (r.linked || isIn c.toNat Table.viramas) }

/-- What is known after the first character of a text. -/
def first (c : Char) : Reading := next { last := .control } c

/-- A character belongs to the cluster before it. -/
def takes (r : Reading) (c : Char) : Bool :=
  match r.last, kindOf c with
  | .carriageReturn, .lineFeed => true
  | .carriageReturn, _ | .lineFeed, _ | .control, _ => false
  | _, .carriageReturn | _, .lineFeed | _, .control => false
  | .leading, .leading | .leading, .vowel | .leading, .openSyllable | .leading, .closedSyllable => true
  | .openSyllable, .vowel | .openSyllable, .trailing | .vowel, .vowel | .vowel, .trailing => true
  | .closedSyllable, .trailing | .trailing, .trailing => true
  | _, .extending | _, .joiner | _, .spacing => true
  | .prepended, _ => true
  | _, kind =>
    (r.joined && isIn c.toNat Table.pictographs) || (r.linked && isIn c.toNat Table.conjoined) ||
      (r.halfFlag && kind = .regional)

end Reading

/-- The rest of the cluster that has been read so far, and the clusters after it. -/
def cut (r : Reading) : Text → Text × List Text
  | [] => ([], [])
  | c :: rest =>
    let (cluster, more) := cut (r.next c) rest
    if r.takes c then (c :: cluster, more) else ([], (c :: cluster) :: more)

end Cluster

/-- The clusters of a text. -/
def clusters : Text → List Text
  | [] => []
  | c :: rest =>
    let (cluster, more) := Cluster.cut (Cluster.Reading.first c) rest
    (c :: cluster) :: more

end PipeShell
