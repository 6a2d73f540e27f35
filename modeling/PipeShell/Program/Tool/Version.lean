import PipeShell.Text

/-!
# The order of versions

Names with numbers in them, such as `a9` and `a10`, are ordered by the values of the numbers.  Letters come before all
other characters, a tilde before everything, and the ends of names such as `.tar.gz` count only between names that are
equal otherwise.
-/

namespace PipeShell.Tool

/-- The place of a character that is no digit, or of the end of a name. -/
def versionRank : Text → Int
  | [] => -1
  | c :: _ => if c.isDigit then 0 else if c.isAlpha then c.toNat else if c = '~' then -2 else c.toNat + 256

/-- The order of two names, where numbers without zeros in front are longer where they are larger. -/
def compareVersions (fuel : Nat) (a b : Text) : Ordering :=
  match fuel with
  | 0 => .eq
  | fuel + 1 =>
    if a = [] ∧ b = [] then .eq
    else if a.head?.any (¬ ·.isDigit) ∨ b.head?.any (¬ ·.isDigit) then
      match compare (versionRank a) (versionRank b) with
      | .eq => compareVersions fuel a.tail b.tail
      | o => o
    else
      let digits (t : Text) : Text := (t.takeWhile Char.isDigit).dropWhile (· = '0')
      match compare (digits a).length (digits b).length with
      | .eq =>
        match compare ((digits a).map Char.toNat) ((digits b).map Char.toNat) with
        | .eq => compareVersions fuel (a.dropWhile Char.isDigit) (b.dropWhile Char.isDigit)
        | o => o
      | o => o

/-- A text begins an end such as `.gz`. -/
def beginsSuffix : Text → Bool
  | '.' :: c :: _ => c.isAlpha || c == '~'
  | _ => false

/-- All of a text is ends such as `.tar.gz`. -/
def isSuffixes (fuel : Nat) (t : Text) : Bool :=
  match fuel with
  | 0 => false
  | fuel + 1 =>
    t == [] || (beginsSuffix t && isSuffixes fuel ((t.drop 2).dropWhile fun c => c.isAlphanum || c == '~'))

/-- A name without its ends; at least one character stays. -/
def withoutSuffixes : Text → Text
  | [] => []
  | c :: rest => c :: go rest
where
  go : Text → Text
    | [] => []
    | c :: rest => if isSuffixes (rest.length + 2) (c :: rest) then [] else c :: go rest

/-- The order of two names.  Empty ones come first, then those with a dot in front. -/
def versionOrder (a b : Text) : Ordering :=
  let place (t : Text) : Nat := match t with
    | [] => 0
    | ['.'] => 1
    | ['.', '.'] => 2
    | '.' :: _ => 3
    | _ => 4
  match compare (place a) (place b) with
  | .eq =>
    if place a < 3 then .eq
    else
      let fuel := a.length + b.length + 1
      match compareVersions fuel (withoutSuffixes a) (withoutSuffixes b) with
      | .eq => compareVersions fuel a b
      | o => o
  | o => o

end PipeShell.Tool
