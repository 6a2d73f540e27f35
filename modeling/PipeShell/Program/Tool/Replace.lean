import PipeShell.Program.Tool.Amount
import PipeShell.Program.Tool.ByteClass
import PipeShell.Program.Tool.Help
import PipeShell.Program.Tool.Options

/-!
# Replacing characters

The tool `tr`: it replaces the characters of one set by those of another, deletes them, or makes one out of many.  A
set is spelled with ranges such as `a-z`, classes such as `[:upper:]` and repetitions such as `[x*3]`.
-/

namespace PipeShell.Tool

/-! ### Spelling -/

/-- A character as it is spelled in a set, and whether a backslash takes its meaning away. -/
structure Spelled where
  char : Char
  escaped : Bool
  deriving DecidableEq, Inhabited

/-- The letters that stand for control characters after a backslash. -/
def controlLetters : List (Char × Char) :=
  [('a', '\x07'), ('b', '\x08'), ('f', '\x0c'), ('n', '\n'), ('r', '\r'), ('t', '\t'), ('v', '\x0b')]

/-- The octal digits in front of a text that spell one character, and a warning if a third digit does not fit. -/
def octalDigits (t : Text) : Text × Option Text :=
  let digits := (t.take 3).takeWhile isOctal
  match digits with
  | [a, b, c] =>
    if octalValue digits < 256 then (digits, none)
    else
      ([a, b], some ("warning: the ambiguous octal escape \\".toList ++ digits ++
        " is being\n\tinterpreted as the 2-byte sequence \\0".toList ++ [a, b] ++ ", ".toList ++ [c]))
  | _ => (digits, none)

/-- The characters that a text spells, where the first `skipped` characters have been read, and warnings. -/
def spell (skipped : Nat) : Text → List Spelled × List Text
  | [] => ([], [])
  | c :: rest =>
    let add (s : Spelled) (warning : Option Text) (more : List Spelled × List Text) : List Spelled × List Text :=
      (s :: more.1, warning.toList ++ more.2)
    match skipped with
    | n + 1 => spell n rest
    | 0 =>
      if c ≠ '\\' then add ⟨c, false⟩ none (spell 0 rest)
      else
        match rest with
        | [] =>
          ([⟨'\\', false⟩], ["warning: an unescaped backslash at end of string is not portable".toList])
        | d :: _ =>
          if isOctal d then
            let (digits, warning) := octalDigits rest
            add ⟨Char.ofNat (octalValue digits), true⟩ warning (spell digits.length rest)
          else add ⟨(controlLetters.lookup d).getD d, true⟩ none (spell 1 rest)

/-- The character is spelled plainly. -/
def Spelled.isPlain (s : Spelled) (c : Char) : Bool := !s.escaped && s.char == c

/-- The characters that are spelled. -/
def Spelled.text (l : List Spelled) : Text := l.map (·.char)

/-- A character as diagnostics show it. -/
def shownChar (c : Char) : Text := if Quoting.isPrintable c then [c] else '\\' :: Quoting.escapeOf c

/-- A character in the range that diagnostics show, without letters for control characters. -/
def shownEnd (c : Char) : Text :=
  if Quoting.isPrintable c then [c]
  else
    let n := c.toNat
    '\\' :: [n / 64, n / 8 % 8, n % 8].map fun d => Char.ofNat (48 + d)

/-- Characters in quotes, as diagnostics show a part of a set. -/
def shownPart (t : Text) : Text :=
  Quoting.quoted (t.flatMap fun c => if c = '\\' then ['\\', '\\'] else shownChar c)

/-! ### Sets -/

/-- A part of a set. -/
inductive SetPart
  | one (c : Char)
  | range (first last : Char)
  | named (k : ByteClass)
  | equal (c : Char)
  /-- A character that is repeated; no times mean as often as it takes. -/
  | repeated (c : Char) (times : Nat)
  deriving DecidableEq, Inhabited

namespace SetPart

/-- No set is written out with more copies of one character. -/
def repeatLimit : Nat := 65536

/-- The characters of a part. -/
def chars : SetPart → Text
  | one c => [c]
  | range a z => (List.range (z.toNat + 1 - a.toNat)).map fun i => Char.ofNat (a.toNat + i)
  | named k => k.members
  | equal c => [c]
  | repeated c n => List.replicate (min n repeatLimit) c

/-- The number of characters in a part. -/
def size : SetPart → Nat
  | repeated _ n => n
  | part => part.chars.length

/-- The part has as many characters as there is room for. -/
def isFill : SetPart → Bool
  | repeated _ 0 => true
  | _ => false

/-- The part is one of the two classes whose members belong together in pairs. -/
def caseClass? : SetPart → Option ByteClass
  | named .upper => some .upper
  | named .lower => some .lower
  | _ => none

end SetPart

/-- The characters between a bracket with a delimiter in front and the same delimiter with a bracket behind, and what
follows. -/
def untilClosing (delimiter : Char) : List Spelled → Option (List Spelled × List Spelled)
  | a :: b :: rest =>
    if a.isPlain delimiter ∧ b.isPlain ']' then some ([], rest)
    else (untilClosing delimiter (b :: rest)).map fun (inside, after) => (a :: inside, after)
  | _ => none

/-- A repetition such as `[x*3]` at the start, after its bracket. -/
def repetition? (l : List Spelled) : Except Text (Option (SetPart × List Spelled)) :=
  match l with
  | c :: star :: rest =>
    let count := rest.takeWhile fun s => ¬ s.escaped ∧ s.char ≠ ']'
    match rest.drop count.length with
    | close :: after =>
      if ¬ star.isPlain '*' ∨ ¬ close.isPlain ']' then .ok none
      else
        let digits := Spelled.text count
        let isOctalNumber := digits.head? = some '0'
        let isNumber := digits.all fun c => if isOctalNumber then isOctal c else c.isDigit
        let value := if isOctalNumber then octalValue digits else digitsValue digits
        if isNumber ∧ value < Nat.pow 2 64 - 1 then .ok (some (.repeated c.char value, after))
        else .error ("invalid repeat count ".toList ++ shownPart digits ++ " in [c*n] construct".toList)
    | [] => .ok none
  | _ => .ok none

/-- A star, digits and a bracket. -/
def isStarNumber (l : List Spelled) : Bool :=
  match l with
  | star :: rest => star.isPlain '*' && ((rest.dropWhile (·.char.isDigit)).head?.any (Spelled.isPlain · ']'))
  | [] => false

/-- A class at the start, after its bracket and delimiter; `none` if it can only be a repetition. -/
def class? (delimiter : Char) (inside : List Spelled) (l : List Spelled) : Except Text (Option SetPart) :=
  let name := Spelled.text inside
  let orRepetition (message : Text) : Except Text (Option SetPart) :=
    if isStarNumber l then .ok none else .error message
  if delimiter = ':' then
    if name = [] then .error "missing character class name '[::]'".toList
    else
      match ByteClass.ofName? name with
      | some k => .ok (some (.named k))
      | none => orRepetition ("invalid character class ".toList ++ shownPart name)
  else
    match name with
    | [] => .error "missing equivalence class character '[==]'".toList
    | [c] => .ok (some (.equal c))
    | _ =>
      orRepetition (name.flatMap (fun c => if c = '\\' then ['\\', '\\'] else shownChar c) ++
        ": equivalence class operand must be a single character".toList)

/-- The part in brackets at the start, and what follows it. -/
def bracketPart? (l : List Spelled) : Except Text (Option (SetPart × List Spelled)) :=
  match l with
  | a :: b :: rest =>
    if ¬ a.isPlain '[' then .ok none
    else if b.isPlain ':' ∨ b.isPlain '=' then
      match untilClosing b.char rest with
      | some (inside, after) => do
        match ← class? b.char inside rest with
        | some part => .ok (some (part, after))
        | none => repetition? (b :: rest)
      | none => repetition? (b :: rest)
    else repetition? (b :: rest)
  | _ => .ok none

/-- The parts of a set, or what is wrong with it.  Parts of more than one character need three characters. -/
def setParts (fuel : Nat) (l : List Spelled) : Except Text (List SetPart) :=
  match fuel with
  | 0 => .ok []
  | fuel + 1 =>
    match l with
    | a :: dash :: b :: rest => do
      match ← bracketPart? l with
      | some (part, rest) => return part :: (← setParts fuel rest)
      | none =>
        if dash.isPlain '-' then
          if b.char < a.char then
            .error ("range-endpoints of '".toList ++ shownEnd a.char ++ '-' :: shownEnd b.char ++
              "' are in reverse collating sequence order".toList)
          else return .range a.char b.char :: (← setParts fuel rest)
        else return .one a.char :: (← setParts fuel (dash :: b :: rest))
    | l => .ok (l.map fun s => .one s.char)

/-- The number of characters in a set. -/
def setSize (parts : List SetPart) : Nat := parts.foldl (fun n part => n + part.size) 0

/-- The characters of a set. -/
def setChars (parts : List SetPart) : Text := parts.flatMap SetPart.chars

/-- A set whose part without number has been given as many copies as are missing to a size. -/
def fillTo (size : Nat) (parts : List SetPart) : List SetPart :=
  let known := setSize parts
  if (parts.filter SetPart.isFill).length = 1 ∧ known ≤ size then
    parts.map fun
      | .repeated c 0 => .repeated c (size - known)
      | part => part
  else parts

/-! ### Pairs -/

/-- A character of a set with the part that it belongs to. -/
structure Member where
  char : Char
  part : Nat
  caseClass : Option ByteClass
  deriving DecidableEq, Inhabited

/-- The members of a set in their order. -/
def members (parts : List SetPart) : List Member :=
  parts.zipIdx.flatMap fun (part, i) => part.chars.map fun c => ⟨c, i, part.caseClass?⟩

/-- The members after those of one part. -/
def skipPart (part : Nat) (l : List Member) : List Member := l.dropWhile (·.part == part)

/-- Goes through two sets at once, and puts all pairs of a case class into one.  The flags say that a part begins in
either set.  The answer gives the number of those pairs, and is `none` where a case class has no partner. -/
def casePairs (fuel : Nat) (newFrom newTo : Bool) (a b : List Member) : Option (List (ByteClass × ByteClass)) :=
  match fuel with
  | 0 => some []
  | fuel + 1 =>
    match b with
    | [] => some []
    | y :: b' =>
      let x := a.head?
      let xClass := x.bind (·.caseClass)
      if newTo ∧ y.caseClass.isSome ∧ ¬ (newFrom ∧ xClass.isSome) then none
      else
        match x with
        | none => some []
        | some x =>
          let isNew (m : Member) (rest : List Member) : Bool := rest.head?.all (·.part != m.part)
          match y.caseClass with
          | some k =>
            (casePairs fuel true true (skipPart x.part a) (skipPart y.part b)).map ((xClass.getD .lower, k) :: ·)
          | none => casePairs fuel (isNew x a.tail) (isNew y b') a.tail b'

/-- The characters that are replaced, each with what takes its place. -/
def replacementPairs (fuel : Nat) (a b : List Member) : List (Char × Char) :=
  match fuel with
  | 0 => []
  | fuel + 1 =>
    match a, b with
    | x :: a', y :: b' =>
      let here := match x.caseClass, y.caseClass with
        | some .lower, some .upper => ByteClass.lower.members.map fun c => (c, c.toUpper)
        | some .upper, some .lower => ByteClass.upper.members.map fun c => (c, c.toLower)
        | _, _ => [(x.char, y.char)]
      here ++ if y.caseClass.isSome then replacementPairs fuel (skipPart x.part a') (skipPart y.part b')
        else replacementPairs fuel a' b'
    | _, _ => []

/-! ### Running -/

/-- What the options ask for. -/
structure ReplaceOptions where
  complement : Bool := false
  deletes : Bool := false
  squeezes : Bool := false
  truncates : Bool := false
  deriving DecidableEq, Inhabited

/-- What is done to the input: characters are replaced and left out, and then runs are shortened. -/
structure Replacement where
  replace : List (Char × Char) := []
  deleted : Text := []
  squeezed : Text := []
  deriving Inhabited

/-- The characters that are not in a set. -/
def complementOf (t : Text) : Text := ByteClass.characters.filter (¬ t.contains ·)

/-- The size of a set by which case classes count once. -/
def sizeOfPairs (n : Nat) (classes : List ByteClass) : Nat :=
  n - classes.foldl (fun n k => n + (k.members.length - 1)) 0

/-- The second set continued to the size of the first one. -/
def continued (size known : Nat) (parts : List SetPart) : Except Text (List SetPart) :=
  match parts.getLast? with
  | none => .error "when not truncating set1, string2 must be non-empty".toList
  | some (.named _) =>
    .error ("when translating with string1 longer than string2,\n" ++
      "the latter string must not end with a character class").toList
  | some part =>
    let last := match part with
      | .repeated c _ => c
      | part => part.chars.getLast?.getD ' '
    .ok (parts ++ [.repeated last (size - known)])

/-- The replacement of one set by another. -/
def translation (o : ReplaceOptions) (a b : List SetPart) (size : Nat) : Except Text Replacement := do
  if b.any (· matches .equal _) then .error "[=c=] expressions may not appear in string2 when translating".toList
  if b.any fun
      | .named k => k ≠ .upper ∧ k ≠ .lower
      | _ => false then
    .error ("when translating, the only character classes that may appear in\n" ++
      "string2 are 'upper' and 'lower'").toList
  let cases ← if o.complement ∨ ¬ b.any (· matches .named _) then .ok []
    else
      match casePairs ((members a).length + 1) true true (members a) (members b) with
      | some cases => .ok cases
      | none => .error "misaligned [:upper:] and/or [:lower:] construct".toList
  let sizeA := sizeOfPairs size (cases.map (·.1))
  let sizeB := sizeOfPairs (setSize b) (cases.map (·.2))
  let (b, sizeB) ← if sizeB < sizeA ∧ ¬ o.truncates then
      (if sizeB = 0 then .error "when not truncating set1, string2 must be non-empty".toList
      else (continued sizeA sizeB b).map (·, sizeA))
    else .ok (b, sizeB)
  let other := setChars b
  if o.complement ∧ a.any (· matches .named _) ∧ ¬ (sizeA = sizeB ∧ other.all (· == other.headD ' ')) then
    .error ("when translating with complemented character classes,\n" ++
      "string2 must map all characters in the domain to one").toList
  let pairs := if o.complement then (complementOf (setChars a)).zip other
    else replacementPairs ((members a).length + 1) (members a) (members b)
  return { replace := pairs, squeezed := if o.squeezes then other else [] }

/-- What two sets ask for, of which the second one may be missing. -/
def replacementOf (o : ReplaceOptions) (a : List SetPart) (b : Option (List SetPart)) : Except Text Replacement := do
  let isTranslation := b.isSome ∧ ¬ o.deletes
  let first := if o.complement then complementOf (setChars a) else setChars a
  let size := if o.complement then first.length else setSize a
  if a.any SetPart.isFill then .error "the [c*] repeat construct may not appear in string1".toList
  match b with
  | none => return if o.deletes then { deleted := first } else { squeezed := first }
  | some b =>
    if 1 < (b.filter SetPart.isFill).length then
      .error "only one [c*] repeat construct may appear in string2".toList
    if isTranslation then translation o a (fillTo size b) size
    else if b.any SetPart.isFill then
      .error "the [c*] construct may appear in string2 only when translating".toList
    else return { deleted := first, squeezed := setChars b }

/-- Runs of one character of the set become a single one; `before` is the character just before. -/
def squeeze (set : Text) (before : Option Char) : Text → Text
  | [] => []
  | c :: rest => if before = some c ∧ set.contains c then squeeze set before rest else c :: squeeze set (some c) rest

/-- Passes the input through. -/
def Replacement.run (t : Replacement) (p : Process) (wire : Wire) (rounds : Nat) (before : Option Char) : Work Nat :=
  match rounds with
  | 0 => return 0
  | rounds + 1 => do
    match ← Job.take wire 8192 with
    | .error fault => p.die 1 ("read error: ".toList ++ fault.reason)
    | .ok [] => return 0
    | .ok b =>
      let kept := (charsOf b).filterMap fun c =>
        if t.deleted.contains c then none else some (((t.replace.reverse).lookup c).getD c)
      p.emit (bytesOf (squeeze t.squeezed before kept))
      t.run p wire rounds (kept.getLast? <|> before)

namespace ReplaceOptions

def options : OptionTable where
  letters := "AcCdst"
  names := [⟨"complement", "c", .nothing⟩, ⟨"delete", "d", .nothing⟩, ⟨"squeeze-repeats", "s", .nothing⟩,
    ⟨"truncate-set1", "t", .nothing⟩]
  ordered := true
  help := Help.tr

def take (o : ReplaceOptions) (key : String) (_ : Text) : Work ReplaceOptions :=
  return match key with
    | "c" | "C" => { o with complement := true }
    | "d" => { o with deletes := true }
    | "s" => { o with squeezes := true }
    | "t" => { o with truncates := true }
    | _ => o

/-- Ends where there are too few or too many sets. -/
def checkNumber (o : ReplaceOptions) (p : Process) (operands : List Text) : Work Unit := do
  let least := if o.deletes = o.squeezes then 2 else 1
  let most := if o.deletes ∧ ¬ o.squeezes then 1 else 2
  match operands.drop most with
  | extra :: _ =>
    options.advise p ("extra operand ".toList ++ Quoting.quoted extra ++ (if operands.length = 2 then
      "\nOnly one string may be given when deleting without squeezing repeats." else "").toList)
  | [] =>
    if least ≤ operands.length then return ()
    else
      match operands.getLast? with
      | none => options.advise p "missing operand".toList
      | some last =>
        options.advise p ("missing operand after ".toList ++ Quoting.quoted last ++ (if o.squeezes then
          "\nTwo strings must be given when both deleting and squeezing repeats."
          else "\nTwo strings must be given when translating.").toList)

/-- The set that a word spells. -/
def readSet (p : Process) (word : Text) : Work (List SetPart) := do
  let (spelled, warnings) := spell 0 word
  for warning in warnings do p.complain warning
  match setParts (spelled.length + 1) spelled with
  | .ok parts => return parts
  | .error message => p.die 1 message

end ReplaceOptions

/-- The tool `tr`. -/
def tr : Program := Process.buffered 1 fun p => ReplaceOptions.options.apply p {} ReplaceOptions.take
  fun o operands => do
    o.checkNumber p operands
    let a ← ReplaceOptions.readSet p (operands.headD [])
    let b ← match operands.tail.head? with
      | some word => do pure (some (← ReplaceOptions.readSet p word))
      | none => pure none
    match replacementOf o a b with
    | .error message => p.die 1 message
    | .ok t =>
      match p.wires.lookup 0 with
      | some wire => t.run p wire Job.longRun none
      | none => p.die 1 ("read error: ".toList ++ Fault.reason Job.closed)

end PipeShell.Tool
