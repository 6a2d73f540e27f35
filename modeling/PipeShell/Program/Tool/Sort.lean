import PipeShell.Program.Tool.Help
import PipeShell.Program.Tool.Options
import PipeShell.Program.Tool.SortKey

/-!
# Sorting lines

The tool `sort`.  Lines are compared by their keys first, and lines with equal keys by their bytes.
-/

namespace PipeShell.Tool

/-- What `sort` does with the lines. -/
structure SortOptions where
  keys : List SortKey := []
  order : KeyOrder := {}
  /-- The letter that asks for a check. -/
  check : Option Char := none
  merges : Bool := false
  output : Option Text := none
  stable : Bool := false
  separator : Option Char := none
  unique : Bool := false
  lineEnd : Char := '\n'
  /-- The operands that were no keys. -/
  files : List Text := []
  namesFrom : Option Text := none
  deriving Inhabited

/-- A line with the values of its keys. -/
structure SortLine where
  text : Text
  values : List SortKey.Value
  deriving Inhabited

namespace SortOptions

/-! ### Orders -/

/-- The keys as they are used: a key without letters takes the common ones, which make a key of their own where there
is none. -/
def usedKeys (o : SortOptions) : List SortKey :=
  if o.keys = [] then if o.order.isPlain then [] else [{ order := o.order }]
  else o.keys.map fun k => if k.order.isPlain ∧ ¬ k.order.reversed then { k with order := o.order } else k

/-- A line and the values of its keys. -/
def line (o : SortOptions) (t : Text) : SortLine := ⟨t, o.usedKeys.map (·.extract o.separator t)⟩

/-- The order of the keys of two lines. -/
def compareKeys : List SortKey → List SortKey.Value → List SortKey.Value → Ordering
  | k :: ks, a :: as, b :: bs =>
    match if k.order.reversed then SortKey.Value.compare b a else SortKey.Value.compare a b with
    | .eq => compareKeys ks as bs
    | o => o
  | _, _, _ => .eq

/-- The order of two lines, for keys that have been looked up. -/
def compare (o : SortOptions) (keys : List SortKey) (a b : SortLine) : Ordering :=
  match compareKeys keys a.values b.values with
  | .eq =>
    if keys ≠ [] ∧ (o.unique ∨ o.stable) then .eq
    else if o.order.reversed then compareText b.text a.text else compareText a.text b.text
  | order => order

/-- Lines without those that are equal to the one that is kept before them. -/
def dedup (o : SortOptions) (keys : List SortKey) : List SortLine → List SortLine
  | a :: b :: rest =>
    if o.compare keys a b = .eq then dedup o keys (a :: rest) else a :: dedup o keys (b :: rest)
  | lines => lines
  termination_by lines => lines.length

/-- The first line that does not belong after the one before, with its number. -/
def disorder? (o : SortOptions) (keys : List SortKey) (number : Nat) : List SortLine → Option (Nat × Text)
  | a :: b :: rest =>
    match o.compare keys a b with
    | .gt => some (number + 1, b.text)
    | .eq => if o.unique then some (number + 1, b.text) else disorder? o keys (number + 1) (b :: rest)
    | .lt => disorder? o keys (number + 1) (b :: rest)
  | _ => none

/-- The first of the heads of some lists that no other one comes before, and the lists without it. -/
def takeLeast (o : SortOptions) (keys : List SortKey) : List (List SortLine) → Option (SortLine × List (List SortLine))
  | [] => none
  | [] :: rest => (takeLeast o keys rest).map fun (l, rest) => (l, [] :: rest)
  | (a :: as) :: rest =>
    match takeLeast o keys rest with
    | none => some (a, as :: rest)
    | some (b, rest') => if o.compare keys a b = .gt then some (b, (a :: as) :: rest') else some (a, as :: rest)

/-- Lists merged into one. -/
def merge (o : SortOptions) (keys : List SortKey) (fuel : Nat) (lists : List (List SortLine)) : List SortLine :=
  match fuel with
  | 0 => []
  | fuel + 1 =>
    match takeLeast o keys lists with
    | none => []
    | some (l, lists) => l :: merge o keys fuel lists

/-- The lines of some bytes; the last one may lack its end. -/
def linesOf (o : SortOptions) (b : Bytes) : List Text :=
  let lines := splitAt o.lineEnd (charsOf b)
  if lines.getLast? = some [] then lines.dropLast else lines

/-- The lines of all files in their order. -/
def arrange (o : SortOptions) (inputs : List Bytes) : List SortLine :=
  let keys := o.usedKeys
  let lists := inputs.map fun b => (o.linesOf b).map o.line
  let lines := if o.merges then o.merge keys (lists.flatten.length + 1) lists
    else lists.flatten.mergeSort fun a b => o.compare keys a b ≠ .gt
  if o.unique then o.dedup keys lines else lines

/-! ### Options -/

def sortOptions : OptionTable where
  letters := "bcCdfghimMnrRsuVz"
  valued := "koSTty"
  names := [⟨"ignore-leading-blanks", "b", .nothing⟩, ⟨"check", "check", .perhaps⟩,
    ⟨"compress-program", "compress-program", .value⟩, ⟨"debug", "debug", .nothing⟩,
    ⟨"dictionary-order", "d", .nothing⟩, ⟨"ignore-case", "f", .nothing⟩, ⟨"files0-from", "files0-from", .value⟩,
    ⟨"general-numeric-sort", "g", .nothing⟩, ⟨"ignore-nonprinting", "i", .nothing⟩, ⟨"key", "k", .value⟩,
    ⟨"merge", "m", .nothing⟩, ⟨"month-sort", "M", .nothing⟩, ⟨"numeric-sort", "n", .nothing⟩,
    ⟨"human-numeric-sort", "h", .nothing⟩, ⟨"version-sort", "V", .nothing⟩, ⟨"random-sort", "R", .nothing⟩,
    ⟨"random-source", "random-source", .value⟩, ⟨"sort", "sort", .value⟩, ⟨"output", "o", .value⟩,
    ⟨"reverse", "r", .nothing⟩, ⟨"stable", "s", .nothing⟩, ⟨"batch-size", "batch-size", .value⟩,
    ⟨"buffer-size", "S", .value⟩, ⟨"field-separator", "t", .value⟩, ⟨"temporary-directory", "T", .value⟩,
    ⟨"unique", "u", .nothing⟩, ⟨"zero-terminated", "z", .nothing⟩, ⟨"parallel", "parallel", .value⟩]
  code := 2
  help := Help.sort

/-- Options that do not go together. -/
def refuse {α : Type} (p : Process) (letters : Text) : Work α :=
  p.die 2 ("options '-".toList ++ letters ++ "' are incompatible".toList)

/-- The number in front of a text, and what follows; `none` where there is no number. -/
def fieldCount? (t : Text) : Option (Nat × Text) :=
  let body := t.dropWhile isSpaceChar
  let body := match body with
    | '+' :: rest => rest
    | rest => rest
  let digits := body.takeWhile Char.isDigit
  if digits = [] then none else some (min (digitsValue digits) wordLimit, body.drop digits.length)

/-- The number in front of a text, where there has to be one. -/
def fieldCount (p : Process) (place : String) (t : Text) : Work (Nat × Text) :=
  match fieldCount? t with
  | some answer => return answer
  | none =>
    p.die 2 ("invalid number ".toList ++ place.toList ++ ": invalid count at start of ".toList ++ Quoting.quoted t)

/-- Refuses a key. -/
def badField {α : Type} (p : Process) (reason : String) (spec : Text) : Work α :=
  p.die 2 (reason.toList ++ ": invalid field specification ".toList ++ Quoting.quoted spec)

/-- A key such as `2.3,4n`. -/
def readKey (p : Process) (spec : Text) : Work SortKey := do
  let (field, rest) ← fieldCount p "at field start" spec
  if field = 0 then badField p "field number is zero" spec
  let (char, rest) ← match rest with
    | '.' :: rest => do
      let (n, rest) ← fieldCount p "after '.'" rest
      if n = 0 then badField p "character offset is zero" spec
      pure (n - 1, rest)
    | rest => pure (0, rest)
  let (order, rest) := KeyOrder.takeAll {} .start rest
  let key : SortKey :=
    { startField := if field = 1 ∧ char = 0 then none else some (field - 1), startChar := char, order }
  let (key, rest) ← match rest with
    | ',' :: rest => do
      let (field, rest) ← fieldCount p "after ','" rest
      if field = 0 then badField p "field number is zero" spec
      let (char, rest) ← match rest with
        | '.' :: rest => fieldCount p "after '.'" rest
        | rest => pure (0, rest)
      let (order, rest) := key.order.takeAll .finish rest
      pure ({ key with endField := some (field - 1), endChar := char, order }, rest)
    | rest => pure (key, rest)
  if rest = [] then return key else badField p "stray character in field spec" spec

/-- The separator that a word spells. -/
def readSeparator (p : Process) (o : SortOptions) (t : Text) : Work SortOptions := do
  let c ← match t with
    | [] => p.die 2 "empty tab".toList
    | [c] => pure c
    | ['\\', '0'] => pure (Char.ofNat 0)
    | _ => p.die 2 ("multi-character tab ".toList ++ Quoting.quoted t)
  if o.separator.any (· ≠ c) then p.die 2 "incompatible tabs".toList
  return { o with separator := some c }

/-- Asks for a check. -/
def checkBy (p : Process) (o : SortOptions) (c : Char) : Work SortOptions :=
  if o.check.any (· ≠ c) then refuse p ['c', 'C'] else return { o with check := some c }

/-- Looks at a number that changes nothing but the effort. -/
def checkNumber (p : Process) (name units value : String) : Work Unit :=
  let t := value.toList
  match amount? units t with
  | .ok _ => return ()
  | .error .invalid =>
    let what := if t.head?.any Char.isDigit then "invalid suffix in " else "invalid "
    p.die 2 (what.toList ++ name.toList ++ " argument ".toList ++ Quoting.quoted t)
  | .error .tooLarge =>
    p.die 2 (name.toList ++ " argument ".toList ++ Quoting.quoted t ++ " too large".toList)

/-- Takes in an option. -/
def take (p : Process) (o : SortOptions) (key : String) (value : Text) : Work SortOptions := do
  match key with
  | "c" => checkBy p o 'c'
  | "C" => checkBy p o 'C'
  | "check" =>
    let c ← if value = [] then pure 'c'
      else sortOptions.choose p "--check" value [("quiet", 'C'), ("silent", 'C'), ("diagnose-first", 'c')]
    checkBy p o c
  | "k" => return { o with keys := o.keys ++ [← readKey p value] }
  | "m" => return { o with merges := true }
  | "o" =>
    if o.output.any (· ≠ value) then p.die 2 "multiple output files specified".toList
    return { o with output := some value }
  | "s" => return { o with stable := true }
  | "t" => readSeparator p o value
  | "u" => return { o with unique := true }
  | "z" => return { o with lineEnd := Char.ofNat 0 }
  | "S" =>
    checkNumber p "-S" "EgGkKmMPQRtTYZb%" (String.ofList value)
    return o
  | "files0-from" => return { o with namesFrom := some value }
  | "parallel" =>
    checkNumber p "--parallel" "" (String.ofList value)
    if amount? "" value matches .ok 0 then p.die 2 "number in parallel must be nonzero".toList
    return o
  | "batch-size" =>
    checkNumber p "--batch-size" "" (String.ofList value)
    return o
  | "sort" =>
    let c ← sortOptions.choose p "--sort" value [("general-numeric", 'g'), ("human-numeric", 'h'), ("month", 'M'),
      ("numeric", 'n'), ("random", 'R'), ("version", 'V')]
    return { o with order := (o.order.takeAll .both [c]).1 }
  | key => return { o with order := (o.order.takeAll .both key.toList).1 }

/-- A key in its old form such as `+1.2 -3`: the first word, and the second one if it looks like an end. -/
def readOldKey (p : Process) (word : Text) (next : Option Text) : Work (Option SortKey) := do
  let counts (t : Text) : Option (Nat × Nat × Text) :=
    match fieldCount? t with
    | some (n, '.' :: rest) => (fieldCount? rest).map fun (m, rest) => (n, m, rest)
    | some (n, rest) => some (n, 0, rest)
    | none => none
  match counts word.tail with
  | none => return none
  | some (field, char, rest) =>
    let (order, rest) := KeyOrder.takeAll {} .start rest
    if rest ≠ [] then return none
    let key : SortKey :=
      { startField := if field = 0 ∧ char = 0 then none else some field, startChar := char, order }
    match next with
    | none => return some key
    | some last =>
      let (field, rest) ← fieldCount p "after '-'" last.tail
      let (char, rest) ← match rest with
        | '.' :: rest => fieldCount p "after '.'" rest
        | rest => pure (0, rest)
      let (order, rest) := key.order.takeAll .finish rest
      if rest ≠ [] then badField p "stray character in field spec" last
      return some { key with endField := some (if char = 0 ∧ field ≠ 0 then field - 1 else field), endChar := char,
                             order }

/-- Takes in words: options, keys in the old form, and files. -/
def takeWords (p : Process) (fuel : Nat) (o : SortOptions) (words : List Text) : Work SortOptions :=
  match fuel, words with
  | 0, _ | _, [] => return o
  | fuel + 1, word :: rest =>
    match word with
    | ['-', '-'] => return { o with files := o.files ++ rest }
    | '+' :: _ => do
      let last := rest.head?.filter fun w => w.head? = some '-' ∧ w.tail.head?.any Char.isDigit
      match ← readOldKey p word last with
      | some key => takeWords p fuel { o with keys := o.keys ++ [key] } (if last.isSome then rest.tail else rest)
      | none => takeWords p fuel { o with files := o.files ++ [word] } rest
    | '-' :: _ :: _ => do
      let used := [word] ++ if takesNext word rest then rest.take 1 else []
      let o ← sortOptions.settle p (take p) o (sortOptions.scan used)
      let isOldSize := word = ['-', 'y'] ∧ ¬ (rest.headD []).all Char.isDigit
      takeWords p fuel o (if takesNext word rest ∧ ¬ isOldSize then rest.tail else rest)
    | _ => takeWords p fuel { o with files := o.files ++ [word] } rest
where
  /-- An option at the end of a word takes the next word as its value. -/
  takesNext (word : Text) (rest : List Text) : Bool :=
    rest != [] && (sortOptions.scan [word]).any fun
      | .mistake message => "requires an argument".toList.isSuffixOf message ||
          "option requires an argument".toList.isPrefixOf message
      | _ => false

/-! ### Running -/

/-- The contents of a file. -/
def readFile (p : Process) (file : Text) : Work Bytes := do
  let shown := Quoting.shellQuotedIfNeeded file
  let opened ← (if file = ['-'] then return (p.wires.lookup 0).elim (.error Job.closed) .ok
    else p.openForReading file : Job (Except Fault Wire))
  match opened with
  | .error fault =>
    let what := if file = ['-'] then "stat failed: " else "open failed: "
    p.die 2 (what.toList ++ shown ++ ": ".toList ++ fault.reason)
  | .ok wire =>
    match ← (Process.readAll wire : Job (Except Fault Bytes)) with
    | .ok b => return b
    | .error fault => p.die 2 ("read failed: ".toList ++ shown ++ ": ".toList ++ fault.reason)

/-- Ends if a file cannot be read. -/
def checkInput (p : Process) (file : Text) : Work Unit := do
  if file = ['-'] then return ()
  let fault ← (Job.ask (fun h => match h.walk .use (p.path file) with
    | .ok (.found _ _) => none
    | .ok (.vacant _ _) => some (.os .noEntry)
    | .error fault => some fault) : Job (Option Fault))
  match fault with
  | none => return ()
  | some fault => p.die 2 ("cannot read: ".toList ++ Quoting.shellQuotedIfNeeded file ++ ": ".toList ++ fault.reason)

/-- Writes the lines. -/
def writeLines (p : Process) (o : SortOptions) (wire : Option Wire) (lines : List SortLine) : Work Nat := do
  let b := bytesOf (lines.flatMap fun l => l.text ++ [o.lineEnd])
  match ← (if b = [] then return none else Process.release wire b .done : Job (Option Fault)) with
  | none => return 0
  | some fault =>
    if p.diesOf fault then throw (.killed pipeSignal)
    let what := if b.length < Job.blockSize then "fflush failed: " else "write failed: "
    let name := o.output.elim "'standard output'".toList Quoting.shellQuotedIfNeeded
    p.complain (what.toList ++ name ++ ": ".toList ++ fault.reason)
    p.die 2 "write error".toList

/-- Checks whether a file is in order. -/
def runCheck (p : Process) (o : SortOptions) (letter : Char) (files : List Text) : Work Nat := do
  match files with
  | _ :: extra :: _ =>
    p.die 2 ("extra operand ".toList ++ Quoting.shellQuoted extra ++ " not allowed with -".toList ++ [letter])
  | _ =>
    if o.output.isSome then refuse p [letter, 'o']
    let file := files.headD []
    let b ← readFile p file
    match o.disorder? o.usedKeys 1 ((o.linesOf b).map o.line) with
    | none => return 0
    | some (n, line) =>
      if letter = 'c' then
        let report := file ++ ':' :: showNat n ++ ": disorder: ".toList ++ line ++ [o.lineEnd]
        let _ ← p.put 2 (bytesOf (p.name ++ ": ".toList ++ report))
      return 1

/-- Sorts or merges files. -/
def runSort (p : Process) (o : SortOptions) (files : List Text) : Work Nat := do
  for file in files do checkInput p file
  let wire ← match o.output with
    | none => pure (p.wires.lookup 1)
    | some file =>
      match ← (p.openAs file { permissions := 0o666 - (0o666 &&& p.mask) } : Job (Except Fault Wire)) with
      | .ok wire => pure (some wire)
      | .error fault =>
        p.die 2 ("open failed: ".toList ++ Quoting.shellQuotedIfNeeded file ++ ": ".toList ++ fault.reason)
  let inputs ← files.mapM (readFile p)
  if let some file := o.output then
    let _ ← (p.openAs file { truncates := true } : Job (Except Fault Wire))
  writeLines p o wire (o.arrange inputs)

end SortOptions

/-- The tool `sort`. -/
def sort : Program := fun p => Work.job do
  let o ← SortOptions.takeWords p (p.words.length + 1) {} p.words
  for k in o.usedKeys do
    if let some letters := k.order.clash? then SortOptions.refuse p letters
  let files := inputsOf o.files
  match o.check with
  | some letter => SortOptions.runCheck p o letter files
  | none => SortOptions.runSort p o files

end PipeShell.Tool
