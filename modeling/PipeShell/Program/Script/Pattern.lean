import PipeShell.Host.Basic
import PipeShell.Program.Tool.ByteClass

/-!
# Patterns

In a pattern `*` stands for any text, `?` for any character, and brackets for one of the characters in them; a
backslash takes away the meaning of the character after it.  `Pattern.fits` tests a text, and `Pattern.paths` finds the
files whose names fit.
-/

namespace PipeShell.Script.Pattern

/-- The order in which ranges are understood: bytes of a half with a sign bit come first. -/
def rank (c : Char) : Int := if c.toNat < 128 then c.toNat else (c.toNat : Int) - 256

/-- The class that is named after an opening bracket, and what follows it. -/
def class? (p : Text) : Option (ByteClass × Text) :=
  ByteClass.all.findSome? fun (name, k) =>
    let mark := ':' :: name.toList ++ [':', ']']
    if mark.isPrefixOf p then some (k, p.drop mark.length) else none

/-- Whether a character is listed up to the closing bracket, and what follows that; `isFirst` says that a closing
bracket is listed itself. -/
def listed? (fuel : Nat) (isFirst found : Bool) (c : Char) (p : Text) : Option (Bool × Text) :=
  match fuel, p with
  | 0, _ | _, [] => none
  | fuel + 1, d :: rest =>
    if d = ']' ∧ ¬ isFirst then some (found, rest)
    else
      match if d = '[' then class? rest else none with
      | some (k, rest) => listed? fuel false (found || k.has c) c rest
      | none =>
        let (d, rest) := if d = '\\' then (rest.headD d, rest.tail) else (d, rest)
        match rest with
        | '-' :: e :: more =>
          if e = ']' then listed? fuel false (found || c == d) c rest
          else
            let (e, more) := if e = '\\' then (more.headD e, more.tail) else (e, more)
            listed? fuel false (found || (rank d ≤ rank c && rank c ≤ rank e)) c more
        | rest => listed? fuel false (found || c == d) c rest

/-- A text fits a pattern, with enough fuel for all characters of both. -/
def fitsWithin (fuel : Nat) (p t : Text) : Bool :=
  match fuel with
  | 0 => false
  | fuel + 1 =>
    let plain (c : Char) (p : Text) : Bool :=
      match t with
      | d :: t => c == d && fitsWithin fuel p t
      | [] => false
    match p with
    | [] => t.isEmpty
    | ['\\'] => plain '\\' []
    | '\\' :: c :: p => plain c p
    | '?' :: p =>
      match t with
      | _ :: t => fitsWithin fuel p t
      | [] => false
    | '*' :: p =>
      fitsWithin fuel p t ||
        match t with
        | _ :: t => fitsWithin fuel ('*' :: p) t
        | [] => false
    | '[' :: p =>
      match t with
      | [] => false
      | c :: t =>
        let (isNegated, body) := if p.head? = some '!' then (true, p.tail) else (false, p)
        match listed? (body.length + 1) true false c body with
        | some (found, rest) => found != isNegated && fitsWithin fuel rest t
        | none => plain '[' p
    | c :: p => plain c p

/-- A text fits a pattern. -/
def fits (p t : Text) : Bool := fitsWithin (p.length + t.length + 1) p t

/-- A pattern without its backslashes. -/
def literal : Text → Text
  | '\\' :: c :: rest => c :: literal rest
  | c :: rest => c :: literal rest
  | [] => []

/-- Brackets are closed before the next slash; the text after the opening bracket is given. -/
def isClosed (t : Text) : Bool :=
  go (if t.head? = some '!' then t.tail else t)
where
  /-- Goes over one character, and looks at the next one. -/
  go : Text → Bool
    | [] => false
    | ['\\'] => false
    | '\\' :: c :: rest => c != '/' && (rest.head? == some ']' || go rest)
    | c :: rest => c != '/' && (rest.head? == some ']' || go rest)

/-- The first part of a pattern for paths: the text in front that names directories, a pattern for names, and what
follows after a slash.  There is no pattern where everything is plain. -/
def splitPath (before current : Text) (isOpen : Bool) : Text → Text × Option (Text × Option Text)
  | [] => if isOpen then (before, some (current, none)) else (before ++ current, none)
  | '\\' :: '/' :: rest =>
    if isOpen then (before, some (current, some rest)) else splitPath (before ++ current ++ ['/']) [] false rest
  | '\\' :: c :: rest => splitPath before (current ++ ['\\', c]) isOpen rest
  | '/' :: rest =>
    if isOpen then (before, some (current, some rest)) else splitPath (before ++ current ++ ['/']) [] false rest
  | c :: rest =>
    let opens := c = '*' ∨ c = '?' ∨ (c = '[' ∧ isClosed rest)
    splitPath before (current ++ [c]) (isOpen || opens) rest

/-- The names in a directory, as they are spelled out. -/
def names (h : Host) (here : Location) (path : Text) : List Text :=
  match h.tree.walk .use here (if path = [] then ['.'] else readBack path) with
  | .ok (.found l .directory) => ['.'] :: ['.', '.'] :: (h.tree.names l).map spellOut
  | _ => []

/-- Something is at a path. -/
def exists? (h : Host) (here : Location) (path : Text) : Bool :=
  match h.tree.walk .inspect here (readBack path) with
  | .ok (.found _ _) => true
  | _ => false

/-- The paths that begin with a directory and go on as a pattern says. -/
def pathsFrom (fuel : Nat) (h : Host) (here : Location) (directory pattern : Text) : List Text :=
  match fuel with
  | 0 => []
  | fuel + 1 =>
    match splitPath [] [] false pattern with
    | (plain, none) =>
      let path := directory ++ literal plain
      if directory ≠ [] ∧ exists? h here path then [path] else []
    | (before, some (name, rest)) =>
      let directory := directory ++ literal before
      let showsDots := (if name.head? = some '\\' then name.tail else name).head? == some '.'
      let found := (names h here directory).filter fun n => (n.head? != some '.' || showsDots) && fits name n
      match rest with
      | none => found.map (directory ++ ·)
      | some rest => found.flatMap fun n => pathsFrom fuel h here (directory ++ n ++ ['/']) rest

/-- The paths that fit a pattern, in their order. -/
def paths (h : Host) (here : Location) (p : Text) : List Text :=
  (pathsFrom (p.length + 1) h here [] p).mergeSort (compareText · · ≠ .gt)

end PipeShell.Script.Pattern
