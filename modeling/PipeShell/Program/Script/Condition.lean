import PipeShell.Program.Script.Numeral
import PipeShell.Program.Process

/-!
# Conditions

The expressions of the commands `test` and `[`: tests of files, texts and numbers, joined by `-a`, `-o`, `!` and
brackets.  Whether a word is an operator depends on the words after it.
-/

namespace PipeShell.Script.Condition

/-- What a word is at its place. -/
inductive Role
  | none
  | operand
  | unary
  | binary
  | both
  | either
  | not
  | opening
  | closing
  deriving DecidableEq, Inhabited

/-- The operators with one operand. -/
def unaryOperators : List Text :=
  ["-r", "-w", "-x", "-e", "-f", "-d", "-c", "-b", "-p", "-u", "-g", "-k", "-s", "-t", "-z", "-n", "-h", "-O", "-G",
    "-L", "-S"].map String.toList

/-- The operators between two operands. -/
def binaryOperators : List Text :=
  ["=", "!=", "<", ">", "-eq", "-ne", "-ge", "-gt", "-le", "-lt", "-nt", "-ot", "-ef"].map String.toList

/-- What a word is by itself. -/
def operator? (t : Text) : Option Role :=
  if unaryOperators.contains t then some .unary
  else if binaryOperators.contains t then some .binary
  else [(['-', 'a'], Role.both), (['-', 'o'], .either), (['!'], .not), (['('], .opening), ([')'], .closing)].lookup t

/-- What the first word is before those after it. -/
def role : List Text → Role
  | [] => .none
  | t :: rest =>
    let standsAlone : Bool := match rest with
      | [] => true
      | [_] => false
      | next :: _ => operator? next == some .binary
    match operator? t with
    | some .unary => if standsAlone then .operand else .unary
    | some .opening => if rest = [] then .operand else .opening
    | some r => r
    | none => .operand

/-- The number that a word spells. -/
def number (t : Text) : Except Text Int :=
  match Numeral.whole? false t with
  | some n => .ok n
  | none => .error ("Illegal number: ".toList ++ t)

/-- The value of a test of one word. -/
def unary (p : Process) (h : Host) (op t : Text) : Except Text Bool :=
  let walk (purpose : Purpose) : Option (Location × PipeShell.Node) :=
    match h.tree.walk purpose p.here (readBack t) with
    | .ok (.found l n) => some (l, n)
    | _ => none
  let node : Option PipeShell.Node := (walk .use).map fun (_, n) => n
  let isDirectory : Bool := node == some .directory
  let file? : Option File :=
    match node with
    | some (.file n) => some (h.files.getD n {})
    | _ => none
  let hasPermission (mask : Nat) : Bool := file?.any fun f => f.permissions &&& mask != 0
  match op with
  | ['-', 'z'] => .ok (t = [])
  | ['-', 'n'] => .ok (t ≠ [])
  | ['-', 't'] => (number t).map fun _ => false
  | ['-', 'h'] | ['-', 'L'] =>
    match walk .inspect with
    | some (_, .link _) => .ok true
    | _ => .ok false
  | ['-', 'f'] => .ok file?.isSome
  | ['-', 'd'] => .ok isDirectory
  | ['-', 'c'] => .ok (node.isSome && file?.isNone && !isDirectory)
  | ['-', 's'] => .ok (isDirectory || file?.any fun f => f.contents ≠ [])
  | ['-', 'x'] => .ok (isDirectory || hasPermission 0o111)
  | ['-', 'u'] => .ok (hasPermission 0o4000)
  | ['-', 'g'] => .ok (hasPermission 0o2000)
  | ['-', 'k'] => .ok (hasPermission 0o1000)
  | ['-', 'b'] | ['-', 'p'] | ['-', 'S'] => .ok false
  | _ => .ok node.isSome

/-- The value of a comparison. -/
def binary (p : Process) (h : Host) (op a b : Text) : Except Text Bool :=
  let numbers (f : Int → Int → Bool) : Except Text Bool := do return f (← number a) (← number b)
  let place (t : Text) : Option Location :=
    match h.tree.walk .use p.here (readBack t) with
    | .ok (.found l _) => some l
    | _ => none
  match String.ofList op with
  | "=" => .ok (a = b)
  | "!=" => .ok (a ≠ b)
  | "<" => .ok (decide (a < b))
  | ">" => .ok (decide (b < a))
  | "-eq" => numbers fun m n => m = n
  | "-ne" => numbers fun m n => m ≠ n
  | "-ge" => numbers fun m n => n ≤ m
  | "-gt" => numbers fun m n => n < m
  | "-le" => numbers fun m n => m ≤ n
  | "-lt" => numbers fun m n => m < n
  | "-ef" => .ok ((place a).isSome && place a == place b)
  | _ => .ok false

/-- The report about an operator without operand. -/
def missing {α : Type} (op : Text) : Except Text α := .error (op ++ ": argument expected".toList)

mutual

/-- The value of tests joined by `-o`, and the words from the last one of them on. -/
def anyOf (fuel : Nat) (p : Process) (h : Host) (before : Bool) (ws : List Text) : Except Text (Bool × List Text) :=
  match fuel with
  | 0 => .ok (before, ws)
  | fuel + 1 => do
    let (value, ws) ← allOf fuel p h true ws
    if role ws.tail = .either then anyOf fuel p h (before || value) (ws.drop 2) else return (before || value, ws)

/-- The value of tests joined by `-a`. -/
def allOf (fuel : Nat) (p : Process) (h : Host) (before : Bool) (ws : List Text) : Except Text (Bool × List Text) :=
  match fuel with
  | 0 => .ok (before, ws)
  | fuel + 1 => do
    let (value, ws) ← negated fuel p h ws
    if role ws.tail = .both then allOf fuel p h (before && value) (ws.drop 2) else return (before && value, ws)

/-- The value of a test that may be negated. -/
def negated (fuel : Nat) (p : Process) (h : Host) (ws : List Text) : Except Text (Bool × List Text) :=
  match fuel with
  | 0 => .ok (false, ws)
  | fuel + 1 =>
    if role ws ≠ .not then single fuel p h (role ws) ws
    else if ws.tail = [] then .ok (true, ws)
    else (negated fuel p h ws.tail).map fun (value, ws) => (!value, ws)

/-- The value of a single test, whose first word has a role. -/
def single (fuel : Nat) (p : Process) (h : Host) (r : Role) (ws : List Text) : Except Text (Bool × List Text) :=
  match fuel with
  | 0 => .ok (false, ws)
  | fuel + 1 =>
    match r, ws with
    | .none, _ | _, [] => .ok (false, [])
    | .opening, _ :: rest =>
      if role rest = .closing then .ok (false, rest)
      else do
        let (value, rest) ← anyOf fuel p h false rest
        if role rest.tail = .closing then return (value, rest.tail) else .error "closing paren expected".toList
    | .unary, op :: rest =>
      match rest with
      | [] => missing op
      | t :: _ => (unary p h op t).map (·, rest)
    | _, a :: rest =>
      match role rest, rest with
      | .binary, op :: b :: more => (binary p h op a b).map (·, b :: more)
      | .binary, [op] => missing op
      | _, _ => .ok (a ≠ [], ws)

end

/-- The value of an expression.  Up to four words are looked at as a whole first. -/
def eval (p : Process) (h : Host) (isNegated : Bool) (ws : List Text) : Except Text Bool :=
  let start (first : Option Role) (ws : List Text) : Except Text Bool := do
    let fuel := 8 * ws.length + 16
    let (value, rest) ← match first with
      | some r => do
        let (value, rest) ← single fuel p h r ws
        let (value, rest) ← if role rest.tail = .both then allOf fuel p h value (rest.drop 2) else pure (value, rest)
        if role rest.tail = .either then anyOf fuel p h value (rest.drop 2) else pure (value, rest)
      | none => anyOf fuel p h false ws
    match rest with
    | op :: _ :: _ => .error (if op = [] then "unexpected operator".toList else op ++ ": unexpected operator".toList)
    | _ => return value != isNegated
  match ws with
  | [] => .ok isNegated
  | first :: rest =>
    if ws.length = 3 ∧ (operator? (rest.headD [])) = some .binary then start (some .operand) ws
    else if ws.length = 3 ∨ ws.length = 4 then
      if first = ['('] ∧ ws.getLast? = some [')'] then start none rest.dropLast
      else if first = ['!'] then eval p h true rest
      else start none ws
    else start none ws

end PipeShell.Script.Condition
