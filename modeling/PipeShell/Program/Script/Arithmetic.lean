import PipeShell.Program.Script.Numeral
import PipeShell.Program.Script.Syntax

/-!
# Arithmetic in scripts

Expressions over numbers of 64 bits with the usual operators and precedences.  A name stands for the number that its
variable spells, and an assignment gives it a new one.  Parts whose value is not needed have no effect and no fault of
their own, but they are read.
-/

namespace PipeShell.Script.Arithmetic

/-- The operators between two numbers. -/
inductive Operator
  | times | divided | modulo | plus | minus | shiftLeft | shiftRight
  | less | atMost | greater | atLeast | equal | unequal
  | bitAnd | bitXor | bitOr
  deriving DecidableEq, Inhabited

/-- Operators of a smaller rank bind more tightly. -/
def Operator.rank : Operator → Nat
  | times | divided | modulo => 0
  | plus | minus => 1
  | shiftLeft | shiftRight => 2
  | less | atMost | greater | atLeast => 3
  | equal | unequal => 4
  | bitAnd => 5
  | bitXor => 6
  | bitOr => 7

/-- What an expression consists of. -/
inductive Token
  | number (n : Int)
  | name (t : Text)
  | operator (o : Operator)
  /-- An assignment, which may apply an operator to the old value first. -/
  | assign (o : Option Operator)
  | both | either | not | flip | opening | closing | question | colon
  | bad
  | ending
  deriving DecidableEq, Inhabited

/-- The tokens that characters spell, the longer ones first. -/
def spellings : List (Text × Token) :=
  [("<<=", .assign (some .shiftLeft)), (">>=", .assign (some .shiftRight)), ("==", .operator .equal),
    ("!=", .operator .unequal), ("<=", .operator .atMost), (">=", .operator .atLeast), ("<<", .operator .shiftLeft),
    (">>", .operator .shiftRight), ("&&", .both), ("||", .either), ("*=", .assign (some .times)),
    ("/=", .assign (some .divided)), ("%=", .assign (some .modulo)), ("+=", .assign (some .plus)),
    ("-=", .assign (some .minus)), ("&=", .assign (some .bitAnd)), ("^=", .assign (some .bitXor)),
    ("|=", .assign (some .bitOr)), ("=", .assign none), ("*", .operator .times), ("/", .operator .divided),
    ("%", .operator .modulo), ("+", .operator .plus), ("-", .operator .minus), ("<", .operator .less),
    (">", .operator .greater), ("&", .operator .bitAnd), ("^", .operator .bitXor), ("|", .operator .bitOr),
    ("!", .not), ("~", .flip), ("(", .opening), (")", .closing), ("?", .question), (":", .colon)].map
  fun (t, token) => (t.toList, token)

/-- The token in front of a text, and what follows it. -/
def readToken (t : Text) : Token × Text :=
  let t := t.dropWhile fun c => c == ' ' || c == '\t' || c == '\n'
  match t with
  | [] => (.ending, [])
  | c :: _ =>
    if c.isDigit then
      let n := Numeral.read true true t
      (.number n.value, n.rest)
    else if isNameStart c then (.name (t.takeWhile isNameChar), t.dropWhile isNameChar)
    else
      match spellings.find? fun (s, _) => s.isPrefixOf t with
      | some (s, token) => (token, t.drop s.length)
      | none => (.bad, t)

/-- Values are kept in 64 bits. -/
def wrap (n : Int) : Int := Int.bmod n (Nat.pow 2 64)

/-- The number of a truth value. -/
def ofBool (b : Bool) : Int := if b then 1 else 0

/-- The value of an operator; there is none for a division by zero. -/
def Operator.apply? (o : Operator) (a b : Int) : Option Int :=
  let bits (f : Nat → Nat → Nat) : Int := wrap (f (a % Nat.pow 2 64).toNat (b % Nat.pow 2 64).toNat)
  match o with
  | times => some (wrap (a * b))
  | divided => if b = 0 then none else some (wrap (Int.tdiv a b))
  | modulo => if b = 0 then none else some (Int.tmod a b)
  | plus => some (wrap (a + b))
  | minus => some (wrap (a - b))
  | shiftLeft => some (wrap (a * Nat.pow 2 (b % 64).toNat))
  | shiftRight => some (Int.fdiv a (Nat.pow 2 (b % 64).toNat))
  | less => some (ofBool (a < b))
  | atMost => some (ofBool (a ≤ b))
  | greater => some (ofBool (b < a))
  | atLeast => some (ofBool (b ≤ a))
  | equal => some (ofBool (a = b))
  | unequal => some (ofBool (a ≠ b))
  | bitAnd => some (bits (· &&& ·))
  | bitXor => some (bits (· ^^^ ·))
  | bitOr => some (bits (· ||| ·))

/-- What a calculation sees of the variables. -/
structure Variables where
  value? : Text → Option Text
  isFixed : Text → Bool

/-- The state of a calculation. -/
structure Progress where
  rest : Text
  /-- The token after what has been read. -/
  after : Token := .ending
  /-- The variables that have been given values, the last one first. -/
  given : List (Text × Text) := []
  deriving Inhabited

/-- A calculation: it reads an expression, and can fail with a message. -/
abbrev Calculation := ReaderT (Text × Variables) (ExceptT Text (StateM Progress))

namespace Calculation

/-- The expression cannot be read or has no value. -/
def fail {α : Type} (message : String) : Calculation α := do
  let (whole, _) ← read
  throw ("arithmetic expression: ".toList ++ message.toList ++ ": \"".toList ++ whole ++ ['"'])

/-- Reads a token. -/
def token : Calculation Token := modifyGet fun s =>
  let (t, rest) := readToken s.rest
  (t, { s with rest })

/-- Sets the token after what has been read. -/
def stopAt (t : Token) : Calculation Unit := modify fun s => { s with after := t }

/-- The token after what has been read. -/
def after : Calculation Token := return (← get).after

/-- The number that a name stands for. -/
def lookUp (name : Text) : Calculation Int := do
  let (_, vars) ← read
  let value := (((← get).given.lookup name).orElse fun () => vars.value? name).getD []
  match Numeral.whole? true value with
  | some n => return n
  | none => throw ("Illegal number: ".toList ++ value)

/-- Gives a name a value. -/
def store (name : Text) (n : Int) : Calculation Int := do
  let (_, vars) ← read
  if vars.isFixed name then throw (name ++ ": is read only".toList)
  modify fun s => { s with given := (name, showInt n) :: s.given }
  return n

/-- The value of an operator. -/
def combine (o : Operator) (a b : Int) : Calculation Int :=
  match o.apply? a b with
  | some n => return n
  | none => fail "division by zero"

mutual

/-- The value of an operand that begins with `t`, after which `next` comes. -/
def operand (fuel : Nat) (isNeeded : Bool) (t next : Token) : Calculation Int :=
  match fuel with
  | 0 => fail "expecting primary"
  | fuel + 1 => do
    match t with
    | .opening =>
      let n ← assignment fuel isNeeded next
      if (← after) ≠ .closing then fail "expecting ')'"
      stopAt (← token)
      return n
    | .number n =>
      stopAt next
      return n
    | .name t =>
      stopAt next
      if isNeeded then lookUp t else return 0
    | .operator .plus => operand fuel isNeeded next (← token)
    | .operator .minus => return wrap (-(← operand fuel isNeeded next (← token)))
    | .not => return ofBool ((← operand fuel isNeeded next (← token)) = 0)
    | .flip => return -(← operand fuel isNeeded next (← token)) - 1
    | _ => fail "expecting primary"

/-- The value of operators of a smaller rank than `rank`, after a first operand. -/
def operators (fuel : Nat) (isNeeded : Bool) (a : Int) (o : Operator) (rank : Nat) : Calculation Int :=
  match fuel with
  | 0 => fail "expecting primary"
  | fuel + 1 => do
    let t ← token
    let b ← operand fuel isNeeded t (← token)
    let b ← match ← after with
      | .operator p => if p.rank < o.rank then operators fuel isNeeded b p o.rank else pure b
      | _ => pure b
    let a ← if isNeeded then combine o a b else pure b
    match ← after with
    | .operator p => if rank ≤ p.rank then return a else operators fuel isNeeded a p rank
    | _ => return a

/-- The value of operands joined by `&&`. -/
def conjunction (fuel : Nat) (isNeeded : Bool) (t next : Token) : Calculation Int :=
  match fuel with
  | 0 => fail "expecting primary"
  | fuel + 1 => do
    let a ← operand fuel isNeeded t next
    let a ← match ← after with
      | .operator o => operators fuel isNeeded a o 8
      | _ => pure a
    if (← after) ≠ .both then return a
    let t ← token
    let b ← conjunction fuel (isNeeded && a ≠ 0) t (← token)
    return ofBool (a ≠ 0 ∧ b ≠ 0)

/-- The value of operands joined by `||`. -/
def disjunction (fuel : Nat) (isNeeded : Bool) (t next : Token) : Calculation Int :=
  match fuel with
  | 0 => fail "expecting primary"
  | fuel + 1 => do
    let a ← conjunction fuel isNeeded t next
    if (← after) ≠ .either then return a
    let t ← token
    let b ← disjunction fuel (isNeeded && a = 0) t (← token)
    return ofBool (a ≠ 0 ∨ b ≠ 0)

/-- The value of a choice between two values. -/
def choice (fuel : Nat) (isNeeded : Bool) (t next : Token) : Calculation Int :=
  match fuel with
  | 0 => fail "expecting primary"
  | fuel + 1 => do
    let a ← disjunction fuel isNeeded t next
    if (← after) ≠ .question then return a
    let b ← assignment fuel (isNeeded && a ≠ 0) (← token)
    if (← after) ≠ .colon then fail "expecting ':'"
    let t ← token
    let c ← choice fuel (isNeeded && a = 0) t (← token)
    return if a ≠ 0 then b else c

/-- The value of an expression that begins with `t`. -/
def assignment (fuel : Nat) (isNeeded : Bool) (t : Token) : Calculation Int :=
  match fuel with
  | 0 => fail "expecting primary"
  | fuel + 1 => do
    match t, ← token with
    | .name name, .assign o =>
      let n ← assignment fuel isNeeded (← token)
      if ¬ isNeeded then return n
      match o with
      | none => store name n
      | some o => store name (← combine o (← lookUp name) n)
    | t, next => choice fuel isNeeded t next

end

end Calculation

/-- The value of an expression, and the variables that it has given values, the first one first. -/
def eval (vars : Variables) (t : Text) : Except Text Int × List (Text × Text) :=
  let calculation : Calculation Int := do
    let n ← Calculation.assignment (8 * t.length + 8) true (← Calculation.token)
    if (← Calculation.after) ≠ .ending then Calculation.fail "expecting EOF"
    return n
  let (result, s) := (calculation.run (t, vars)).run.run { rest := t }
  (result, s.given.reverse)

end PipeShell.Script.Arithmetic
