import PipeShell.Text

/-!
# Reading the words of a command

A form says which options a command has, each with a value, and which operands.  The words are taken in one after
the other: `--help` and `help` ask for usage, `--` ends the options, and every other word that begins with a dash is
an option as long as the options have not ended.  The first mistake ends the reading.
-/

namespace PipeShell

/-- An option under one of its spellings, and how its value is taken in. -/
structure OptionRule (α : Type) where
  spelling : Text
  accept : α → Text → Except Text α

/-- The next operand, under the name that diagnostics use, and how it is taken in. -/
structure OperandRule (α : Type) where
  name : Text
  accept : Text → Except Text α

/-- The words that a command takes, collected in a value of type `α`. -/
structure Form (α : Type) where
  options : List (OptionRule α) := []
  /-- What the next operand is, if there may be one more. -/
  operand? : α → Option (OperandRule α) := fun _ => none
  /-- The first operand ends the options. -/
  isGreedy : Bool := false

/-- What the words of a command come to. -/
inductive Reading (α : Type)
  | accepted (value : α)
  | usage
  | mistake (text : Text)
  deriving DecidableEq, Inhabited

namespace Form

variable {α : Type}

def unrecognized (word : Text) : Text := "Unrecognized argument: ".toList ++ word ++ ['\n']

def missingValue (spelling : Text) : Text := "No value provided for option '".toList ++ spelling ++ "'.\n".toList

def badOption (spelling value reason : Text) : Text :=
  "Error parsing option '".toList ++ spelling ++ "' with value '".toList ++ value ++ "': ".toList ++ reason ++ ['\n']

def badOperand (name value reason : Text) : Text :=
  "Error parsing positional argument '".toList ++ name ++ "' with value '".toList ++ value ++ "': ".toList ++
    reason ++ ['\n']

/-- An option comes after a request for usage. -/
def optionAfterHelp : Text := "Trailing arguments are not allowed after `help`.".toList

/-- A word that asks for usage. -/
def isHelp (word : Text) : Bool := word == "--help".toList || word == "help".toList

/-- Takes in an operand. -/
def takeOperand (f : Form α) (a : α) (word : Text) : Except Text α :=
  match f.operand? a with
  | none => .error (unrecognized word)
  | some rule => (rule.accept word).mapError (badOperand rule.name word)

/-- Takes in words; `helped` says that usage was asked for, `ended` that the options have ended. -/
def readFrom (f : Form α) (helped ended : Bool) (a : α) : List Text → Reading α
  | [] => if helped then .usage else .accepted a
  | word :: rest =>
    if ¬ ended ∧ isHelp word then f.readFrom true ended a rest
    else if ¬ ended ∧ word.head? = some '-' then
      if word = ['-', '-'] then f.readFrom helped true a rest
      else if helped then .mistake optionAfterHelp
      else
        match f.options.find? (·.spelling = word) with
        | none => .mistake (unrecognized word)
        | some rule =>
          match rest with
          | [] => .mistake (missingValue word)
          | value :: rest =>
            match rule.accept a value with
            | .error reason => .mistake (badOption word value reason)
            | .ok a => f.readFrom helped ended a rest
    else
      match f.takeOperand a word with
      | .error text => .mistake text
      | .ok a => f.readFrom helped (ended || f.isGreedy) a rest

/-- Takes in the words of a command, from a value that stands for no words. -/
def read (f : Form α) (a : α) (words : List Text) : Reading α := f.readFrom false false a words

end Form

/-! ### Numbers as values -/

/-- The value of a decimal digit. -/
def digit? (c : Char) : Option Nat := if c.isDigit then some (c.toNat - '0'.toNat) else none

/-- Reads on in a number of 32 bits with `sign` 1 or -1, after the digits with value `n`. -/
def readDigits (sign : Int) (n : Int) : Text → Except Text Int
  | [] => .ok n
  | c :: cs =>
    match digit? c with
    | none => .error "invalid digit found in string".toList
    | some d =>
      let n := n * 10 + sign * d
      if n < -0x80000000 then .error "number too small to fit in target type".toList
      else if 0x80000000 ≤ n then .error "number too large to fit in target type".toList
      else readDigits sign n cs

/-- The signed number of 32 bits that a text spells, or what is wrong with the text. -/
def readInt32 : Text → Except Text Int
  | [] => .error "cannot parse integer from empty string".toList
  | ['+'] => .error "invalid digit found in string".toList
  | ['-'] => .error "invalid digit found in string".toList
  | '+' :: digits => readDigits 1 0 digits
  | '-' :: digits => readDigits (-1) 0 digits
  | digits => readDigits 1 0 digits

/-! ### Usage texts -/

/-- What a command says about itself. -/
structure Usage where
  synopsis : Text
  purpose : Text
  /-- The operands, each with its description, line by line. -/
  operands : List (Text × List Text) := []
  options : List (Text × List Text) := []

namespace Usage

/-- Descriptions start in this column. -/
def column : Nat := 20

/-- A name with its description beside it. -/
def entry (e : Text × List Text) : Text :=
  let name := ' ' :: ' ' :: e.1
  let first := name ++ List.replicate (column - name.length) ' '
  first ++ joinWith ('\n' :: List.replicate column ' ') e.2 ++ ['\n']

/-- Names with their descriptions, under a title. -/
def part (title : Text) (entries : List (Text × List Text)) : Text :=
  if entries = [] then [] else '\n' :: title ++ '\n' :: entries.flatMap entry

/-- The whole text. -/
def text (u : Usage) : Text :=
  "Usage: ".toList ++ u.synopsis ++ "\n\n".toList ++ u.purpose ++ ['\n'] ++
    part "Positional Arguments:".toList u.operands ++
    part "Options:".toList (u.options ++ [("--help, help".toList, ["display usage information".toList])])

end Usage

end PipeShell
