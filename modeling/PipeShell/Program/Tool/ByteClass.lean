import PipeShell.Text

/-!
# Classes of characters

The classes that have names in patterns and sets.  Only characters of one byte with a meaning of their own belong to
any of them.
-/

namespace PipeShell

/-- A class of characters. -/
inductive ByteClass
  | alnum | alpha | blank | cntrl | digit | graph | lower | print | punct | space | upper | xdigit
  deriving DecidableEq, Inhabited

namespace ByteClass

/-- The classes by their names. -/
def all : List (String × ByteClass) :=
  [("alnum", alnum), ("alpha", alpha), ("blank", blank), ("cntrl", cntrl), ("digit", digit), ("graph", graph),
    ("lower", lower), ("print", print), ("punct", punct), ("space", space), ("upper", upper), ("xdigit", xdigit)]

/-- The class of a name. -/
def ofName? (name : Text) : Option ByteClass := (all.find? (·.1.toList == name)).map (·.2)

/-- The class has this character. -/
def has (k : ByteClass) (c : Char) : Bool :=
  let isGraph := '!' ≤ c && c ≤ '~'
  match k with
  | alnum => c.isAlphanum
  | alpha => c.isAlpha
  | blank => c == ' ' || c == '\t'
  | cntrl => c < ' ' || c == '\x7f'
  | digit => c.isDigit
  | graph => isGraph
  | lower => c.isLower
  | print => isGraph || c == ' '
  | punct => isGraph && !c.isAlphanum
  | space => c == ' ' || ('\t' ≤ c && c ≤ '\r')
  | upper => c.isUpper
  | xdigit => c.isDigit || ('a' ≤ c && c ≤ 'f') || ('A' ≤ c && c ≤ 'F')

/-- All characters that a byte can be. -/
def characters : Text := (List.range 256).map Char.ofNat

/-- The members of a class in their order. -/
def members (k : ByteClass) : Text := characters.filter k.has

end ByteClass

end PipeShell
