import PipeShell.Cluster.Basic

/-!
# Lines of input

The shell reads its standard input line by line.  A line ends with a line feed, perhaps with a carriage return before
it, or with the input.  It is text that somebody may have typed: a backspace in it takes away the cluster before it,
so `edited` gives the line as it looked when it was sent off.
-/

namespace PipeShell.LineInput

/-- A line without its end, which is a line feed or a carriage return and a line feed. -/
def stripEnd (line : Text) : Text :=
  match line.reverse with
  | '\n' :: '\r' :: rest => rest.reverse
  | '\n' :: rest => rest.reverse
  | _ => line

/-- The lines of some input, each with its end; the last one may have none. -/
def linesOf (input : Bytes) : List Bytes :=
  input.foldr (fun b lines => if b = 10 then [b] :: lines else
    match lines with
    | [] => [[b]]
    | line :: rest => (b :: line) :: rest) []

/-- The key that takes back what was typed last. -/
def backspace : Char := Char.ofNat 8

/-- A line that is being typed. -/
structure Draft where
  /-- The bytes so far, the last one first. -/
  bytes : Bytes := []
  /-- The sizes of the clusters that can be taken back, the last one first. -/
  sizes : List Nat := []
  deriving DecidableEq, Inhabited

/-- Sizes of clusters are kept in this many bits. -/
def sizeBits : Nat := 8

/-- A further cluster is typed. -/
def Draft.type (d : Draft) (cluster : Text) : Draft :=
  if cluster = [backspace] then
    match d.sizes with
    | [] => d
    | size :: sizes => ⟨d.bytes.drop size, sizes⟩
  else
    let bytes := utf8 cluster
    ⟨bytes.reverse ++ d.bytes, bytes.length % Nat.pow 2 sizeBits :: d.sizes⟩

/-- A line after all backspaces in it. -/
def edited (line : Text) : Text :=
  if line.contains backspace then
    (utf8? ((clusters line).foldl Draft.type {}).bytes.reverse).getD []
  else line

/-- The texts of lines without their ends, up to the first line that is no text, and whether there is none. -/
def textLines : List Bytes → List Text × Bool
  | [] => ([], true)
  | line :: lines =>
    match utf8? line with
    | none => ([], false)
    | some text => (edited (stripEnd text) :: (textLines lines).1, (textLines lines).2)

/-- The lines of some input that the shell gets, and whether all of the input is text. -/
def ofBytes (input : Bytes) : List Text × Bool := textLines (linesOf input)

end PipeShell.LineInput
