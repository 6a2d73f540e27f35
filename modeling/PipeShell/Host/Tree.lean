import PipeShell.Host.Fault
import PipeShell.Path

/-!
# Directory trees and the walk along a path

A tree knows which node stands at which location; a location is the list of names from the root.  `Tree.walk`
follows a path through it: dots, links and slashes at the end count as they do for the operating system, at most
`linkLimit` links are followed, and the errors come in the order in which the steps meet them.

A path that is too long to be followed at once can be resolved name by name.  Then each name is looked up by the path
of its own location (`Tree.lookups`), and that path may be too long as well.
-/

namespace PipeShell

/-- The names on the way from the root. -/
abbrev Location := List Text

/-- The path that names a location from the root. -/
def Location.path (l : Location) : Text := '/' :: joinWith ['/'] l

/-- A file that stores nothing: `null` takes all writes, `full` takes none, and both are empty to a reader. -/
inductive Device
  | null
  | full
  deriving DecidableEq, Inhabited

/-- What stands at a location.  A regular file is known by its number, so that it outlives its name. -/
inductive Node
  | directory
  | file (number : Nat)
  | device (d : Device)
  | link (target : Text)
  deriving DecidableEq, Inhabited

/-- The nodes below the root, which is itself a directory. -/
structure Tree where
  entries : List (Location × Node) := []
  deriving DecidableEq, Inhabited

/-- Where a walk ends: at a node, or at a name that a directory does not have. -/
inductive Place
  | found (location : Location) (node : Node)
  | vacant (directory : Location) (name : Text)
  deriving DecidableEq, Inhabited

/-- What a walk is for.  A link in the last place is an answer by itself only to one who asks about links; a file can
only be made under a name without a slash at the end. -/
inductive Purpose
  | inspect
  | use
  | create
  deriving DecidableEq, Inhabited

/-- A name may have this many bytes. -/
def nameLimit : Nat := 255

/-- A path must have fewer bytes than this. -/
def pathLimit : Nat := 4096

/-- The number of links that a walk may follow. -/
def linkLimit : Nat := 40

namespace Tree

/-- The node at a location. -/
def get (t : Tree) (l : Location) : Option Node :=
  if l = [] then some .directory else t.entries.lookup l

def isDirectoryAt (t : Tree) (l : Location) : Bool := t.get l == some .directory

/-- Puts a node at a location, in place of what was there. -/
def set (t : Tree) (l : Location) (n : Node) : Tree :=
  ⟨(l, n) :: t.entries.filter (·.1 ≠ l)⟩

/-- Takes away what is at and below a location. -/
def remove (t : Tree) (l : Location) : Tree := ⟨t.entries.filter fun e => ¬ l.isPrefixOf e.1⟩

/-- The names in a directory. -/
def names (t : Tree) (l : Location) : List Text :=
  t.entries.filterMap fun e =>
    if e.1.length = l.length + 1 ∧ l.isPrefixOf e.1 then e.1.getLast? else none

/-- Follows names from a location, with a number of links left. -/
def follow (t : Tree) (p : Purpose) (links : Nat) (spot : Location) (names : List Text) : Except Errno Place :=
  match names with
  | [] =>
    match t.get spot with
    | some n => .ok (.found spot n)
    | none => .error .noEntry
  | name :: rest =>
    if t.get spot = none then .error .noEntry
    else if ¬ t.isDirectoryAt spot then .error .notDirectory
    else if isIdle name then t.follow p links spot rest
    else if name = ['.', '.'] then t.follow p links spot.dropLast rest
    else if p = .create ∧ rest = [[]] then .error .isDirectory
    else if nameLimit < (utf8 name).length then .error .nameTooLong
    else
      match t.get (spot ++ [name]) with
      | none => if rest = [] then .ok (.vacant spot name) else .error .noEntry
      | some (.link target) =>
        if rest = [] ∧ p = .inspect then .ok (.found (spot ++ [name]) (.link target))
        else
          match links with
          | 0 => .error .tooManyLinks
          | links + 1 => t.follow p links (if isAbsolute target then [] else spot) (components target ++ rest)
      | some _ => t.follow p links (spot ++ [name]) rest
  termination_by (links, names.length)

/-- Follows a path of any length from a location.  The empty path leads nowhere. -/
def walkFar (t : Tree) (p : Purpose) (here : Location) (path : Text) : Except Fault Place :=
  if path.contains (Char.ofNat 0) then .error .nullInName
  else if path = [] then .error (.os .noEntry)
  else
    match t.follow p linkLimit (if isAbsolute path then [] else here) (components path) with
    | .ok place => .ok place
    | .error e => .error (.os e)

/-- Follows a path from a location. -/
def walk (t : Tree) (p : Purpose) (here : Location) (path : Text) : Except Fault Place :=
  if pathLimit ≤ (utf8 path).length ∧ ¬ path.contains (Char.ofNat 0) then .error (.os .nameTooLong)
  else t.walkFar p here path

/-- A name is looked up as that of a directory if only idle names stand behind it, or a step back up. -/
def wantsDirectory (rest : List Text) : Bool :=
  match rest.dropWhile isIdle with
  | [] => rest ≠ []
  | name :: _ => name = ['.', '.']

/-- Names that are followed from a location are looked up one by one, each by a path from the root that no link is on:
these are the paths. -/
def lookups (t : Tree) (links : Nat) (spot : Location) (names : List Text) : List Text :=
  match names with
  | [] => []
  | name :: rest =>
    if isIdle name then t.lookups links spot rest
    else if name = ['.', '.'] then t.lookups links spot.dropLast rest
    else
      let path := Location.path (spot ++ [name])
      match t.get (spot ++ [name]) with
      | some (.link target) =>
        match links with
        | 0 => [path]
        | links + 1 => path :: t.lookups links (if isAbsolute target then [] else spot) (components target ++ rest)
      | _ => (if wantsDirectory rest then path ++ ['/'] else path) :: t.lookups links (spot ++ [name]) rest
  termination_by (links, names.length)

/-- No name on the way is looked up by a path that is too long. -/
def InReach (t : Tree) (here : Location) (path : Text) : Prop :=
  ∀ lookup ∈ t.lookups linkLimit (if isAbsolute path then [] else here) (components path),
    (utf8 lookup).length < pathLimit

instance (t : Tree) (here : Location) (path : Text) : Decidable (t.InReach here path) :=
  inferInstanceAs (Decidable (∀ lookup ∈ _, (utf8 lookup).length < pathLimit))

end Tree

end PipeShell
