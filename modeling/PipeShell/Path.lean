import PipeShell.Text

/-!
# File names as they are written

A path is a text.  `joinPath` follows a path from a directory, and `parentPath` is the path without its last
component; both work on the text alone and never ask whether anything exists.
-/

namespace PipeShell

/-- A path from the root. -/
def isAbsolute (path : Text) : Bool := path.head? == some '/'

/-- The path that leads where `path` leads from the directory `base`. -/
def joinPath (base path : Text) : Text :=
  if isAbsolute path then path
  else if base.getLast?.all (· == '/') then base ++ path
  else base ++ '/' :: path

/-- A component that leads nowhere. -/
def isIdle (component : Text) : Bool := component == [] || component == ['.']

/-- The names of a path between its slashes; a slash at the end shows as an empty name. -/
def components (path : Text) : List Text :=
  let names := (splitAt '/' path).filter (· ≠ [])
  if path.getLast? = some '/' then names ++ [[]] else names

/-- A path in two parts: the root, or the dot in front of a path such as `./a`, and the rest. -/
def splitAnchor (path : Text) : Text × Text :=
  match path with
  | '/' :: rest => (['/'], rest)
  | ['.'] => (['.'], [])
  | '.' :: '/' :: rest => (['.'], '/' :: rest)
  | _ => ([], path)

/-- The path without its last component, where idle components do not count; the root and the empty path have
none. -/
def parentPath (path : Text) : Option Text :=
  let (anchor, rest) := splitAnchor path
  let trimmed := (splitAt '/' rest).reverse.dropWhile isIdle
  match trimmed with
  | [] => if anchor = ['.'] then some [] else none
  | _ :: before => some (anchor ++ joinWith ['/'] (before.dropWhile isIdle).reverse)

/-- An absolute path leads where it says from every directory. -/
theorem joinPath_of_isAbsolute {base path : Text} (h : isAbsolute path = true) : joinPath base path = path := by
  simp [joinPath, h]

/-- A path below an absolute path is absolute. -/
theorem isAbsolute_joinPath {base : Text} (h : isAbsolute base = true) (path : Text) :
    isAbsolute (joinPath base path) = true := by
  unfold joinPath
  split
  · assumption
  · split <;> cases base <;> simp_all [isAbsolute]

end PipeShell
