import PipeShell.Host.Basic

/-!
# Changing the directory tree

Making and removing files, directories and links, and setting permissions.  A failing change leaves the host as it
was.
-/

namespace PipeShell.Host

/-- Puts a node at a path where nothing is yet. -/
def placeNode (h : Host) (path : Text) (n : Node) : Except Fault Host :=
  match h.walk .inspect path with
  | .error e => .error e
  | .ok (.found _ _) => .error (.os .alreadyExists)
  | .ok (.vacant directory name) => .ok { h with tree := h.tree.set (directory ++ [name]) n }

/-- A directory may be named with slashes at the end before it is there. -/
def makeDirectory (h : Host) (path : Text) : Except Fault Host :=
  h.placeNode (path.reverse.dropWhile (· = '/')).reverse .directory

def makeLink (h : Host) (path target : Text) : Except Fault Host := h.placeNode path (.link target)

/-- Makes a directory and all that are missing on the way to it, where `names` are still to go from `done`. -/
def makeDirectories (h : Host) (done : Text) : List Text → Host
  | [] => h
  | name :: names =>
    let path := done ++ name
    let h := match h.makeDirectory path with
      | .ok h => h
      | .error _ => h
    h.makeDirectories (path ++ ['/']) names

/-- Removes what is at a path and below it, but follows no link at its end. -/
def removeAll (h : Host) (path : Text) : Except Fault Host :=
  match h.walk .inspect path with
  | .error e => .error e
  | .ok (.vacant _ _) => .error (.os .noEntry)
  | .ok (.found l _) => .ok { h with tree := h.tree.remove l }

/-- Removes a file or link. -/
def removeFile (h : Host) (path : Text) : Except Fault Host :=
  match h.walk .inspect path with
  | .error e => .error e
  | .ok (.vacant _ _) => .error (.os .noEntry)
  | .ok (.found _ .directory) => .error (.os .isDirectory)
  | .ok (.found l _) => .ok { h with tree := h.tree.remove l }

/-- Removes an empty directory. -/
def removeDirectory (h : Host) (path : Text) : Except Fault Host :=
  match h.walk .inspect path with
  | .error e => .error e
  | .ok (.vacant _ _) => .error (.os .noEntry)
  | .ok (.found l .directory) =>
    if h.tree.names l = [] then .ok { h with tree := h.tree.remove l } else .error (.os .notEmpty)
  | .ok (.found _ _) => .error (.os .notDirectory)

/-- Computes the permissions of a file anew. -/
def changePermissions (h : Host) (path : Text) (f : Nat → Nat) : Except Fault Host :=
  match h.walk .use path with
  | .error e => .error e
  | .ok (.vacant _ _) => .error (.os .noEntry)
  | .ok (.found _ (.file n)) =>
    .ok { h with files := h.files.modify n fun file => { file with permissions := f file.permissions } }
  | .ok (.found _ _) => .ok h

/-- Gives a file these contents, and makes it if it is missing. -/
def putContents (h : Host) (path : Text) (contents : Bytes) : Except Fault Host := do
  let (h, handle) ← h.openForWriting path .overwrite
  h.writeHandle handle contents

end PipeShell.Host
