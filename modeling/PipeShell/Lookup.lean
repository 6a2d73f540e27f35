import PipeShell.Environment

/-!
# Looking a program up by name

A name with a slash is a path from the working directory.  Any other name is looked up in the directories of the
search path, and the first one that has an executable file of that name wins.  The working directory itself is
searched only if the search path says so.
-/

namespace PipeShell

/-- The paths at which a program may be, in the order in which they are tried. -/
def Context.candidates (ctx : Context) (name : Text) : List Text :=
  if name = [] then []
  else if name.contains '/' then [joinPath ctx.cwd name]
  else (ctx.searchPath.filter (· ≠ [])).map fun directory => joinPath (joinPath ctx.cwd directory) name

/-- The path of the program that a name stands for. -/
def Host.program? (h : Host) (ctx : Context) (name : Text) : Option Text :=
  (ctx.candidates name).find? h.isExecutable

end PipeShell
