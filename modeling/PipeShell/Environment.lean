import PipeShell.Host.Basic

/-!
# What a line is executed with

The environment is what the shell keeps from line to line: the variables, the working directory, and the exit code
once one is requested.  A context is the part of it that a single line sees, with the search path taken apart.
-/

namespace PipeShell

/-- What a line is executed with. -/
structure Context where
  cwd : Text := []
  /-- The directories in which programs are looked up, in this order. -/
  searchPath : List Text := []
  home : Option Text := none
  /-- The variables for every program, over those that the host hands on. -/
  vars : Variables := []
  deriving DecidableEq, Inhabited

/-- What the shell keeps from line to line. -/
structure Environment where
  vars : Variables := []
  directory : Text := []
  exitCode : Option Int := none
  deriving DecidableEq, Inhabited

/-- The directories of a search path; empty entries do not count. -/
def searchPathOf (value : Text) : List Text := (splitAt ':' value).filter (· ≠ [])

namespace Environment

/-- The value of a variable. -/
def get? (e : Environment) (name : Text) : Option Text := e.vars.lookup name

/-- Gives a variable a value. -/
def set (e : Environment) (name value : Text) : Environment := { e with vars := e.vars.set name value }

/-- An exit is requested. -/
def isLeaving (e : Environment) : Bool := e.exitCode.isSome

def context (e : Environment) : Context where
  cwd := e.directory
  searchPath := searchPathOf ((e.get? "PATH".toList).getD [])
  home := e.get? "HOME".toList
  vars := e.vars

/-- The environment that a shell starts with on a host. -/
def ofHost (h : Host) : Environment where
  vars := h.inherited
  directory := h.here.path

end Environment

end PipeShell
