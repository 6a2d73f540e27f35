import PipeShell.Host.Fault

/-!
# Why a stage does not start

Such a failure concerns its stage alone: it is reported on the standard error of the stage, and the other stages run.
-/

namespace PipeShell

/-- Why a stage does not run. -/
inductive StartFailure
  /-- The name is no builtin, and no program of this name is found. -/
  | notFound (name : Text)
  /-- The program is found, but the system does not start it. -/
  | notStarted (name : Text) (fault : Fault)
  /-- The target of a redirection cannot be opened. -/
  | notOpened (path : Text) (fault : Fault)
  deriving DecidableEq, Inhabited

/-- The diagnostic of a stage that does not run. -/
def StartFailure.message : StartFailure → Text
  | .notFound name => name ++ ": command not found".toList
  | .notStarted name fault => name ++ ": ".toList ++ fault.message
  | .notOpened path fault => path ++ ": ".toList ++ fault.message

end PipeShell
