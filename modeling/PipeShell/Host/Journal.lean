import PipeShell.Text

/-!
# Records of what the shell does

The shell notes its decisions as records, each with a level.  `Record.line` is the form in which a record is printed:
the time of day, the level, and for the detailed levels the number of the thread.
-/

namespace PipeShell

/-- How serious a record is, the most serious level first. -/
inductive Level
  | error
  | warn
  | info
  | debug
  | trace
  deriving DecidableEq, Inhabited

namespace Level

def rank : Level → Nat
  | .error => 1
  | .warn => 2
  | .info => 3
  | .debug => 4
  | .trace => 5

def name : Level → Text
  | .error => "ERROR".toList
  | .warn => "WARN".toList
  | .info => "INFO".toList
  | .debug => "DEBUG".toList
  | .trace => "TRACE".toList

/-- The number of the terminal colour for a level. -/
def colour : Level → Nat
  | .error => 31
  | .warn => 33
  | .info => 34
  | .debug => 36
  | .trace => 37

/-- The records that a limit lets through are those at least as serious; without a limit there are none. -/
def passes (l : Level) (limit : Option Level) : Bool := limit.any fun m => l.rank ≤ m.rank

end Level

/-- An entry of the journal. -/
structure Record where
  level : Level
  text : Text
  deriving DecidableEq, Inhabited

/-- A time of day, in seconds since midnight, as hours, minutes and seconds. -/
def showTime (seconds : Nat) : Text :=
  two (seconds / 3600 % 24) ++ ':' :: two (seconds / 60 % 60) ++ ':' :: two (seconds % 60)
where
  two (n : Nat) : Text := showNat (n / 10) ++ showNat (n % 10)

/-- The line that shows a record, with or without colours. -/
def Record.line (r : Record) (seconds : Nat) (coloured : Bool) : Text :=
  let level := '[' :: r.level.name ++ "] ".toList
  showTime seconds ++ ' ' ::
    (if coloured then escape ['0'] ++ escape (showNat r.level.colour) ++ level ++ escape ['0'] else level) ++
    (if Level.debug.rank ≤ r.level.rank then "(1) ".toList else []) ++ r.text ++ ['\n']
where
  escape (code : Text) : Text := '\x1b' :: '[' :: code ++ ['m']

end PipeShell
