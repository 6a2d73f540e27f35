import PipeShell.Program.Basic
import PipeShell.Program.Script.Numeral

/-!
# Signals

The signals by their numbers: what scripts call them, and how a shell reports a program that one has ended.
-/

namespace PipeShell.Script.Signal

/-- The names of the first signals, from number one on, and what they mean. -/
def common : List (String × String) :=
  [("HUP", "Hangup"), ("INT", "Interrupt"), ("QUIT", "Quit"), ("ILL", "Illegal instruction"),
    ("TRAP", "Trace/breakpoint trap"), ("ABRT", "Aborted"), ("BUS", "Bus error"), ("FPE", "Floating point exception"),
    ("KILL", "Killed"), ("USR1", "User defined signal 1"), ("SEGV", "Segmentation fault"),
    ("USR2", "User defined signal 2"), ("PIPE", "Broken pipe"), ("ALRM", "Alarm clock"), ("TERM", "Terminated"),
    ("16", "Stack fault"), ("CHLD", "Child exited"), ("CONT", "Continued"), ("STOP", "Stopped (signal)"),
    ("TSTP", "Stopped"), ("TTIN", "Stopped (tty input)"), ("TTOU", "Stopped (tty output)"),
    ("URG", "Urgent I/O condition"), ("XCPU", "CPU time limit exceeded"), ("XFSZ", "File size limit exceeded"),
    ("VTALRM", "Virtual timer expired"), ("PROF", "Profiling timer expired"), ("WINCH", "Window changed"),
    ("IO", "I/O possible"), ("PWR", "Power failure"), ("SYS", "Bad system call")]

/-- The signal that tells of the end of a child. -/
def ofChildren : Nat := 17

/-- The signals that keys send, which do not reach commands in the background. -/
def ofKeys : List Nat := [2, 3]

/-- Signals have smaller numbers than this. -/
def limit : Nat := 65

/-- The name of a signal; zero stands for the end of a script. -/
def name (n : Nat) : Text :=
  if n = 0 then "EXIT".toList
  else
    match common[n - 1]? with
    | some (t, _) => t.toList
    | none =>
      if n < 34 then showNat n
      else if n = 34 then "RTMIN".toList
      else if n < 50 then "RTMIN+".toList ++ showNat (n - 34)
      else if n < 64 then "RTMAX-".toList ++ showNat (64 - n)
      else "RTMAX".toList

/-- What a signal means, as it is reported. -/
def meaning (n : Nat) : Text :=
  match common[n - 1]? with
  | some (_, t) => t.toList
  | none => if n < 34 then "Unknown signal ".toList ++ showNat n else "Real-time signal ".toList ++ showNat (n - 34)

/-- The signal that a word of digits names. -/
def ofDigits? (t : Text) : Option Nat :=
  if t ≠ [] ∧ t.all Char.isDigit then (Numeral.count? t).filter (· < limit) else none

/-- The signal that a word names, where signals begin with number `least`. -/
def ofText? (least : Nat) (t : Text) : Option Nat :=
  (ofDigits? t).orElse fun () =>
    ((List.range limit).drop least).find? fun n => (name n).map Char.toUpper = t.map Char.toUpper

/-- The report about a program that a signal has ended; some endings are not worth one. -/
def report? : Ending → Option Text
  | .exited _ => none
  | .killed n => if n = 2 ∨ n = pipeSignal then none else some (meaning n)

/-- A signal that ends a program which does not ask for it. -/
def isDeadly (n : Nat) : Bool := n != 0 && !([ofChildren, 18, 19, 20, 21, 22, 23, 28].contains n)

end PipeShell.Script.Signal
