import PipeShell.Text

/-!
# Why an operation on files or streams fails

Most failures are errors of the operating system, known by their number.  The others are found before the system is
asked, or belong to a channel inside the shell.  `Fault.message` is the text that diagnostics show.
-/

namespace PipeShell

/-- An error of the operating system. -/
structure Errno where
  number : Int
  deriving DecidableEq, Inhabited

namespace Errno

def noEntry : Errno := ⟨2⟩
def notExecutable : Errno := ⟨8⟩
def badDescriptor : Errno := ⟨9⟩
def permission : Errno := ⟨13⟩
def alreadyExists : Errno := ⟨17⟩
def notDirectory : Errno := ⟨20⟩
def isDirectory : Errno := ⟨21⟩
def invalid : Errno := ⟨22⟩
def noSpace : Errno := ⟨28⟩
def brokenPipe : Errno := ⟨32⟩
def nameTooLong : Errno := ⟨36⟩
def notEmpty : Errno := ⟨39⟩
def tooManyLinks : Errno := ⟨40⟩

/-- The descriptions of the errors, from number zero on; a number without error has an empty one. -/
def descriptions : List String := [
    "Success", "Operation not permitted", "No such file or directory", "No such process",
    "Interrupted system call", "Input/output error", "No such device or address", "Argument list too long",
    "Exec format error", "Bad file descriptor", "No child processes", "Resource temporarily unavailable",
    "Cannot allocate memory", "Permission denied", "Bad address", "Block device required",
    "Device or resource busy", "File exists", "Invalid cross-device link", "No such device", "Not a directory",
    "Is a directory", "Invalid argument", "Too many open files in system", "Too many open files",
    "Inappropriate ioctl for device", "Text file busy", "File too large", "No space left on device",
    "Illegal seek", "Read-only file system", "Too many links", "Broken pipe", "Numerical argument out of domain",
    "Numerical result out of range", "Resource deadlock avoided", "File name too long", "No locks available",
    "Function not implemented", "Directory not empty", "Too many levels of symbolic links", "",
    "No message of desired type", "Identifier removed", "Channel number out of range",
    "Level 2 not synchronized", "Level 3 halted", "Level 3 reset", "Link number out of range",
    "Protocol driver not attached", "No CSI structure available", "Level 2 halted", "Invalid exchange",
    "Invalid request descriptor", "Exchange full", "No anode", "Invalid request code", "Invalid slot",
    "", "Bad font file format", "Device not a stream", "No data available", "Timer expired",
    "Out of streams resources", "Machine is not on the network", "Package not installed", "Object is remote",
    "Link has been severed", "Advertise error", "Srmount error", "Communication error on send", "Protocol error",
    "Multihop attempted", "RFS specific error", "Bad message", "Value too large for defined data type",
    "Name not unique on network", "File descriptor in bad state", "Remote address changed",
    "Can not access a needed shared library", "Accessing a corrupted shared library",
    ".lib section in a.out corrupted", "Attempting to link in too many shared libraries",
    "Cannot exec a shared library directly", "Invalid or incomplete multibyte or wide character",
    "Interrupted system call should be restarted", "Streams pipe error", "Too many users",
    "Socket operation on non-socket", "Destination address required", "Message too long",
    "Protocol wrong type for socket", "Protocol not available", "Protocol not supported",
    "Socket type not supported", "Operation not supported", "Protocol family not supported",
    "Address family not supported by protocol", "Address already in use", "Cannot assign requested address",
    "Network is down", "Network is unreachable", "Network dropped connection on reset",
    "Software caused connection abort", "Connection reset by peer", "No buffer space available",
    "Transport endpoint is already connected", "Transport endpoint is not connected",
    "Cannot send after transport endpoint shutdown", "Too many references: cannot splice",
    "Connection timed out", "Connection refused", "Host is down", "No route to host",
    "Operation already in progress", "Operation now in progress", "Stale file handle",
    "Structure needs cleaning", "Not a XENIX named type file", "No XENIX semaphores available",
    "Is a named type file", "Remote I/O error", "Disk quota exceeded", "No medium found", "Wrong medium type",
    "Operation canceled", "Required key not available", "Key has expired", "Key has been revoked",
    "Key was rejected by service", "Owner died", "State not recoverable",
    "Operation not possible due to RF-kill", "Memory page has hardware error"]

/-- The description of an error. -/
def description (e : Errno) : Text :=
  match if e.number < 0 then none else descriptions[e.number.toNat]? with
  | some d => if d.isEmpty then unknown else d.toList
  | none => unknown
where
  unknown : Text := "Unknown error ".toList ++ showInt e.number

end Errno

/-- Why an operation on files or streams fails. -/
inductive Fault
  | os (e : Errno)
  /-- The reader of a channel is gone. -/
  | brokenPipe
  /-- A file name holds a null character. -/
  | nullInName
  /-- An argument or variable for a program holds a null character. -/
  | nullInArgument
  deriving DecidableEq, Inhabited

/-- The text that diagnostics show, in the parts in which it is written. -/
def Fault.parts : Fault → List Text
  | .os e => [e.description, " (os error ".toList, showInt e.number, [')']]
  | .brokenPipe => ["broken pipe".toList]
  | .nullInName => ["file name contained an unexpected NUL byte".toList]
  | .nullInArgument => ["nul byte found in provided data".toList]

/-- The text that diagnostics show. -/
def Fault.message (f : Fault) : Text := f.parts.flatten

end PipeShell
