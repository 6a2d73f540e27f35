import PipeShell.Program.Image
import PipeShell.Program.Script.Start
import PipeShell.Program.Tool.Beginning
import PipeShell.Program.Tool.Copy
import PipeShell.Program.Tool.Count
import PipeShell.Program.Tool.Files
import PipeShell.Program.Tool.Replace
import PipeShell.Program.Tool.Sort
import PipeShell.Program.Tool.Texts

/-!
# A machine with its tools

`Host.standard` is a machine with the usual directories and tools, and `tools` are its programs.  A script may start
programs, and so scripts, to a depth of `nesting`.
-/

namespace PipeShell

/-- Interpreters may be nested to this depth. -/
def nesting : Nat := 64

/-- The programs of the machine by the names of the tools; interpreters start programs with `load`. -/
def toolboxWith (load : Script.Loader) : List (Text × Program) :=
  [("sh", Script.interpreter load), ("dash", Script.interpreter load), ("cat", Tool.cat), ("head", Tool.head),
    ("wc", Tool.wc), ("tr", Tool.tr), ("sort", Tool.sort), ("yes", Tool.yes), ("true", Tool.succeed),
    ("false", Tool.fail), ("echo", Tool.echo), ("printf", Tool.printf), ("pwd", Tool.pwd), ("env", Tool.env),
    ("printenv", Tool.env), ("mkdir", Tool.mkdir), ("rmdir", Tool.rmdir), ("rm", Tool.rm), ("chmod", Tool.chmod),
    ("touch", Tool.touch)].map fun (name, program) => (name.toList, program)

/-- The programs of the machine for interpreters that may be nested to some depth. -/
def toolbox (depth : Nat) : List (Text × Program) :=
  toolboxWith fun p path h =>
    match depth with
    | 0 => .error (.os ⟨11⟩)
    | depth + 1 => startFile (toolbox depth) h interpreterLimit p path

/-- The programs of the machine. -/
def tools : Programs (Act Ending) where
  start := startWith (toolbox nesting)
  next := Act.request

/-- The names of further programs, which are there to be found and do nothing. -/
def otherTools : List Text :=
  ["[", "arch", "awk", "b2sum", "base32", "base64", "basename", "bash", "basenc", "chgrp", "chown", "cksum", "comm",
    "cp", "csplit", "cut", "date", "dd", "df", "dir", "dircolors", "dirname", "du", "expand", "expr", "factor", "find",
    "fmt", "fold", "grep", "groups", "gzip", "hostid", "hostname", "id", "install", "join", "kill", "link", "ln",
    "logname", "ls", "md5sum", "mkfifo", "mknod", "mktemp", "mount", "mv", "nice", "nl", "nohup", "nproc", "numfmt",
    "od", "paste", "pathchk", "perl", "pinky", "pr", "ps", "ptx", "readlink", "realpath", "sed", "seq", "sha1sum",
    "sha224sum", "sha256sum", "sha384sum", "sha512sum", "shred", "shuf", "sleep", "split", "stat", "stdbuf", "stty",
    "sum", "sync", "tac", "tail", "tar", "tee", "test", "timeout", "truncate", "tsort", "tty", "uname", "unexpand",
    "uniq", "unlink", "uptime", "users", "vdir", "which", "who", "whoami", "xargs"].map String.toList

/-- The location of a path that is a list of names with slashes in front. -/
private def place (path : String) : Location := (splitAt '/' path.toList).filter (· ≠ [])

/-- A machine with nothing but its tools. -/
def Host.standard : Host :=
  let names := (toolbox 0).map (·.1) ++ otherTools
  let directories := ["/dev", "/etc", "/home", "/opt", "/root", "/srv", "/tmp", "/usr", "/usr/bin", "/usr/lib",
    "/usr/lib64", "/usr/local", "/usr/local/bin", "/usr/local/sbin", "/usr/sbin", "/var", "/boot", "/media", "/mnt",
    "/proc", "/run", "/sys"].map fun path => (place path, Node.directory)
  let links := [("/bin", "usr/bin"), ("/lib", "usr/lib"), ("/lib64", "usr/lib64"), ("/sbin", "usr/sbin")].map
    fun (path, target) =>
    (place path, Node.link target.toList)
  let devices := [(place "/dev/null", Node.device .null), (place "/dev/full", Node.device .full)]
  let programs := names.mapIdx fun i name => (place "/usr/bin" ++ [name], Node.file i)
  { tree := ⟨directories ++ links ++ devices ++ programs⟩
    files := names.map fun name => ⟨Image.ofTool name, 0o755⟩
    nextProcess := 100 }

end PipeShell
