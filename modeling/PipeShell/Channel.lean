import PipeShell.Host.Fault

/-!
# Channels inside the shell

A channel carries the output of a builtin.  It is unbounded, so a write never waits; a read gives bytes of a single
written chunk, and waits while nothing is unread and the writer is there.  The end of input is seen once the writer
is gone and everything is read.
-/

namespace PipeShell

/-- A channel with one writer and one reader. -/
structure Channel where
  /-- The rest of the chunk that is being read. -/
  current : Bytes := []
  chunks : List Bytes := []
  hasWriter : Bool := true
  hasReader : Bool := true
  deriving DecidableEq, Inhabited

namespace Channel

/-- All bytes that are written and not yet read. -/
def unread (c : Channel) : Bytes := c.current ++ c.chunks.flatten

/-- Writes a chunk; without a reader only the empty one can be written. -/
def write (c : Channel) (data : Bytes) : Except Fault Channel :=
  if data = [] then .ok c
  else if c.hasReader then .ok { c with chunks := c.chunks ++ [data] }
  else .error .brokenPipe

/-- The chunks with the first byte in front, without empty ones before it. -/
def advance (current : Bytes) : List Bytes → Bytes × List Bytes
  | [] => (current, [])
  | c :: cs => if current = [] then advance c cs else (current, c :: cs)

/-- Reads at most `limit` bytes; there is no answer while the read would wait. -/
def read? (c : Channel) (limit : Nat) : Option (Bytes × Channel) :=
  if limit = 0 then some ([], c)
  else
    let (current, chunks) := advance c.current c.chunks
    if current = [] ∧ c.hasWriter then none
    else some (current.take limit, { c with current := current.drop limit, chunks })

/-- Nobody will write any more. -/
def dropWriter (c : Channel) : Channel := { c with hasWriter := false }

/-- Without its reader a channel holds nothing. -/
def dropReader (c : Channel) : Channel := { c with hasReader := false, current := [], chunks := [] }

end Channel

end PipeShell
