import PipeShell.Channel

/-!
# What connects two stages

The output of a stage reaches the next one through a channel if a builtin writes it, and through a pipe of the system
if a program does.  A pipe holds a limited number of bytes, so writing to it may wait.  Where a builtin and a program
are neighbours a relay copies from the one to the other, chunk by chunk; where the next stage did not start, the
output of a builtin is drained.

A `Join` is the whole connection.  Both stages see it through the same four operations, `read?`, `write?`,
`closeReader` and `closeWriter`, and `stepRelay?` is one step of its relay.
-/

namespace PipeShell

/-- A pipe holds at most this many bytes. -/
def pipeCapacity : Nat := 65536

/-- A relay copies at most this many bytes at a time. -/
def relayChunk : Nat := 8192

/-- A pipe of the system. -/
structure Pipe where
  buffer : Bytes := []
  hasWriter : Bool := true
  hasReader : Bool := true
  deriving DecidableEq, Inhabited

namespace Pipe

/-- Reads at most `limit` bytes; there is no answer while the read would wait. -/
def read? (p : Pipe) (limit : Nat) : Option (Bytes × Pipe) :=
  if limit = 0 then some ([], p)
  else if p.buffer = [] ∧ p.hasWriter then none
  else some (p.buffer.take limit, { p with buffer := p.buffer.drop limit })

/-- Writes as much as there is room for, and gives back the rest; there is no answer while the write would wait. -/
def write? (p : Pipe) (data : Bytes) : Option (Except Fault (Bytes × Pipe)) :=
  if data = [] then some (.ok ([], p))
  else if ¬ p.hasReader then some (.error (.os .brokenPipe))
  else
    let room := pipeCapacity - p.buffer.length
    if room = 0 then none else some (.ok (data.drop room, { p with buffer := p.buffer ++ data.take room }))

/-- Nobody will write any more. -/
def dropWriter (p : Pipe) : Pipe := { p with hasWriter := false }

/-- Without its reader a pipe holds nothing. -/
def dropReader (p : Pipe) : Pipe := { p with hasReader := false, buffer := [] }

end Pipe

/-- What a relay is about. -/
inductive RelayState
  | copying
  /-- The input came to its end. -/
  | finished
  /-- The bytes in hand could not be written. -/
  | stopped (fault : Fault)
  deriving DecidableEq, Inhabited

/-- A relay between the two halves of a join. -/
structure Relay where
  label : Text
  /-- The bytes that are read and not yet written. -/
  held : Bytes := []
  /-- The number of bytes written. -/
  copied : Nat := 0
  state : RelayState := .copying
  deriving DecidableEq, Inhabited

/-- What connects a stage with the one before it. -/
inductive Join
  | absent
  | channel (c : Channel)
  | pipe (p : Pipe)
  /-- From a builtin to a program. -/
  | feeding (c : Channel) (r : Relay) (p : Pipe)
  /-- From a program to a builtin. -/
  | collecting (p : Pipe) (r : Relay) (c : Channel)
  /-- From a builtin to a stage that did not start. -/
  | draining (c : Channel) (r : Relay)
  deriving DecidableEq, Inhabited

namespace Join

/-- The later stage reads. -/
def read? (j : Join) (limit : Nat) : Option (Bytes × Join) :=
  match j with
  | .absent => some ([], .absent)
  | .channel c => (c.read? limit).map fun (b, c) => (b, .channel c)
  | .pipe p => (p.read? limit).map fun (b, p) => (b, .pipe p)
  | .feeding c r p => (p.read? limit).map fun (b, p) => (b, .feeding c r p)
  | .collecting p r c => (c.read? limit).map fun (b, c) => (b, .collecting p r c)
  | .draining c r => some ([], .draining c r)

/-- The earlier stage writes; what there was no room for is given back. -/
def write? (j : Join) (data : Bytes) : Option (Except Fault (Bytes × Join)) :=
  match j with
  | .absent => some (.ok ([], .absent))
  | .channel c => some ((c.write data).map fun c => ([], .channel c))
  | .pipe p => (p.write? data).map (·.map fun (rest, p) => (rest, .pipe p))
  | .feeding c r p => some ((c.write data).map fun c => ([], .feeding c r p))
  | .collecting p r c => (p.write? data).map (·.map fun (rest, p) => (rest, .collecting p r c))
  | .draining c r => some ((c.write data).map fun c => ([], .draining c r))

/-- The later stage has ended. -/
def closeReader : Join → Join
  | .absent => .absent
  | .channel c => .channel c.dropReader
  | .pipe p => .pipe p.dropReader
  | .feeding c r p => .feeding c r p.dropReader
  | .collecting p r c => .collecting p r c.dropReader
  | .draining c r => .draining c r

/-- The earlier stage has ended. -/
def closeWriter : Join → Join
  | .absent => .absent
  | .channel c => .channel c.dropWriter
  | .pipe p => .pipe p.dropWriter
  | .feeding c r p => .feeding c.dropWriter r p
  | .collecting p r c => .collecting p.dropWriter r c
  | .draining c r => .draining c.dropWriter r

/-- The relay of a join, if it needs one. -/
def relay? : Join → Option Relay
  | .feeding _ r _ => some r
  | .collecting _ r _ => some r
  | .draining _ r => some r
  | _ => none

/-- One step of the relay from a channel into a pipe.  When it ends, it lets go of both. -/
def stepFeeding? (c : Channel) (r : Relay) (p : Pipe) : Option Join :=
  if r.held = [] then
    (c.read? relayChunk).map fun (b, c) =>
      if b = [] then .feeding c.dropReader { r with state := .finished } p.dropWriter
      else .feeding c { r with held := b } p
  else
    (p.write? r.held).map fun
      | .ok (rest, p) => .feeding c { r with held := rest, copied := r.copied + (r.held.length - rest.length) } p
      | .error e => .feeding c.dropReader { r with held := [], state := .stopped e } p.dropWriter

/-- One step of the relay from a pipe into a channel. -/
def stepCollecting? (p : Pipe) (r : Relay) (c : Channel) : Option Join :=
  if r.held = [] then
    (p.read? relayChunk).map fun (b, p) =>
      if b = [] then .collecting p.dropReader { r with state := .finished } c.dropWriter
      else .collecting p { r with held := b } c
  else
    some <| match c.write r.held with
      | .ok c => .collecting p { r with held := [], copied := r.copied + r.held.length } c
      | .error e => .collecting p.dropReader { r with held := [], state := .stopped e } c.dropWriter

/-- One step of the relay that throws a channel's bytes away. -/
def stepDraining? (c : Channel) (r : Relay) : Option Join :=
  (c.read? relayChunk).map fun (b, c) =>
    if b = [] then .draining c.dropReader { r with state := .finished }
    else .draining c { r with copied := r.copied + b.length }

/-- One step of the relay; there is none while it would wait, or if no relay is at work. -/
def stepRelay? (j : Join) : Option Join :=
  match j.relay? with
  | none => none
  | some r =>
    if r.state ≠ .copying then none
    else
      match j with
      | .feeding c r p => stepFeeding? c r p
      | .collecting p r c => stepCollecting? p r c
      | .draining c r => stepDraining? c r
      | _ => none

end Join

end PipeShell
