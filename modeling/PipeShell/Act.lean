import PipeShell.Channel
import PipeShell.Host.Basic

/-!
# What a running program does

A running program asks for one thing after the other: it reads its standard input, writes one of its two output
streams, or changes and looks at the host, until it is done.  An act is such a program as a tree, so that it always
comes to an end; how its requests are answered is up to whoever runs it.

`Act.runAlone` runs an act at once, on an input that is there from the start.
-/

namespace PipeShell

/-- A program that ends with a result. -/
inductive Act (ρ : Type) : Type
  | done (result : ρ)
  /-- Asks for at most `limit` bytes of input; none mean the end of the input, unless none were asked for. -/
  | read (limit : Nat) (next : Bytes → Act ρ)
  /-- Writes all of `data`, and learns what went wrong. -/
  | write (stream : StdStream) (data : Bytes) (next : Option Fault → Act ρ)
  /-- Changes the host, and sees it as it was before. -/
  | call (change : Host → Host) (next : Host → Act ρ)

namespace Act

variable {ρ τ : Type}

/-- Goes on with what the result asks for. -/
def bind (a : Act ρ) (f : ρ → Act τ) : Act τ :=
  match a with
  | .done r => f r
  | .read n next => .read n fun b => (next b).bind f
  | .write s b next => .write s b fun e => (next e).bind f
  | .call c next => .call c fun h => (next h).bind f

instance : Monad Act where
  pure := .done
  bind := bind

/-- Writes bytes. -/
def put (s : StdStream) (data : Bytes) : Act (Option Fault) := .write s data .done

/-- Writes a text. -/
def say (s : StdStream) (text : Text) : Act (Option Fault) := put s (utf8 text)

/-- Writes texts, each on its own, until one cannot be written.  An empty one takes no write. -/
def sayAll (s : StdStream) : List Text → Act (Option Fault)
  | [] => .done none
  | text :: texts =>
    if text = [] then sayAll s texts
    else .write s (utf8 text) fun fault => if fault.isSome then .done fault else sayAll s texts

/-- Looks at the host. -/
def ask (f : Host → ρ) : Act ρ := .call id fun h => .done (f h)

/-- Changes the host, with an answer. -/
def update (f : Host → Host × ρ) : Act ρ := .call (fun h => (f h).1) fun h => .done (f h).2

end Act

/-- What takes the output of a program that runs alone. -/
inductive Outlet
  | channel (c : Channel)
  | to (d : Destination)
  deriving DecidableEq, Inhabited

/-- Writes to an outlet. -/
def Outlet.write (o : Outlet) (h : Host) (data : Bytes) : Except Fault (Outlet × Host) :=
  match o with
  | .channel c => (c.write data).map (.channel ·, h)
  | .to d => (h.write d data).map (.to d, ·)

/-- The bytes that an outlet holds. -/
def Outlet.held : Outlet → Bytes
  | .channel c => c.unread
  | .to _ => []

/-- The surroundings of a program that runs alone: the channel that it reads, whose writer is gone, and its two
outlets. -/
structure Surroundings where
  host : Host
  input : Channel := { hasWriter := false }
  out : Outlet := .channel {}
  err : Outlet := .channel {}
  deriving Inhabited

/-- Writes to one of the two output streams. -/
def Surroundings.write (w : Surroundings) (s : StdStream) (data : Bytes) : Except Fault Surroundings :=
  match s with
  | .out => (w.out.write w.host data).map fun (out, host) => { w with out, host }
  | .err => (w.err.write w.host data).map fun (err, host) => { w with err, host }

/-- Runs a program to its end, with nobody beside it; a read that would wait for ever gives nothing. -/
def Act.runAlone {ρ : Type} : Act ρ → Surroundings → ρ × Surroundings
  | .done r, w => (r, w)
  | .read n next, w =>
    match w.input.read? n with
    | some (data, input) => (next data).runAlone { w with input }
    | none => (next []).runAlone w
  | .write s b next, w =>
    match w.write s b with
    | .ok w' => (next none).runAlone w'
    | .error e => (next (some e)).runAlone w
  | .call change next, w => (next w.host).runAlone { w with host := change w.host }

end PipeShell
