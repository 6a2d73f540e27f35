import PipeShell.Program.Script.Expansion

/-!
# Redirections

The words of redirections are expanded before any descriptor changes.  Then the descriptors are changed one after the
other, and what they were before is kept, so that it can be put back after the command.
-/

namespace PipeShell.Script

/-- Where a descriptor is going to lead. -/
inductive Target
  | file (kind : RedirectKind) (path : Text)
  | copy (descriptor : Nat)
  | nowhere
  | document (number : Nat)
  deriving DecidableEq, Inhabited

/-- The descriptors and where they are going to lead. -/
abbrev Rewiring := List (Nat × Target)

namespace Run

/-- The descriptor that a word names. -/
def descriptorTarget (t : Text) : Run Target := do
  match t with
  | ['-'] => return .nowhere
  | [c] => if c.isDigit then return .copy (c.toNat - 48) else bad
  | _ => bad
where
  /-- The word names no descriptor. -/
  bad : Run Target := do
    modify fun s => { s with line := s.lineRead }
    fail "Syntax error: Bad fd number".toList

/-- Expands the words of redirections. -/
def expandRedirects (substitute : Substitute) : List Redirect → Run Rewiring
  | [] => return []
  | .mk descriptor kind word :: rest => do
    let target ← match kind with
      | .document number => pure (Target.document number)
      | .copy => do
        let fields ← Expand.fields substitute word
        descriptorTarget (fields.headD [])
      | kind => pure (.file kind (← Expand.text substitute { tilde := true } word))
    return (descriptor, target) :: (← expandRedirects substitute rest)

/-- The reason why a file cannot be opened, where `missing` is said about names that are not there. -/
def openReason (missing : String) (fault : Fault) : Text :=
  if fault = .os .noEntry ∨ fault = .os .notDirectory then missing.toList else fault.reason

/-- Opens a file as a redirection says. -/
def openFile (kind : RedirectKind) (path : Text) : Run Wire := do
  let s ← get
  let p := s.process
  let permissions := 0o666 - (0o666 &&& p.mask)
  let cannotCreate (fault : Fault) : Run Wire :=
    fail ("cannot create ".toList ++ path ++ ": ".toList ++ openReason "Directory nonexistent" fault)
  let opened (o : Opening) : Run (Except Fault Wire) := job (p.openAs path { o with permissions })
  match kind with
  | .input =>
    match ← opened { reads := true, writes := false, creates := false } with
    | .ok wire => return wire
    | .error fault => fail ("cannot open ".toList ++ path ++ ": ".toList ++ openReason "No such file" fault)
  | .both =>
    match ← opened { reads := true } with
    | .ok wire => return wire
    | .error fault => cannotCreate fault
  | .append =>
    match ← opened { appends := true } with
    | .ok wire => return wire
    | .error fault => cannotCreate fault
  | kind =>
    let isKept ← if kind = .output ∧ s.has 'C' then
        ask fun h =>
          match h.tree.walk .use p.here (readBack path) with
          | .ok (.found _ (.file _)) => true
          | _ => false
      else pure false
    if isKept then cannotCreate (.os .alreadyExists)
    else
      match ← opened { truncates := true } with
      | .ok wire => return wire
      | .error fault => cannotCreate fault

/-- Makes a wire from which a text can be read. -/
def wireOf (t : Text) : Run Wire :=
  job (Job.update fun h =>
    let (h, number) := h.addFile { contents := bytesOf t }
    let (h, handle) := h.addHandle { backing := .rest number, readable := true, writable := false }
    (h, .file handle))

/-- Makes a descriptor lead to a wire, or nowhere. -/
def connect (descriptor : Nat) (wire : Option Wire) : Run Unit :=
  modify fun s =>
    let others := s.process.wires.filter (·.1 ≠ descriptor)
    { s with process := { s.process with wires := wire.elim others fun p => (descriptor, p) :: others } }

/-- Makes descriptors lead where they are going to.  One in `safe` has been put aside and is closed until it leads to
its target, so that a report about this can be lost. -/
def rewire (substitute : Substitute) (safe : List Nat) : Rewiring → Run Unit
  | [] => return
  | (descriptor, target) :: rest => do
    match target with
    | .file kind path => connect descriptor (some (← openFile kind path))
    | .nowhere => connect descriptor none
    | .copy n =>
      if n ≠ descriptor then
        match (← get).process.wires.lookup n with
        | some wire => connect descriptor (some wire)
        | none =>
          if safe.contains descriptor then connect descriptor none
          fail (showNat n ++ ": Bad file descriptor".toList)
    | .document number =>
      let s ← get
      let text ← Expand.text substitute { isQuoted := true } ((s.documents.lookup number).getD [])
      connect descriptor (some (← wireOf text))
    rewire substitute (safe.filter (· ≠ descriptor)) rest

/-- Makes descriptors lead where they are going to, and keeps what they were before.  The result is false if one of
them cannot be changed. -/
def rewireSafely (substitute : Substitute) (rewiring : Rewiring) : Run Bool := do
  let wires := (← get).process.wires
  let kept := rewiring.map fun (descriptor, _) => (descriptor, wires.lookup descriptor)
  modify fun s => { s with redirected := kept :: s.redirected }
  try
    rewire substitute (rewiring.map (·.1)) rewiring
    return true
  catch
    | .failed => return false
    | h => halt h

/-- Puts back what has been kept until there are only `depth` redirections around the command; with `stays`, the
descriptors remain as they are. -/
def unwire (depth : Nat) (stays : Bool) : Run Unit := do
  let s ← get
  let excess := s.redirected.take (s.redirected.length - depth)
  set { s with redirected := s.redirected.drop excess.length }
  if ¬ stays then
    for kept in excess do
      for (descriptor, wire) in kept do connect descriptor wire

end Run

end PipeShell.Script
