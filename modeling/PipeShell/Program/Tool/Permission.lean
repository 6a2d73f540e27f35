import PipeShell.Text

/-!
# Changes of permissions

A word such as `755` or `u+x,go-w` asks for a change of permission bits.  `PermissionChange.ofText?` reads it, and
`PermissionChange.apply` computes the new bits.
-/

namespace PipeShell.Tool

/-- Where the bits of a clause come from. -/
inductive BitSource
  | given (bits : Nat)
  /-- The bits that a class of users has already, for everyone. -/
  | copied (mask : Nat)
  /-- The bits are given, and execution is added where someone may execute already. -/
  | givenAndRun (bits : Nat)
  deriving DecidableEq, Inhabited

/-- A part of a change: bits are added, taken away, or set for the users that are named. -/
structure PermissionClause where
  affected : Nat
  op : Char
  bits : BitSource
  deriving DecidableEq, Inhabited

/-- A change of permissions. -/
abbrev PermissionChange := List PermissionClause

namespace PermissionClause

/-- The bits that the letters for users stand for. -/
def affectedBits (letters : Text) : Nat :=
  letters.foldl (fun n c => n ||| ([('u', 0o4700), ('g', 0o2070), ('o', 0o1007), ('a', 0o7777)].lookup c).getD 0) 0

/-- The bits that the letters for permissions stand for. -/
def permissionBits (letters : Text) : Nat :=
  letters.foldl (fun n c =>
    n ||| ([('r', 0o444), ('w', 0o222), ('x', 0o111), ('s', 0o6000), ('t', 0o1000)].lookup c).getD 0) 0

/-- The bits that one class has, for all classes. -/
def spread (bits : Nat) : Nat :=
  [0o444, 0o222, 0o111].foldl (fun n mask => if bits &&& mask = 0 then n else n ||| mask) 0

/-- The bits after a clause; bits of `mask` are left alone where no users are named. -/
def apply (k : PermissionClause) (isDirectory : Bool) (mask before : Nat) : Nat :=
  let value := match k.bits with
    | .given bits => bits
    | .copied mask => spread (before &&& mask)
    | .givenAndRun bits => if before &&& 0o111 ≠ 0 ∨ isDirectory then bits ||| 0o111 else bits
  let limit := if k.affected = 0 then 0o7777 - (mask &&& 0o7777) else k.affected
  let value := value &&& limit
  if k.op = '+' then before ||| value
  else if k.op = '-' then before - (before &&& value)
  else (if k.affected = 0 then 0 else before - (before &&& k.affected)) ||| value

end PermissionClause

namespace PermissionChange

/-- The operations of one clause, for the users that it names, and what follows. -/
def operations? (affected : Nat) (fuel : Nat) (t : Text) : Option (PermissionChange × Text) :=
  match fuel, t with
  | 0, _ | _, [] => some ([], t)
  | fuel + 1, op :: rest =>
    if op ≠ '+' ∧ op ≠ '-' ∧ op ≠ '=' then some ([], t)
    else
      let go (k : PermissionClause) (rest : Text) : Option (PermissionChange × Text) :=
        (operations? affected fuel rest).map fun (ks, rest) => (k :: ks, rest)
      match rest with
      | 'u' :: rest => go ⟨affected, op, .copied 0o700⟩ rest
      | 'g' :: rest => go ⟨affected, op, .copied 0o070⟩ rest
      | 'o' :: rest => go ⟨affected, op, .copied 0o007⟩ rest
      | rest =>
        let digits := rest.takeWhile isOctal
        if digits ≠ [] then
          let rest := rest.drop digits.length
          if affected ≠ 0 ∨ 0o7777 < octalValue digits ∨ rest.head?.any (· ≠ ',') then none
          else go ⟨0o7777, op, .given (octalValue digits)⟩ rest
        else
          let letters := rest.takeWhile fun c => "rwxXst".toList.contains c
          let bits := PermissionClause.permissionBits letters
          go ⟨affected, op, if letters.contains 'X' then .givenAndRun bits else .given bits⟩ (rest.drop letters.length)

/-- The change that one clause such as `u+x-w` asks for. -/
def clause? (t : Text) : Option PermissionChange :=
  let who := t.takeWhile fun c => "ugoa".toList.contains c
  match operations? (PermissionClause.affectedBits who) (t.length + 1) (t.drop who.length) with
  | some ([], _) => none
  | some (ks, []) => some ks
  | _ => none

/-- Reads a change. -/
def ofText? (t : Text) : Option PermissionChange :=
  if t.head?.any isOctal then
    if t.all isOctal ∧ octalValue t ≤ 0o7777 then some [⟨0o7777, '=', .given (octalValue t)⟩] else none
  else ((splitAt ',' t).mapM clause?).map List.flatten

/-- The bits after a change. -/
def apply (k : PermissionChange) (isDirectory : Bool) (mask before : Nat) : Nat :=
  k.foldl (fun n clause => clause.apply isDirectory mask n) before

end PermissionChange

/-- Permission bits in letters, such as `rwxr-xr-x`. -/
def showPermissions (n : Nat) : Text :=
  let three (shift special : Nat) (letter : Char) : Text :=
    let bits := n / Nat.pow 8 shift % 8
    let runs := bits % 2 = 1
    [if 4 ≤ bits then 'r' else '-', if 2 ≤ bits % 4 then 'w' else '-',
      if n / special % 2 = 1 then if runs then letter else letter.toUpper else if runs then 'x' else '-']
  three 2 0o4000 's' ++ three 1 0o2000 's' ++ three 0 0o1000 't'

/-- Permission bits in four octal digits. -/
def showOctal (n : Nat) : Text := [n / 512 % 8, n / 64 % 8, n / 8 % 8, n % 8].map fun d => Char.ofNat (48 + d)

end PipeShell.Tool
