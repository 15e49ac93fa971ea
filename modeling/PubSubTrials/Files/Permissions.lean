import PubSubTrials.Text.Octets

/-!
# Permissions

What may be done with a file, and how changes of that are written: as an octal number, or as
clauses such as `u+x,go-w` that say who may do what.
-/

namespace PubSubTrials

/-- What may be done with a file: three bits each for its owner, for its group and for others. -/
abbrev Permissions := Nat

namespace Permissions

/-- Everything may be done. -/
def all : Permissions := 511

/-- Nothing of `less` may be done. -/
def without (permissions less : Permissions) : Permissions :=
  permissions - Nat.land permissions less

/-- The three bits that are said of the owner (`u`), the group (`g`) or others (`o`). -/
def bitsFor (who : Char) (permissions : Permissions) : Nat :=
  (if who = 'u' then permissions / 64 else if who = 'g' then permissions / 8 else permissions) % 8

/-- The letters of three bits. -/
def letters (bits : Nat) : Octets :=
  [(4, 'r'), (2, 'w'), (1, 'x')].filterMap (fun (bit, letter) =>
    if Nat.land bits bit ≠ 0 then some letter else none)

/-- Permissions as clauses. -/
def clauses (permissions : Permissions) : Octets :=
  Octets.joined [',']
    (['u', 'g', 'o'].map (fun who => who :: '=' :: letters (bitsFor who permissions)))

/-! ## Changes -/

/-- What is wrong with a change. -/
inductive Fault where
  /-- Something stands in the place of a sign. -/
  | operator (c : Char)
  /-- A letter says nothing that may be done. -/
  | letter (c : Char)
  deriving DecidableEq, Repr

/-- Whether a character says that permissions are added, taken away or set. -/
def isSign (c : Char) : Bool := c = '+' || c = '-' || c = '='

/-- The letters before the first sign of a clause, and the signs with the letters after them. -/
def actions (clause : Octets) : Octets × List (Char × Octets) :=
  clause.foldr (fun c (letters, found) =>
    if isSign c then ([], (c, letters) :: found) else (c :: letters, found)) ([], [])

/-- The bits of those whom letters name; no letters name everybody. -/
def audience (letters : Octets) : Except Fault Permissions :=
  if letters.isEmpty then .ok all
  else
    letters.foldlM (fun known c =>
      match c with
      | 'u' => .ok (Nat.lor known 448)
      | 'g' => .ok (Nat.lor known 56)
      | 'o' => .ok (Nat.lor known 7)
      | 'a' => .ok all
      | c => .error (.operator c)) 0

/-- What letters say that may be done. With `copies` they may also name somebody who may do as
much. -/
def granted (copies : Bool) (permissions : Permissions) (letters : Octets) :
    Except Fault Permissions :=
  letters.foldlM (fun known c =>
    match c with
    | 'r' => .ok (Nat.lor known 292)
    | 'w' => .ok (Nat.lor known 146)
    | 'x' | 'X' => .ok (Nat.lor known 73)
    | c =>
      if copies ∧ (c = 's' ∨ c = 't') then .ok known
      else if copies ∧ (c = 'u' ∨ c = 'g' ∨ c = 'o') then
        .ok (Nat.lor known (bitsFor c permissions * 73))
      else .error (.letter c)) 0

/-- Permissions after a clause. -/
def afterClause (copies : Bool) (permissions : Permissions) (clause : Octets) :
    Except Fault Permissions := do
  let (who, actions) := actions clause
  let who ← audience who
  if actions.isEmpty then throw (.operator '\x00')
  actions.foldlM (fun permissions (sign, letters) => do
    let granted := Nat.land (← granted copies permissions letters) who
    return match sign with
      | '+' => Nat.lor permissions granted
      | '-' => permissions.without granted
      | _ => Nat.lor (permissions.without who) granted) permissions

/-- Permissions after clauses. -/
def afterClauses (copies : Bool) (permissions : Permissions) (text : Octets) :
    Except Fault Permissions :=
  (Octets.splitOn ',' text).foldlM (afterClause copies) permissions

/-- The number that octal digits stand for. -/
def octal? (text : Octets) : Option Nat :=
  if !text.isEmpty ∧ text.all (fun c => '0' ≤ c && c ≤ '7') then
    some (text.foldl (fun n c => n * 8 + (c.toNat - '0'.toNat)) 0)
  else none

/-- A number as four octal digits. -/
def digits (n : Nat) : Octets :=
  [n / 512, n / 64, n / 8, n].map (fun d => Char.ofNat ('0'.toNat + d % 8))

end Permissions

end PubSubTrials
