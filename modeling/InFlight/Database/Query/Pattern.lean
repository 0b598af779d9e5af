import InFlight.Database.Value

/-!
# Patterns

A pattern is matched against a text as a whole.  In one kind of patterns a percent sign stands for
any characters and a low line for one, letters of ASCII may be of either case, and a character may
be set to take away the meaning of the next one.  In the other kind a star stands for any
characters, a question mark for one, and characters in square brackets for one of them.

Both patterns and texts end at a zero.

## Main definitions

* `InFlight.Database.Pattern`, `InFlight.Database.Pattern.like`, `InFlight.Database.Pattern.glob` —
  patterns.
* `InFlight.Database.Pattern.covers` — a text matches a pattern.
-/

set_option relaxedAutoImplicit false
set_option autoImplicit false

namespace InFlight

namespace Database

/-- A range of characters by their numbers. -/
structure PointRange where
  low : Nat
  high : Nat
deriving DecidableEq, Repr

/-- A part of a pattern. -/
inductive PatternPart where
  | point (n : Nat)
  | one
  | any
  /-- One of some characters, or one that is none of them. -/
  | among (inverted : Bool) (ranges : List PointRange)
deriving DecidableEq, Repr

/-- A pattern, and whether the case of letters counts. -/
structure Pattern where
  parts : List PatternPart
  cased : Bool
deriving DecidableEq, Repr

namespace Pattern

/-- A letter of ASCII as a small one, by its number. -/
def small (n : Nat) : Nat := if 65 ≤ n ∧ n ≤ 90 then n + 32 else n

/-- The parts of a pattern of the first kind; none if it ends with the character that takes away
the meaning of the next one. -/
def likeParts (escape : Option Nat) : List Nat → Option (List PatternPart)
  | [] => some []
  | c :: cs =>
    if escape = some c then
      match cs with
      | d :: cs => (likeParts escape cs).map (.point d :: ·)
      | [] => none
    else if c = '%'.toNat then (likeParts escape cs).map (.any :: ·)
    else if c = '_'.toNat then (likeParts escape cs).map (.one :: ·)
    else (likeParts escape cs).map (.point c :: ·)

/-- The ranges up to a closing bracket, and what follows it; at most so many. -/
def ranges? : Nat → List Nat → Option (List PointRange × List Nat)
  | 0, _ => none
  | _, [] => none
  | left + 1, c :: cs =>
    if c = ']'.toNat then some ([], cs)
    else
      match cs with
      | d :: e :: rest =>
        if d = '-'.toNat ∧ e ≠ ']'.toNat then
          (ranges? left rest).map fun (rs, rest) => (⟨c, e⟩ :: rs, rest)
        else (ranges? left cs).map fun (rs, rest) => (⟨c, c⟩ :: rs, rest)
      | cs => (ranges? left cs).map fun (rs, rest) => (⟨c, c⟩ :: rs, rest)

/-- What stands in square brackets, and what follows them. -/
def bracket? (cs : List Nat) : Option (PatternPart × List Nat) :=
  let (inverted, cs) := match cs with
    | c :: rest => if c = '^'.toNat then (true, rest) else (false, cs)
    | [] => (false, [])
  -- a bracket right behind the opening one does not close it
  let (own, cs) := match cs with
    | c :: rest => if c = ']'.toNat then ([PointRange.mk c c], rest) else ([], cs)
    | [] => ([], [])
  (ranges? (cs.length + 1) cs).map fun (rs, rest) => (.among inverted (own ++ rs), rest)

/-- The parts of a pattern of the second kind, of which there are at most so many; none if a bracket
is not closed. -/
def globParts : Nat → List Nat → Option (List PatternPart)
  | 0, _ => none
  | _, [] => some []
  | left + 1, c :: cs =>
    if c = '*'.toNat then (globParts left cs).map (.any :: ·)
    else if c = '?'.toNat then (globParts left cs).map (.one :: ·)
    else if c = '['.toNat then do
      let (part, rest) ← bracket? cs
      return part :: (← globParts left rest)
    else (globParts left cs).map (.point c :: ·)

/-- A pattern of the first kind. -/
def like (escape : Option Nat) (cs : List Nat) : Option Pattern :=
  (likeParts escape cs).map fun parts => { parts, cased := false }

/-- A pattern of the second kind. -/
def glob (cs : List Nat) : Option Pattern :=
  (globParts (cs.length + 1) cs).map fun parts => { parts, cased := true }

/-- A character is one that a part stands for. -/
def fits (cased : Bool) (part : PatternPart) (n : Nat) : Bool :=
  match part with
  | .point m => m == n || (!cased && small m == small n)
  | .one | .any => true
  | .among inverted rs =>
    (rs.any fun r => decide (r.low ≤ n ∧ n ≤ r.high)) != inverted

/-- Characters match the parts of a pattern. -/
def coversParts (cased : Bool) : List PatternPart → List Nat → Bool
  | [], [] => true
  | [], _ :: _ => false
  | .any :: parts, [] => coversParts cased parts []
  | .any :: parts, n :: ns =>
    coversParts cased parts (n :: ns) || coversParts cased (.any :: parts) ns
  | _ :: _, [] => false
  | part :: parts, n :: ns => fits cased part n && coversParts cased parts ns
  termination_by parts ns => (parts.length, ns.length)

/-- A text matches a pattern. -/
def covers (p : Pattern) (ns : List Nat) : Bool := coversParts p.cased p.parts ns

end Pattern

end Database

end InFlight
