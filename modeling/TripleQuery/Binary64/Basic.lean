/-!
Binary64 numbers as exact data: a sign, a significand of at most fifty-three bits and a scale, counted
in the least positive number `2 ^ -1074`. Each number has one form only, and comparison is comparison of
integers, so nothing here rounds.
-/

namespace TripleQuery

/-- A significand and a scale in their one form: at most fifty-three bits, and exactly fifty-three
unless the scale is the least one. -/
def Canonical (significand scale : Nat) : Prop :=
  significand < Nat.pow 2 53 ∧ scale ≤ 2045 ∧ (Nat.pow 2 52 ≤ significand ∨ scale = 0)

instance (significand scale : Nat) : Decidable (Canonical significand scale) :=
  inferInstanceAs (Decidable (_ ∧ _ ∧ (_ ∨ _)))

/-- A binary64 number. A finite one is worth `significand * 2 ^ scale` units of `2 ^ -1074`, with the
sign kept apart so that the two zeros differ. -/
inductive Binary64 where
  | nan
  | infinite (negative : Bool)
  | finite (negative : Bool) (significand scale : Nat) (canonical : Canonical significand scale)
deriving DecidableEq

namespace Binary64

def unitsPerOne : Nat := Nat.pow 2 1074

def scaled (n scale : Nat) : Nat := n * Nat.pow 2 scale

def units (negative : Bool) (significand scale : Nat) : Int :=
  if negative then -(scaled significand scale : Int) else scaled significand scale

def equals : Binary64 → Binary64 → Bool
  | infinite left, infinite right => left == right
  | finite sign m k _, finite sign' m' k' _ => units sign m k == units sign' m' k'
  | _, _ => false

def equalsInt : Binary64 → Int → Bool
  | finite sign m k _, n => units sign m k == n * unitsPerOne
  | _, _ => false

def isZero : Binary64 → Bool
  | finite _ significand _ _ => significand == 0
  | _ => false

def zero (negative : Bool) : Binary64 := finite negative 0 0 (by decide)

/-- The number with these parts, or infinity when the scale is past the largest: a rounded magnitude
can leave the canonical form in that way alone. -/
def ofParts (negative : Bool) (significand scale : Nat) : Binary64 :=
  if canonical : Canonical significand scale then finite negative significand scale canonical
  else infinite negative

def roundHalfEven (numerator denominator : Nat) : Nat :=
  let quotient := numerator / denominator
  let twice := 2 * (numerator % denominator)
  if twice < denominator then quotient
  else if denominator < twice then quotient + 1
  else quotient + quotient % 2

/-- The number nearest to a quotient of units, a tie going to the even significand. The scale leaves
fifty-three bits before the point, or is zero where the quotient has no more. -/
def ofUnits (negative : Bool) (numerator denominator : Nat) : Binary64 :=
  let scale := (numerator / denominator).log2 - 52
  let significand := roundHalfEven numerator (scaled denominator scale)
  if significand = Nat.pow 2 53 then ofParts negative (Nat.pow 2 52) (scale + 1)
  else ofParts negative significand scale

end Binary64

end TripleQuery
