import TripleQuery.Binary64.Basic

/-!
Decimal numerals and the binary64 numbers next to them. Reading rounds to nearest, ties to even;
`Decimal.shortest` goes back with the fewest digits that read as the same number.
-/

namespace TripleQuery

structure Decimal where
  digits : Nat
  exponent : Int
deriving DecidableEq

namespace Decimal

def length (n : Nat) : Nat := (Nat.toDigits 10 n).length

def point (d : Decimal) : Int := length d.digits + d.exponent

/-- Numerals this large or this small are past both ends of the range, so their powers of ten need
not be formed. -/
def beyondRange : Int := 400

def toBinary64 (negative : Bool) (d : Decimal) : Binary64 :=
  if d.digits = 0 ∨ d.point < -beyondRange then .zero negative
  else if beyondRange < d.point then .infinite negative
  else .ofUnits negative (d.digits * Nat.pow 10 d.exponent.toNat * Binary64.unitsPerOne)
    (Nat.pow 10 (-d.exponent).toNat)

def dropZeros : Nat → Decimal → Decimal
  | 0, d => d
  | count + 1, d =>
    if d.digits ≠ 0 ∧ d.digits % 10 = 0 then dropZeros count ⟨d.digits / 10, d.exponent + 1⟩ else d

def trimmed (d : Decimal) : Decimal := dropZeros (length d.digits) d

def pointOfUnits (units : Nat) : Int :=
  (length (units * Nat.pow 10 400 / Binary64.unitsPerOne) : Int) - 400

def neighbours (units places : Nat) : List Decimal :=
  let exponent := pointOfUnits units - places
  let numerator := units * Nat.pow 10 (-exponent).toNat
  let denominator := Binary64.unitsPerOne * Nat.pow 10 exponent.toNat
  let below := numerator / denominator
  let nearest := Binary64.roundHalfEven numerator denominator
  [⟨nearest, exponent⟩, ⟨if nearest = below then below + 1 else below, exponent⟩]

def unitDigits : Nat := Nat.pow 5 1074

def exact (units : Nat) : Decimal := ⟨units * unitDigits, -1074⟩

/-- The numeral with the fewest digits that reads back as the number, of those the nearest. Seventeen
digits are always enough; the exact numeral after them makes reading back plain. -/
def shortest (negative : Bool) (significand scale : Nat) : Decimal :=
  let units := Binary64.scaled significand scale
  let candidates := ((List.range 17).flatMap fun n => neighbours units (n + 1)) ++ [exact units]
  let readsBack := fun d => toBinary64 negative d == .ofParts negative significand scale
  (candidates.find? readsBack).getD (exact units)

end Decimal

end TripleQuery
