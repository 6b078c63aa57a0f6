import Mathlib.Tactic.Ring
import TripleQuery.Binary64.Decimal

/-!
The shortest numeral of a binary64 number reads back as that number. Rounding depends on the ratio alone, so zeros
may be taken off the digits of a numeral or put there; and the numeral with all digits, the last of the candidates,
is exact.
-/

namespace TripleQuery

namespace Binary64

def signed (negative : Bool) : Binary64 → Binary64
  | nan => nan
  | infinite _ => infinite negative
  | finite _ significand scale canonical => finite negative significand scale canonical

private theorem ofParts_signed (negative : Bool) (significand scale : Nat) :
    ofParts negative significand scale = (ofParts false significand scale).signed negative := by
  by_cases canonical : Canonical significand scale
  · simp only [ofParts, dif_pos canonical, signed]
  · simp only [ofParts, dif_neg canonical, signed]

private theorem ofUnits_signed (negative : Bool) (numerator denominator : Nat) :
    ofUnits negative numerator denominator = (ofUnits false numerator denominator).signed negative := by
  unfold ofUnits
  dsimp only
  split <;> rw [ofParts_signed negative]

section Ratio

variable (factor numerator denominator : Nat) (positive : 0 < factor)
include positive

private theorem roundHalfEven_ratio :
    roundHalfEven (factor * numerator) (factor * denominator) = roundHalfEven numerator denominator := by
  have grow (remainder : Nat) : 2 * (factor * remainder) = factor * (2 * remainder) := by ring
  simp only [roundHalfEven, Nat.mul_div_mul_left numerator denominator positive,
    Nat.mul_mod_mul_left, grow, Nat.mul_lt_mul_left positive]

private theorem ofUnits_ratio (negative : Bool) :
    ofUnits negative (factor * numerator) (factor * denominator) = ofUnits negative numerator denominator := by
  have grow (scale : Nat) : scaled (factor * denominator) scale = factor * scaled denominator scale := by
    rw [scaled, scaled, Nat.mul_assoc]
  simp only [ofUnits, Nat.mul_div_mul_left numerator denominator positive, grow,
    roundHalfEven_ratio factor numerator _ positive]

end Ratio

private theorem scaled_lt_scaled {small large scale scale' : Nat} (less : small < large) (within : scale ≤ scale') :
    scaled small scale < scaled large scale' :=
  (Nat.mul_lt_mul_of_pos_right less (Nat.two_pow_pos scale)).trans_le
    (Nat.mul_le_mul_left _ (Nat.pow_le_pow_right Nat.two_pos within))

private theorem roundHalfEven_exact (numerator denominator : Nat) (positive : 0 < denominator) :
    roundHalfEven (numerator * denominator) denominator = numerator := by
  simp only [roundHalfEven, Nat.mul_div_cancel numerator positive, Nat.mul_mod_left]
  rw [if_pos (by omega)]

private theorem log2_scaled (significand scale : Nat) (positive : significand ≠ 0) :
    (scaled significand scale).log2 = significand.log2 + scale := by
  have low := (Nat.le_log2 positive).mp (le_refl _)
  have high := (Nat.log2_lt positive).mp (Nat.lt_succ_self _)
  have grow := Nat.two_pow_pos scale
  refine (Nat.log2_eq_iff (Nat.mul_ne_zero positive grow.ne')).mpr ⟨?_, ?_⟩
  · rw [Nat.pow_add]
    exact Nat.mul_le_mul_right _ low
  · rw [Nat.add_right_comm, Nat.pow_add]
    exact Nat.mul_lt_mul_of_pos_right high grow

private theorem ofUnits_scaled (negative : Bool) (significand scale : Nat) (canonical : Canonical significand scale)
    (positive : significand ≠ 0) :
    ofUnits negative (scaled significand scale) 1 = ofParts negative significand scale := by
  obtain ⟨small, _, full⟩ := canonical
  have whole : significand ≠ Nat.pow 2 53 := small.ne
  have bits := log2_scaled significand scale positive
  have most := (Nat.log2_lt (k := 53) positive).mpr small
  have chosen : (scaled significand scale / 1).log2 - 52 = scale := by
    rw [Nat.div_one, bits]
    rcases full with full | least
    · have least := (Nat.le_log2 positive).mpr full
      omega
    · omega
  have kept : roundHalfEven (scaled significand scale) (scaled 1 scale) = significand := by
    rw [show scaled 1 scale = 2 ^ scale from Nat.one_mul _]
    exact roundHalfEven_exact significand (2 ^ scale) (Nat.two_pow_pos scale)
  unfold ofUnits
  rw [chosen]
  dsimp only
  rw [kept, if_neg whole]

end Binary64

namespace Decimal

private theorem toBinary64_signed (negative : Bool) (d : Decimal) :
    d.toBinary64 negative = (d.toBinary64 false).signed negative := by
  unfold toBinary64
  split
  · rfl
  · split
    · rfl
    · exact Binary64.ofUnits_signed negative _ _

theorem toBinary64_zero (negative : Bool) (exponent : Int) : toBinary64 negative ⟨0, exponent⟩ = .zero negative := by
  rw [toBinary64, if_pos (.inl rfl)]

private theorem length_le_iff (n places : Nat) (some : 0 < places) : length n ≤ places ↔ n < 10 ^ places :=
  Nat.length_toDigits_le_iff (by decide) some

private theorem length_ten_mul (n : Nat) (positive : n ≠ 0) : length (10 * n) = length n + 1 := by
  have last := Nat.toDigits_append_toDigits (b := 10) (n := n) (d := 0) (by decide) (by omega) (by decide)
  rw [length, length, ← Nat.add_zero (10 * n), ← last, List.length_append]
  rfl

private theorem ofUnits_ten (negative : Bool) (n unit : Nat) (exponent : Int) :
    Binary64.ofUnits negative (10 * n * 10 ^ exponent.toNat * unit) (10 ^ (-exponent).toNat) =
      Binary64.ofUnits negative (n * 10 ^ (exponent + 1).toNat * unit) (10 ^ (-(exponent + 1)).toNat) := by
  -- the exponent counts in the denominator where it is negative, and in the numerator where it is not
  rcases Int.lt_or_le exponent 0 with below | above
  · have numerator : exponent.toNat = 0 ∧ (exponent + 1).toNat = 0 := by omega
    have denominator : (-exponent).toNat = (-(exponent + 1)).toNat + 1 := by omega
    rw [numerator.1, numerator.2, denominator, Nat.pow_succ', Nat.mul_assoc 10 n, Nat.mul_assoc 10 (n * 10 ^ 0)]
    exact Binary64.ofUnits_ratio 10 _ _ (by decide) negative
  · have numerator : (exponent + 1).toNat = exponent.toNat + 1 := by omega
    have denominator : (-exponent).toNat = 0 ∧ (-(exponent + 1)).toNat = 0 := by omega
    rw [denominator.1, denominator.2, numerator, Nat.pow_succ', Nat.mul_comm 10 n, Nat.mul_assoc n]

private theorem toBinary64_ten (negative : Bool) (n : Nat) (exponent : Int) :
    toBinary64 negative ⟨10 * n, exponent⟩ = toBinary64 negative ⟨n, exponent + 1⟩ := by
  by_cases none : n = 0
  · simp only [toBinary64, none, Nat.mul_zero, true_or, if_true]
  have same : point ⟨10 * n, exponent⟩ = point ⟨n, exponent + 1⟩ := by
    simp only [point, length_ten_mul n none]
    omega
  have some : 10 * n ≠ 0 := by omega
  have units := ofUnits_ten negative n Binary64.unitsPerOne exponent
  simp only [toBinary64, same, none, some, false_or, Nat.pow_eq, units]

theorem toBinary64_zeros (negative : Bool) (n count : Nat) (exponent : Int) :
    toBinary64 negative ⟨10 ^ count * n, exponent⟩ = toBinary64 negative ⟨n, exponent + count⟩ := by
  induction count generalizing exponent with
  | zero => simp
  | succ count ih =>
    rw [Nat.pow_succ', Nat.mul_assoc, toBinary64_ten, ih]
    congr 2
    omega

private theorem toBinary64_dropZeros (negative : Bool) (count : Nat) (d : Decimal) :
    (dropZeros count d).toBinary64 negative = d.toBinary64 negative := by
  induction count generalizing d with
  | zero => rfl
  | succ count ih =>
    rw [dropZeros]
    split
    next ends =>
      have whole : 10 * (d.digits / 10) = d.digits := by omega
      rw [ih, ← toBinary64_ten, whole]
    · rfl

private theorem toBinary64_trimmed (negative : Bool) (d : Decimal) :
    d.trimmed.toBinary64 negative = d.toBinary64 negative :=
  toBinary64_dropZeros negative _ d

private theorem unitDigits_pos : 0 < unitDigits := by decide +kernel

private theorem unitDigits_least : 10 ^ 673 ≤ unitDigits := by decide +kernel

private theorem unitDigits_most : Binary64.scaled (Nat.pow 2 53) 2045 * unitDigits ≤ 10 ^ 1474 := by decide +kernel

private theorem unitDigits_unitsPerOne (places : Nat) (all : places = 1074) :
    unitDigits * Binary64.unitsPerOne = Nat.pow 10 places := by
  subst all
  decide +kernel

private theorem point_exact (units : Nat) (some : units ≠ 0) (bounded : units < Binary64.scaled (Nat.pow 2 53) 2045) :
    -beyondRange ≤ (exact units).point ∧ (exact units).point ≤ beyondRange := by
  have long : 673 < length (units * unitDigits) := by
    rw [← not_le, length_le_iff _ 673 (by decide), not_lt]
    exact unitDigits_least.trans (Nat.le_mul_of_pos_left _ (Nat.pos_of_ne_zero some))
  have short : length (units * unitDigits) ≤ 1474 := by
    rw [length_le_iff _ 1474 (by decide)]
    exact (Nat.mul_lt_mul_of_pos_right bounded unitDigits_pos).trans_le unitDigits_most
  change -400 ≤ (length (units * unitDigits) : Int) + -1074 ∧ (length (units * unitDigits) : Int) + -1074 ≤ 400
  omega

private theorem toBinary64_exact (negative : Bool) (significand scale : Nat) (canonical : Canonical significand scale)
    (positive : significand ≠ 0) :
    (exact (Binary64.scaled significand scale)).toBinary64 negative = .ofParts negative significand scale := by
  have rounded := Binary64.ofUnits_scaled negative significand scale canonical positive
  have some : Binary64.scaled significand scale ≠ 0 := Nat.mul_ne_zero positive (Nat.two_pow_pos scale).ne'
  have bounded : Binary64.scaled significand scale < Binary64.scaled (Nat.pow 2 53) 2045 := by
    obtain ⟨small, scales, _⟩ := canonical
    exact Binary64.scaled_lt_scaled small scales
  generalize Binary64.scaled significand scale = units at *
  obtain ⟨low, high⟩ := point_exact units some bounded
  have digits : (exact units).digits ≠ 0 := Nat.mul_ne_zero some unitDigits_pos.ne'
  have power := unitDigits_unitsPerOne (-(exact units).exponent).toNat rfl
  have whole : (exact units).exponent.toNat = 0 := rfl
  have shifted : (exact units).digits * Nat.pow 10 0 * Binary64.unitsPerOne =
      unitDigits * Binary64.unitsPerOne * units := by
    rw [Nat.pow_eq, Nat.pow_zero, Nat.mul_one, exact, Nat.mul_assoc, Nat.mul_comm]
  have positive : 0 < unitDigits * Binary64.unitsPerOne := power ▸ Nat.pow_pos (by decide)
  rw [toBinary64, if_neg (by omega), if_neg (by omega), ← rounded, ← power, whole, shifted,
    ← Binary64.ofUnits_ratio _ units 1 positive, Nat.mul_one]

private theorem getD_find? {α : Type} (holds : α → Bool) (items : List α) (fallback : α)
    (last : holds fallback = true) :
    holds ((items.find? holds).getD fallback) = true := by
  cases found : items.find? holds with
  | none => exact last
  | some item => exact List.find?_some found

/-- The shortest numeral reads back as the number it is made for, with either sign. -/
theorem toBinary64_shortest (negative : Bool) (significand scale : Nat) (canonical : Canonical significand scale)
    (positive : significand ≠ 0) :
    (shortest false significand scale).toBinary64 negative = .finite negative significand scale canonical := by
  have kept : (shortest false significand scale).toBinary64 false = .ofParts false significand scale := by
    -- whichever candidate is found reads back, and where none is found the exact numeral does
    have last := toBinary64_exact false significand scale canonical positive
    rw [shortest]
    exact eq_of_beq (getD_find? (fun d => toBinary64 false d == .ofParts false significand scale) _
      (exact (Binary64.scaled significand scale)) (beq_iff_eq.mpr last))
  rw [toBinary64_signed, kept, ← Binary64.ofParts_signed, Binary64.ofParts, dif_pos canonical]

/-- What is written of a number reads back as that number, and does not start with a zero. -/
theorem toBinary64_trimmed_shortest (significand scale : Nat) (canonical : Canonical significand scale)
    (positive : significand ≠ 0) :
    (shortest false significand scale).trimmed.digits ≠ 0 ∧ ∀ negative,
      (shortest false significand scale).trimmed.toBinary64 negative =
        .finite negative significand scale canonical := by
  have kept (negative : Bool) := (toBinary64_trimmed negative _).trans
    (toBinary64_shortest negative significand scale canonical positive)
  refine ⟨fun none => ?_, kept⟩
  have zero := kept false
  rw [toBinary64, if_pos (.inl none)] at zero
  cases zero
  exact positive rfl

end Decimal

end TripleQuery
