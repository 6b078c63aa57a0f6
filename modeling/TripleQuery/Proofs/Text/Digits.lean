import Mathlib.Algebra.Ring.Int.Defs
import Mathlib.Algebra.Ring.Nat
import TripleQuery.Text.Basic

/-!
The digits written of a number are worth that number, and they are all that is taken where digits are taken from
the front of a text.
-/

namespace TripleQuery.Text

theorem digitsValue_append (before : Nat) (first second : List Char) :
    digitsValue before (first ++ second) = digitsValue (digitsValue before first) second :=
  List.foldl_append

theorem digitsValue_zeros (before count : Nat) :
    digitsValue before (List.replicate count '0') = 10 ^ count * before :=
  Nat.ofDigitChars_replicate_zero

theorem digitsValue_toDigits (n : Nat) : digitsValue 0 (Nat.toDigits 10 n) = n :=
  Nat.ofDigitChars_ten_toDigits

theorem digitsValue_padded (width n : Nat) : digitsValue 0 (padded 10 width n) = n := by
  rw [padded, digitsValue_append, digitsValue_zeros, Nat.mul_zero, digitsValue_toDigits]

def AreDigits (chars : List Char) : Prop := ∀ c ∈ chars, c.isDigit = true

theorem areDigits_toDigits (n : Nat) : AreDigits (Nat.toDigits 10 n) := fun _ member =>
  Nat.isDigit_of_mem_toDigits (by decide) (by decide) member

theorem areDigits_zeros (count : Nat) : AreDigits (List.replicate count '0') := by
  intro c member
  rw [List.eq_of_mem_replicate member]
  decide

theorem AreDigits.append {first second : List Char} (left : AreDigits first) (right : AreDigits second) :
    AreDigits (first ++ second) := by
  intro c member
  rcases List.mem_append.mp member with member | member
  · exact left c member
  · exact right c member

theorem AreDigits.take {chars : List Char} (digits : AreDigits chars) (count : Nat) :
    AreDigits (chars.take count) := fun c member => digits c (List.mem_of_mem_take member)

theorem AreDigits.drop {chars : List Char} (digits : AreDigits chars) (count : Nat) :
    AreDigits (chars.drop count) := fun c member => digits c (List.mem_of_mem_drop member)

theorem areDigits_padded (width n : Nat) : AreDigits (padded 10 width n) :=
  (areDigits_zeros _).append (areDigits_toDigits n)

theorem padded_ne_nil (base width n : Nat) : padded base width n ≠ [] := by
  simp [padded, Nat.toDigits_ne_nil]

theorem length_toDigits_pow (exponent : Nat) :
    (Nat.toDigits 10 (10 ^ exponent : Int).natAbs).length = exponent + 1 := by
  rw [Int.natAbs_pow, show (10 : Int).natAbs = 10 from rfl]
  apply Nat.le_antisymm
  · exact (Nat.length_toDigits_le_iff (by decide) (Nat.succ_pos exponent)).mpr
      (Nat.pow_lt_pow_right (by decide) (Nat.lt_succ_self exponent))
  · cases exponent with
    | zero => decide
    | succ exponent =>
      by_contra short
      have small := (Nat.length_toDigits_le_iff (by decide) (Nat.succ_pos exponent)).mp
        (Nat.lt_succ_iff.mp (Nat.not_le.mp short))
      exact Nat.lt_irrefl _ small

theorem head_toDigits (n : Nat) (positive : n ≠ 0) : (Nat.toDigits 10 n).head? ≠ some '0' := by
  have single : ∀ digit < 10, digit ≠ 0 → digit.digitChar ≠ '0' := by decide
  induction n using Nat.strongRecOn with
  | ind n ih =>
    rcases Nat.lt_or_ge n 10 with small | large
    · simpa [Nat.toDigits_of_lt_base small] using single n small positive
    · have earlier := ih (n / 10) (by omega) (by omega)
      rw [Nat.toDigits_of_base_le (by decide) large]
      cases digits : Nat.toDigits 10 (n / 10) with
      | nil => exact absurd digits Nat.toDigits_ne_nil
      | cons first rest =>
        rw [digits] at earlier
        exact earlier

def EndsDigits (rest : List Char) : Prop := ∀ c, rest.head? = some c → c.isDigit = false

theorem endsDigits_cons (c : Char) (rest : List Char) (other : c.isDigit = false) : EndsDigits (c :: rest) := by
  rintro first head
  cases head
  exact other

variable (digits rest : List Char) (all : AreDigits digits) (ends : EndsDigits rest)
include all ends

theorem takeWhile_digits : (digits ++ rest).takeWhile Char.isDigit = digits := by
  rw [List.takeWhile_append_of_pos all]
  cases rest with
  | nil => simp
  | cons c rest => simp [ends c rfl]

theorem dropWhile_digits : (digits ++ rest).dropWhile Char.isDigit = rest := by
  rw [List.dropWhile_append_of_pos all]
  cases rest with
  | nil => rfl
  | cons c rest => simp [ends c rfl]

end TripleQuery.Text
