import TripleQuery.Json.Reader
import TripleQuery.Json.Writer
import TripleQuery.Proofs.Binary64.Shortest
import TripleQuery.Proofs.Text.Digits

/-!
Numbers of JSON text read back. An integer is its digits. A binary64 number is laid out in one of four ways, and each
reads as a numeral that is worth the shortest one: with the same digits and exponent, or with zeros put at the end.
-/

namespace TripleQuery.Json

open Text

/-- What comes after a value: nothing, a comma, or the end of a container. -/
def Ends (rest : List Char) : Prop := ∀ c, rest.head? = some c → c = ',' ∨ c = ']' ∨ c = '\x7d'

private theorem Ends.endsDigits {rest : List Char} (ends : Ends rest) : EndsDigits rest := by
  intro c head
  rcases ends c head with rfl | rfl | rfl <;> decide

section Parts

variable (digits rest : List Char)

private theorem readFraction_of_other (other : rest.head? ≠ some '.') : readFraction rest = some ([], rest) := by
  cases rest with
  | nil => rfl
  | cons c rest =>
    have point : c ≠ '.' := fun same => other (same ▸ rfl)
    rw [readFraction]
    intro _ same
    exact point (List.cons.inj same).1

private theorem readFraction_digits (all : AreDigits digits) (some : digits ≠ []) (ends : EndsDigits rest) :
    readFraction ('.' :: (digits ++ rest)) = .some (digits, rest) := by
  have nonempty : digits.isEmpty = false := by simpa using some
  simp only [readFraction, takeWhile_digits digits rest all ends, dropWhile_digits digits rest all ends, nonempty,
    Bool.false_eq_true, if_false]

private theorem readFraction_optional (all : AreDigits digits) (ends : EndsDigits rest)
    (other : rest.head? ≠ some '.') :
    readFraction ((if digits.isEmpty then [] else '.' :: digits) ++ rest) = some (digits, rest) ∧
      EndsDigits ((if digits.isEmpty then [] else '.' :: digits) ++ rest) := by
  cases digits with
  | nil => exact ⟨readFraction_of_other rest other, ends⟩
  | cons first digits =>
    exact ⟨readFraction_digits _ rest all (by simp) ends, endsDigits_cons _ _ (by decide)⟩

private theorem readExponent_of_ends (ends : Ends rest) : readExponent rest = some (none, rest) := by
  cases rest with
  | nil => rfl
  | cons c rest =>
    have other : ¬ (c = 'e' ∨ c = 'E') := by
      rcases ends c rfl with rfl | rfl | rfl <;> decide
    rw [readExponent, if_neg other]

private theorem readExponent_digits (exponent : Int) (all : AreDigits digits) (some : digits ≠ [])
    (worth : digitsValue 0 digits = exponent.natAbs) (ends : EndsDigits rest) :
    readExponent ('e' :: (if exponent < 0 then '-' else '+') :: (digits ++ rest)) = .some (.some exponent, rest) := by
  have nonempty : digits.isEmpty = false := by simpa using some
  have sign : Binary64.splitSign ((if exponent < 0 then '-' else '+') :: (digits ++ rest)) =
      (decide (exponent < 0), digits ++ rest) := by
    by_cases negative : exponent < 0 <;> simp [negative, Binary64.splitSign]
  have value : (if exponent < 0 then -(exponent.natAbs : Int) else exponent.natAbs) = exponent := by omega
  simp only [readExponent, true_or, if_true, sign, takeWhile_digits digits rest all ends,
    dropWhile_digits digits rest all ends, nonempty, Bool.false_eq_true, if_false, worth, decide_eq_true_eq, value]

end Parts

/-- The whole part of a number after its sign: digits, not too many, and no zero before others. -/
structure IsWhole (negative : Bool) (whole : List Char) : Prop where
  digits : AreDigits whole
  nonempty : whole ≠ []
  plain : whole.head? = some '0' → whole.length ≤ 1
  short : (signChars negative ++ whole).length ≤ longestWhole

theorem length_signChars (negative : Bool) : (signChars negative).length ≤ 1 := by
  cases negative <;> decide

private theorem isWhole_of_length {negative : Bool} {whole : List Char} (digits : AreDigits whole)
    (nonempty : whole ≠ []) (plain : whole.head? = some '0' → whole.length ≤ 1)
    (short : whole.length < longestWhole) :
    IsWhole negative whole := by
  refine ⟨digits, nonempty, plain, ?_⟩
  have sign := length_signChars negative
  rw [List.length_append]
  omega

private theorem isWhole_zero (negative : Bool) : IsWhole negative ['0'] :=
  isWhole_of_length (by simp [AreDigits]) (by simp) (by simp) (by decide)

structure IsNumeral (written : List Char) : Prop where
  digits : AreDigits written
  nonempty : written ≠ []
  first : written.head? ≠ some '0'

private theorem isNumeral_toDigits (n : Nat) (positive : n ≠ 0) : IsNumeral (Nat.toDigits 10 n) :=
  ⟨areDigits_toDigits n, Nat.toDigits_ne_nil, head_toDigits n positive⟩

namespace IsNumeral

variable {written : List Char} (numeral : IsNumeral written)
include numeral

private theorem isWhole {negative : Bool} (short : (signChars negative ++ written).length ≤ longestWhole) :
    IsWhole negative written :=
  ⟨numeral.digits, numeral.nonempty, fun zero => absurd zero numeral.first, short⟩

private theorem isWhole_of_lt {negative : Bool} (short : written.length < longestWhole) : IsWhole negative written :=
  isWhole_of_length numeral.digits numeral.nonempty (fun zero => absurd zero numeral.first) short

private theorem zeros (count : Nat) : IsNumeral (written ++ List.replicate count '0') := by
  refine ⟨numeral.digits.append (areDigits_zeros count), by simp [numeral.nonempty], ?_⟩
  rw [List.head?_append, Option.or_of_isSome (by simp [numeral.nonempty])]
  exact numeral.first

theorem take (count : Nat) (some : count ≠ 0) : IsNumeral (written.take count) := by
  refine ⟨numeral.digits.take count, by simp [numeral.nonempty, some], ?_⟩
  rw [List.head?_take, if_neg some]
  exact numeral.first

end IsNumeral

private theorem isWhole_toDigits {negative : Bool} (n : Nat)
    (short : (signChars negative ++ Nat.toDigits 10 n).length ≤ longestWhole) :
    IsWhole negative (Nat.toDigits 10 n) := by
  by_cases none : n = 0
  · rw [none]
    exact isWhole_zero negative
  · exact (isNumeral_toDigits n none).isWhole short

private theorem readMagnitude_eq (negative : Bool) (whole tail fraction rest after : List Char) (exponent : Option Int)
    (isWhole : IsWhole negative whole) (ends : EndsDigits tail)
    (fractionRead : readFraction tail = some (fraction, rest))
    (exponentRead : readExponent rest = some (exponent, after)) :
    readMagnitude negative (whole ++ tail) =
      if fraction.isEmpty && exponent.isNone then
        some (.int (if negative then -(digitsValue 0 whole : Int) else digitsValue 0 whole), after)
      else
        some (.float ((⟨digitsValue 0 (whole ++ fraction), exponent.getD 0 - fraction.length⟩ :
          Decimal).toBinary64 negative), after) := by
  have accepted : (whole.isEmpty || (whole.head? == some '0' && decide (1 < whole.length)) ||
      decide (longestWhole < (signChars negative ++ whole).length)) = false := by
    simp only [Bool.or_eq_false_iff, Bool.and_eq_false_imp, beq_iff_eq, decide_eq_false_iff_not, Nat.not_lt]
    exact ⟨⟨by simpa using isWhole.nonempty, isWhole.plain⟩, isWhole.short⟩
  simp only [readMagnitude, takeWhile_digits whole tail isWhole.digits ends,
    dropWhile_digits whole tail isWhole.digits ends, accepted, Bool.false_eq_true, if_false, fractionRead,
    Option.bind_eq_bind, Option.bind_some, exponentRead, digitsValue_append]

section Digits

variable (negative : Bool) (rest : List Char) (ends : Ends rest)
include ends

private theorem readMagnitude_whole (n : Nat)
    (short : (signChars negative ++ Nat.toDigits 10 n).length ≤ longestWhole) :
    readMagnitude negative (Nat.toDigits 10 n ++ rest) =
      some (.int (if negative then -(n : Int) else n), rest) := by
  have other : rest.head? ≠ some '.' := by
    intro point
    rcases ends _ point with same | same | same <;> cases same
  rw [readMagnitude_eq negative _ rest [] rest rest none (isWhole_toDigits n short) ends.endsDigits
    (readFraction_of_other rest other) (readExponent_of_ends rest ends), digitsValue_toDigits]
  rfl

private theorem readMagnitude_pointed (whole fraction : List Char) (isWhole : IsWhole negative whole)
    (digits : AreDigits fraction) (nonempty : fraction ≠ []) :
    readMagnitude negative (whole ++ '.' :: (fraction ++ rest)) =
      some (.float ((⟨digitsValue 0 (whole ++ fraction), -fraction.length⟩ : Decimal).toBinary64 negative), rest) := by
  have some : fraction.isEmpty = false := by simpa using nonempty
  rw [readMagnitude_eq negative whole _ fraction rest rest none isWhole (endsDigits_cons _ _ (by decide))
    (readFraction_digits fraction rest digits nonempty ends.endsDigits) (readExponent_of_ends rest ends), some]
  simp

variable (written : List Char) (numeral : IsNumeral written) (exponent : Int)
include numeral

private theorem readMagnitude_below (below : written.length + exponent ≤ 0) :
    readMagnitude negative
        ('0' :: '.' :: (List.replicate (-(written.length + exponent)).toNat '0' ++ (written ++ rest))) =
      some (.float ((⟨digitsValue 0 written, exponent⟩ : Decimal).toBinary64 negative), rest) := by
  obtain ⟨count, added⟩ := Int.eq_ofNat_of_zero_le (show 0 ≤ -(written.length + exponent) by omega)
  have worth : digitsValue 0 (['0'] ++ (List.replicate count '0' ++ written)) = digitsValue 0 written := by
    rw [digitsValue_append, digitsValue_append, digitsValue_zeros]
    rfl
  have scale : -((List.replicate count '0' ++ written).length : Int) = exponent := by
    rw [List.length_append, List.length_replicate]
    omega
  have read := readMagnitude_pointed negative rest ends ['0'] _ (isWhole_zero negative)
    ((areDigits_zeros count).append numeral.digits) (by simp [numeral.nonempty])
  rw [worth, scale, List.append_assoc] at read
  rw [added]
  exact read

private theorem readMagnitude_past (count : Nat) (added : exponent = count)
    (short : written.length + count < longestWhole) :
    readMagnitude negative (written ++ List.replicate count '0' ++ '.' :: '0' :: rest) =
      some (.float ((⟨digitsValue 0 written, exponent⟩ : Decimal).toBinary64 negative), rest) := by
  have worth : digitsValue 0 (written ++ List.replicate count '0' ++ ['0']) =
      10 ^ (count + 1) * digitsValue 0 written := by
    rw [List.append_assoc, ← List.replicate_succ', digitsValue_append, digitsValue_zeros]
  have isWhole : IsWhole negative _ := (numeral.zeros count).isWhole_of_lt (by simpa using short)
  have read := readMagnitude_pointed negative rest ends _ ['0'] isWhole (by simp [AreDigits]) (by simp)
  rw [worth, Decimal.toBinary64_zeros, List.length_singleton,
    show -((1 : Nat) : Int) + ((count + 1 : Nat) : Int) = exponent by omega] at read
  exact read

private theorem readMagnitude_among (count : Nat) (some : count ≠ 0) (inside : count < written.length)
    (short : count < longestWhole) (stands : written.length + exponent = count) :
    readMagnitude negative (written.take count ++ '.' :: (written.drop count ++ rest)) =
      .some (.float ((⟨digitsValue 0 written, exponent⟩ : Decimal).toBinary64 negative), rest) := by
  have isWhole : IsWhole negative _ := (numeral.take count some).isWhole_of_lt (by rw [List.length_take]; omega)
  have scale : -((written.drop count).length : Int) = exponent := by
    rw [List.length_drop]
    omega
  have left : written.drop count ≠ [] := by
    rw [ne_eq, List.drop_eq_nil_iff]
    omega
  have read := readMagnitude_pointed negative rest ends _ _ isWhole (numeral.digits.drop count) left
  rw [List.take_append_drop, scale] at read
  exact read

private theorem readMagnitude_positional (few : written.length + exponent < longestWhole) :
    readMagnitude negative (Binary64.positional written (written.length + exponent) ++ rest) =
      some (.float ((⟨digitsValue 0 written, exponent⟩ : Decimal).toBinary64 negative), rest) := by
  rw [Binary64.positional]
  split
  next below =>
    have read := readMagnitude_below negative rest ends written numeral exponent below
    simpa using read
  next above =>
    split
    next past =>
      obtain ⟨count, added⟩ := Int.eq_ofNat_of_zero_le (show 0 ≤ exponent by omega)
      have read := readMagnitude_past negative rest ends written numeral exponent count added (by omega)
      rw [show (written.length + exponent).toNat - written.length = count by omega]
      simpa using read
    next among =>
      have read := readMagnitude_among negative rest ends written numeral exponent (written.length + exponent).toNat
        (by omega) (by omega) (by omega) (by omega)
      simpa using read

private theorem readMagnitude_scientific :
    readMagnitude negative (Binary64.scientific .full written (written.length + exponent - 1) ++ rest) =
      some (.float ((⟨digitsValue 0 written, exponent⟩ : Decimal).toBinary64 negative), rest) := by
  have isWhole : IsWhole negative (written.take 1) := (numeral.take 1 (by decide)).isWhole_of_lt (by
    rw [List.length_take, longestWhole]
    omega)
  obtain ⟨point, named⟩ : ∃ point, written.length + exponent - 1 = point := ⟨_, rfl⟩
  have exponentRead := readExponent_digits (padded 10 2 point.natAbs) rest point (areDigits_padded 2 _)
    (padded_ne_nil 10 2 _) (digitsValue_padded 2 _) ends.endsDigits
  obtain ⟨fractionRead, stop⟩ := readFraction_optional (written.drop 1)
    ('e' :: (if point < 0 then '-' else '+') :: (padded 10 2 point.natAbs ++ rest)) (numeral.digits.drop 1)
    (endsDigits_cons _ _ (by decide)) (by simp)
  have read := readMagnitude_eq negative _ _ _ _ rest (some point) isWhole stop fractionRead exponentRead
  have scale : point - ((written.drop 1).length : Int) = exponent := by
    have positive := List.length_pos_iff.mpr numeral.nonempty
    rw [List.length_drop]
    omega
  rw [List.take_append_drop, Option.getD_some, scale, Option.isNone_some, Bool.and_false, if_neg Bool.false_ne_true]
    at read
  rw [named, Binary64.scientific]
  simpa [NumberFormat.full] using read

end Digits

private theorem canonical_zero (scale : Nat) (canonical : Canonical 0 scale) : scale = 0 := by
  obtain ⟨_, _, full | least⟩ := canonical
  · exact absurd full (by decide)
  · exact least

/-- However a numeral is laid out, it is read for what it is worth. -/
theorem readMagnitude_numeral (negative : Bool) (rest : List Char) (ends : Ends rest) (numeral : Decimal)
    (positive : numeral.digits ≠ 0) :
    readMagnitude negative ((if NumberFormat.full.leastPositional ≤ numeral.point - 1 ∧
        numeral.point - 1 < NumberFormat.full.firstScientific
      then Binary64.positional (Nat.toDigits 10 numeral.digits) numeral.point
      else Binary64.scientific .full (Nat.toDigits 10 numeral.digits) (numeral.point - 1)) ++ rest) =
      some (.float (numeral.toBinary64 negative), rest) := by
  have written := isNumeral_toDigits numeral.digits positive
  have point : numeral.point = (Nat.toDigits 10 numeral.digits).length + numeral.exponent := rfl
  have worth := digitsValue_toDigits numeral.digits
  split
  next within =>
    have below : numeral.point - 1 < 16 := within.2
    have read := readMagnitude_positional negative rest ends _ written numeral.exponent (by
      rw [← point, longestWhole]
      omega)
    rwa [worth, ← point] at read
  next beyond =>
    have read := readMagnitude_scientific negative rest ends _ written numeral.exponent
    rwa [worth, ← point] at read

private theorem readMagnitude_writeMagnitude (negative : Bool) (rest : List Char) (ends : Ends rest)
    (significand scale : Nat) (canonical : Canonical significand scale) :
    readMagnitude negative (Binary64.writeMagnitude .full significand scale ++ rest) =
      some (.float (.finite negative significand scale canonical), rest) := by
  by_cases none : significand = 0
  · subst none
    cases canonical_zero scale canonical
    have read := readMagnitude_pointed negative rest ends ['0'] ['0'] (isWhole_zero negative)
      (isWhole_zero negative).digits (isWhole_zero negative).nonempty
    rwa [show digitsValue 0 (['0'] ++ ['0']) = 0 from rfl, Decimal.toBinary64_zero] at read
  · obtain ⟨some, kept⟩ := Decimal.toBinary64_trimmed_shortest significand scale canonical none
    rw [Binary64.writeMagnitude, if_neg none, ← kept negative]
    exact readMagnitude_numeral negative rest ends _ some

private theorem readMagnitude_head (negative : Bool) (chars : List Char) (result : Value × List Char)
    (read : readMagnitude negative chars = some result) : ∃ c rest, chars = c :: rest ∧ c.isDigit = true := by
  cases chars with
  | nil => cases read
  | cons c rest =>
    refine ⟨c, rest, rfl, ?_⟩
    by_contra other
    simp [readMagnitude, other] at read

theorem readWord_of_ne (word : String) (first c : Char) (letters rest : List Char)
    (spelled : word.toList = first :: letters) (other : first ≠ c) : readWord word (c :: rest) = none := by
  simp [readWord, spelled, List.isPrefixOf, other]

private theorem readNumber_digits (negative : Bool) (c : Char) (rest : List Char) (digit : c.isDigit = true) :
    readNumber (signChars negative ++ c :: rest) = readMagnitude negative (c :: rest) := by
  have infinity : readWord "Infinity" (c :: rest) = none := by
    refine readWord_of_ne "Infinity" 'I' c _ rest rfl ?_
    rintro rfl
    cases digit
  cases negative with
  | true =>
    have nan : readWord "NaN" ('-' :: c :: rest) = none := readWord_of_ne "NaN" 'N' '-' _ _ rfl (by decide)
    simp only [signChars, if_true, List.singleton_append, readNumber, infinity, nan]
  | false =>
    have nan : readWord "NaN" (c :: rest) = none := by
      refine readWord_of_ne "NaN" 'N' c _ rest rfl ?_
      rintro rfl
      cases digit
    have unsigned : c ≠ '-' := by
      rintro rfl
      cases digit
    simp [signChars, readNumber, unsigned, infinity, nan]

private theorem readNumber_of_magnitude (negative : Bool) (chars : List Char) (result : Value × List Char)
    (read : readMagnitude negative chars = some result) :
    readNumber (signChars negative ++ chars) = some result := by
  obtain ⟨c, rest, rfl, digit⟩ := readMagnitude_head negative chars result read
  rw [readNumber_digits negative c rest digit, read]

private theorem readMagnitude_long (negative : Bool) (digits rest : List Char) (all : AreDigits digits)
    (ends : EndsDigits rest) (long : longestWhole < (signChars negative ++ digits).length) :
    readMagnitude negative (digits ++ rest) = none := by
  simp only [readMagnitude, takeWhile_digits digits rest all ends, long, decide_true, Bool.or_true, if_true]

private theorem toDigits_head (n : Nat) : ∃ c rest, Nat.toDigits 10 n = c :: rest ∧ c.isDigit = true := by
  cases digits : Nat.toDigits 10 n with
  | nil => exact absurd digits Nat.toDigits_ne_nil
  | cons c rest => exact ⟨c, rest, rfl, areDigits_toDigits n c (digits ▸ List.mem_cons_self)⟩

theorem ofInt_head (n : Int) : ∃ c rest, ofInt n = c :: rest ∧ (c = '-' ∨ c.isDigit = true) := by
  obtain ⟨c, rest, digits, digit⟩ := toDigits_head n.natAbs
  cases sign : decide (n < 0) with
  | true => exact ⟨'-', _, by rw [ofInt, sign]; rfl, .inl rfl⟩
  | false => exact ⟨c, rest, by rw [ofInt, sign, digits]; rfl, .inr digit⟩

section Written

variable (rest : List Char) (ends : Ends rest)
include ends

theorem readNumber_ofInt (n : Int) (short : (ofInt n).length ≤ longestWhole) :
    readNumber (ofInt n ++ rest) = some (.int n, rest) := by
  have read := readNumber_of_magnitude (decide (n < 0)) _ _
    (readMagnitude_whole (decide (n < 0)) rest ends n.natAbs short)
  have value : (if decide (n < 0) = true then -(n.natAbs : Int) else n.natAbs) = n := by
    simp only [decide_eq_true_eq]
    omega
  rw [value] at read
  rwa [← List.append_assoc] at read

theorem readNumber_ofInt_long (n : Int) (long : longestWhole < (ofInt n).length) :
    readNumber (ofInt n ++ rest) = none := by
  obtain ⟨c, others, digits, digit⟩ := toDigits_head n.natAbs
  have refused := readMagnitude_long (decide (n < 0)) _ rest (areDigits_toDigits n.natAbs) ends.endsDigits long
  rw [digits] at refused
  rw [ofInt, digits, List.append_assoc, List.cons_append, readNumber_digits _ c _ digit]
  exact refused

theorem readNumber_write (value : Binary64) :
    readNumber (value.write .full ++ rest) = some (.float value, rest) := by
  cases value with
  | nan => rfl
  | infinite negative => cases negative <;> rfl
  | finite negative significand scale canonical =>
    have read := readNumber_of_magnitude negative _ _
      (readMagnitude_writeMagnitude negative rest ends significand scale canonical)
    simpa [Binary64.write] using read

end Written

end TripleQuery.Json
