import TripleQuery.Json.Reader
import TripleQuery.Json.Writer

/-!
Strings of JSON text read back, character by character: each is written as itself or as an escape that reads as its
one code unit, and the code units of characters hold no surrogates to pair up.
-/

namespace TripleQuery.Json

private theorem hexValue?_padded : ∀ code < 0x20, ∃ high low,
    Text.padded 16 4 code = ['0', '0', high, low] ∧ hexValue? ['0', '0', high, low] = some code := by
  have digits : ∀ code < 0x20, Text.padded 16 4 code = ['0', '0', (code / 16).digitChar, (code % 16).digitChar] ∧
      hexValue? ['0', '0', (code / 16).digitChar, (code % 16).digitChar] = some code := by decide
  exact fun code small => ⟨_, _, digits code small⟩

section Units

variable (tail : List Char)

private theorem stringUnits_escape (c char : Char) (escape : escaped? c = some char) :
    stringUnits ('\\' :: c :: tail) =
      (stringUnits tail).map fun (units, rest) => (char.toNat :: units, rest) := by
  have short : c ≠ 'u' := by
    rintro rfl
    cases escape
  rw [stringUnits, escape]
  · cases stringUnits tail <;> rfl
  · intro _ _ _ _ _ same
    exact absurd same short

private theorem stringUnits_plain (c : Char) (quote : c ≠ '"') (backslash : c ≠ '\\') (printed : ¬ c.toNat < 0x20) :
    stringUnits (c :: tail) = (stringUnits tail).map fun (units, rest) => (c.toNat :: units, rest) := by
  rw [stringUnits, if_neg (by simp [backslash, printed])]
  · cases stringUnits tail <;> rfl
  all_goals simp [quote, backslash]

private theorem stringUnits_writeChar (c : Char) :
    stringUnits (writeChar c ++ tail) =
      (stringUnits tail).map fun (units, rest) => (c.toNat :: units, rest) := by
  unfold writeChar
  split
  next quote => exact quote ▸ stringUnits_escape tail '"' '"' rfl
  split
  next backslash => exact backslash ▸ stringUnits_escape tail '\\' '\\' rfl
  split
  next feed => exact feed ▸ stringUnits_escape tail 'n' '\n' rfl
  split
  next carriage => exact carriage ▸ stringUnits_escape tail 'r' '\r' rfl
  split
  next tab => exact tab ▸ stringUnits_escape tail 't' '\t' rfl
  split
  next form => exact form ▸ stringUnits_escape tail 'f' '\x0c' rfl
  split
  next back => exact back ▸ stringUnits_escape tail 'b' '\x08' rfl
  split
  next control =>
    obtain ⟨high, low, written, value⟩ := hexValue?_padded c.toNat control
    rw [written]
    simp only [List.cons_append, List.nil_append, stringUnits, value]
    cases stringUnits tail <;> rfl
  next quote backslash _ _ _ _ _ printed => exact stringUnits_plain tail c quote backslash printed

end Units

private theorem isSurrogate_toNat (c : Char) : isHighSurrogate c.toNat = false ∧ isLowSurrogate c.toNat = false := by
  have valid : c.toNat < 0xd800 ∨ 0xdfff < c.toNat ∧ c.toNat < 0x110000 := c.valid
  simp only [isHighSurrogate, isLowSurrogate, Bool.and_eq_false_imp, decide_eq_true_eq, decide_eq_false_iff_not]
  omega

private theorem charsOfUnits_toNat (chars : List Char) : charsOfUnits (chars.map Char.toNat) = some chars := by
  induction chars with
  | nil => rfl
  | cons c rest ih =>
    obtain ⟨high, low⟩ := isSurrogate_toNat c
    cases rest with
    | nil => simp [charsOfUnits, high, low]
    | cons next rest =>
      have ih : charsOfUnits (next.toNat :: rest.map Char.toNat) = some (next :: rest) := ih
      simp [charsOfUnits, high, low, ih]

/-- A string is read up to its closing quote, as the text that it was written of. -/
theorem readString_writeString (text : String) (rest : List Char) :
    readString (text.toList.flatMap writeChar ++ '"' :: rest) = some (text, rest) := by
  have units (chars : List Char) :
      stringUnits (chars.flatMap writeChar ++ '"' :: rest) = some (chars.map Char.toNat, rest) := by
    induction chars with
    | nil => rfl
    | cons c chars ih =>
      rw [List.flatMap_cons, List.append_assoc, stringUnits_writeChar, ih]
      rfl
  simp [readString, units, charsOfUnits_toNat]

end TripleQuery.Json
