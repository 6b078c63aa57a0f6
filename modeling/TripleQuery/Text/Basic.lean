import TripleQuery.Text.Printable

/-!
Text: the digits of numbers, bytes read as text, and text and bytes between quotes. The quote mark is the single
one unless the text holds one and holds no double quote; the mark, the backslash and whatever is not printable are
escaped. An integer has decimal text only up to a number of digits, whatever its sign.
-/

namespace TripleQuery.Text

def padded (base width n : Nat) : List Char :=
  let digits := Nat.toDigits base n
  List.replicate (width - digits.length) '0' ++ digits

def digitsValue (before : Nat) (digits : List Char) : Nat :=
  digits.foldl (fun value c => 10 * value + (c.toNat - '0'.toNat)) before

def signChars (negative : Bool) : List Char := if negative then ['-'] else []

def ofInt (n : Int) : List Char := signChars (decide (n < 0)) ++ Nat.toDigits 10 n.natAbs

/-- The most digits that an integer is written with. -/
def mostDigits : Nat := 4300

def ofBytes? (bytes : List UInt8) : Option String := String.fromUTF8? ⟨bytes.toArray⟩

def quoteMark (hasSingle hasDouble : Bool) : Char :=
  if hasSingle && !hasDouble then '"' else '\''

def codePointEscape (code : Nat) : List Char :=
  if code < 0x100 then ['\\', 'x'] ++ padded 16 2 code
  else if code < 0x10000 then ['\\', 'u'] ++ padded 16 4 code
  else ['\\', 'U'] ++ padded 16 8 code

/-- One character between marks; `plain` says whether a character without an escape of its own is
written as it is. -/
def quotedChar (mark : Char) (plain : Char → Bool) (c : Char) : List Char :=
  if c = mark ∨ c = '\\' then ['\\', c]
  else if c = '\n' then ['\\', 'n']
  else if c = '\r' then ['\\', 'r']
  else if c = '\t' then ['\\', 't']
  else if plain c then [c]
  else codePointEscape c.toNat

def quotedChars (plain : Char → Bool) (chars : List Char) : List Char :=
  let mark := quoteMark (chars.contains '\'') (chars.contains '"')
  mark :: chars.flatMap (quotedChar mark plain) ++ [mark]

def quoted (text : String) : String := String.ofList (quotedChars isPrintable text.toList)

def quotedBytes (bytes : List UInt8) : String :=
  let plain := fun c => c.toNat < 0x80 && isPrintable c
  String.ofList ('b' :: quotedChars plain (bytes.map fun byte => Char.ofNat byte.toNat))

end TripleQuery.Text
