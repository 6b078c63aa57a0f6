import TripleQuery.Binary64.Decimal
import TripleQuery.Text.Basic

/-!
The written form of a binary64 number. `Binary64.write` lays out the shortest numeral; `Binary64.ofChars?`
reads any decimal text, and the names of the infinities and of NaN.
-/

namespace TripleQuery

/-- The choices a format makes about numbers that have no numeral of their own, and about where a
point is written. -/
structure NumberFormat where
  nan : List Char
  infinity : List Char
  leastPositional : Int := -4
  firstScientific : Int := 16
  exponentWidth : Nat := 2

namespace NumberFormat

def plain : NumberFormat where
  nan := "nan".toList
  infinity := "inf".toList

def full : NumberFormat where
  nan := "NaN".toList
  infinity := "Infinity".toList

end NumberFormat

namespace Binary64

def positional (digits : List Char) (point : Int) : List Char :=
  if point ≤ 0 then ['0', '.'] ++ List.replicate (-point).toNat '0' ++ digits
  else if digits.length ≤ point then
    digits ++ List.replicate (point.toNat - digits.length) '0' ++ ['.', '0']
  else digits.take point.toNat ++ ['.'] ++ digits.drop point.toNat

def scientific (format : NumberFormat) (digits : List Char) (exponent : Int) : List Char :=
  let fraction := digits.drop 1
  digits.take 1 ++ (if fraction.isEmpty then [] else '.' :: fraction) ++
    ['e', if exponent < 0 then '-' else '+'] ++ Text.padded 10 format.exponentWidth exponent.natAbs

def writeMagnitude (format : NumberFormat) (significand scale : Nat) : List Char :=
  if significand = 0 then ['0', '.', '0']
  else
    let numeral := (Decimal.shortest false significand scale).trimmed
    let digits := Nat.toDigits 10 numeral.digits
    let exponent := numeral.point - 1
    if format.leastPositional ≤ exponent ∧ exponent < format.firstScientific
    then positional digits numeral.point
    else scientific format digits exponent

def write (format : NumberFormat) : Binary64 → List Char
  | nan => format.nan
  | infinite negative => Text.signChars negative ++ format.infinity
  | finite negative significand scale _ => Text.signChars negative ++ writeMagnitude format significand scale

def splitSign : List Char → Bool × List Char
  | '-' :: rest => (true, rest)
  | '+' :: rest => (false, rest)
  | rest => (false, rest)

def exponentOfChars? : List Char → Option Int
  | [] => some 0
  | mark :: rest =>
    let (negative, digits) := splitSign rest
    if (mark = 'e' ∨ mark = 'E') ∧ digits ≠ [] ∧ digits.all Char.isDigit then
      some (if negative then -(Text.digitsValue 0 digits : Int) else Text.digitsValue 0 digits)
    else none

def decimalOfChars? (text : List Char) : Option Decimal :=
  let whole := text.takeWhile Char.isDigit
  let afterWhole := text.dropWhile Char.isDigit
  let (fraction, rest) := match afterWhole with
    | '.' :: tail => (tail.takeWhile Char.isDigit, tail.dropWhile Char.isDigit)
    | _ => ([], afterWhole)
  if whole.isEmpty && fraction.isEmpty then none
  else (exponentOfChars? rest).map fun exponent =>
    ⟨Text.digitsValue (Text.digitsValue 0 whole) fraction, exponent - fraction.length⟩

/-- Any decimal text with an optional sign; the names of infinity and NaN in any case. -/
def ofChars? (text : List Char) : Option Binary64 :=
  let (negative, rest) := splitSign text
  let name := String.ofList (rest.map Char.toLower)
  if name = "nan" then some nan
  else if name = "inf" ∨ name = "infinity" then some (infinite negative)
  else (decimalOfChars? rest).map (Decimal.toBinary64 negative)

end Binary64

end TripleQuery
