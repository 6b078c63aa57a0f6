import TripleQuery.Json.Reader
import TripleQuery.Value.Basic

/-!
Parts of a document that are given as bytes. Their text is read as the first kind that it fits: a truth
value, an integer, a number, and else the text itself.
-/

namespace TripleQuery.Document

def truthWords : List (String × Bool) :=
  [("0", false), ("f", false), ("n", false), ("no", false), ("off", false), ("false", false),
   ("1", true), ("t", true), ("y", true), ("on", true), ("yes", true), ("true", true)]

def boolOfChars? (chars : List Char) : Option Bool :=
  let word := String.ofList (chars.map Char.toLower)
  (truthWords.find? fun entry => entry.1 == word).map Prod.snd

def isWhite (c : Char) : Bool :=
  let code := c.toNat
  (0x9 ≤ code && code ≤ 0xd) || code == 0x20 || code == 0x85 || code == 0xa0 || code == 0x1680 ||
    (0x2000 ≤ code && code ≤ 0x200a) || code == 0x2028 || code == 0x2029 || code == 0x202f ||
    code == 0x205f || code == 0x3000

def trim (chars : List Char) : List Char :=
  ((chars.dropWhile isWhite).reverse.dropWhile isWhite).reverse

def withoutUnderscores? : List Char → Option (List Char)
  | [] => some []
  | '_' :: _ => none
  | c :: '_' :: d :: rest => if d = '_' then none else (withoutUnderscores? (d :: rest)).map (c :: ·)
  | [_, '_'] => none
  | c :: rest => (withoutUnderscores? rest).map (c :: ·)

/-- What follows zeros and underscores that end with `last`: a digit other than zero or a minus sign, or `last`
itself where a point or nothing follows. -/
def afterZeros? (last : Char) : List Char → Option (List Char)
  | [] => some [last]
  | c :: rest =>
    if c = '0' ∨ c = '_' then afterZeros? c rest
    else if c = '.' then some (last :: c :: rest)
    else if c = '-' ∨ c.isDigit then some (c :: rest)
    else none

def withoutLeadingZeros? : List Char → Option (List Char)
  | [] => none
  | c :: rest =>
    if c = '0' then afterZeros? c rest else if c.isDigit then some (c :: rest) else none

def withoutZeroFraction (chars : List Char) : List Char :=
  let fraction := (chars.dropWhile (· != '.')).drop 1
  if !fraction.isEmpty && fraction.all (· == '0') then chars.takeWhile (· != '.') else chars

def plainDigits? (chars : List Char) : Option Int :=
  match Json.readMagnitude false chars with
  | some (.int value, []) => some value
  | _ => none

/-- An integer as JSON has it, but its sign does not count towards the length. -/
def plainInt? : List Char → Option Int
  | '-' :: digits => (plainDigits? digits).map Int.neg
  | digits => plainDigits? digits

/-- An integer, possibly with a sign, zeros in front, underscores, and a fraction that is nothing but zeros.
A minus sign may also stand after the zeros in front, unless one stands before them. -/
def intOfChars? (chars : List Char) : Option Int := do
  let (negative, chars) := Binary64.splitSign (trim chars)
  let chars ← withoutLeadingZeros? chars
  let chars ← withoutUnderscores? (withoutZeroFraction chars)
  plainInt? (if negative then '-' :: chars else chars)

def floatOfChars? (chars : List Char) : Option Binary64 :=
  match Binary64.ofChars? (trim chars) with
  | some value => some value
  | none => (withoutUnderscores? chars).bind Binary64.ofChars?

def scalarOfBytes? (bytes : List UInt8) : Option Value := do
  let text ← Text.ofBytes? bytes
  let chars := text.toList
  match boolOfChars? chars, intOfChars? chars, floatOfChars? chars with
  | some value, _, _ => some (.bool value)
  | none, some value, _ => some (.int value)
  | none, none, some value => some (.float value)
  | none, none, none => some (.text text)

end TripleQuery.Document
