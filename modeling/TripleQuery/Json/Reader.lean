import TripleQuery.Binary64.Numeral
import TripleQuery.Value.Equal

/-!
JSON text read as a value: arrays become lists and objects dictionaries. Beyond the grammar of JSON the three
names `NaN`, `Infinity` and `-Infinity` are numbers; escapes have to pair up surrogates; and there are limits
on the nesting of containers and on the length of an integer.
-/

namespace TripleQuery.Json

def isSpace (c : Char) : Bool := c == ' ' || c == '\n' || c == '\r' || c == '\t'

def skipSpace (chars : List Char) : List Char := chars.dropWhile isSpace

def hexDigit? (c : Char) : Option Nat :=
  if '0' ≤ c ∧ c ≤ '9' then some (c.toNat - '0'.toNat)
  else if 'a' ≤ c ∧ c ≤ 'f' then some (c.toNat - 'a'.toNat + 10)
  else if 'A' ≤ c ∧ c ≤ 'F' then some (c.toNat - 'A'.toNat + 10)
  else none

def hexValue? (digits : List Char) : Option Nat :=
  digits.foldlM (fun value c => (hexDigit? c).map (16 * value + ·)) 0

def escaped? : Char → Option Char
  | '"' => some '"'
  | '\\' => some '\\'
  | '/' => some '/'
  | 'b' => some '\x08'
  | 'f' => some '\x0c'
  | 'n' => some '\n'
  | 'r' => some '\r'
  | 't' => some '\t'
  | _ => none

def stringUnits : List Char → Option (List Nat × List Char)
  | [] => none
  | '"' :: rest => some ([], rest)
  | '\\' :: 'u' :: a :: b :: c :: d :: rest => do
    let unit ← hexValue? [a, b, c, d]
    let (units, rest) ← stringUnits rest
    some (unit :: units, rest)
  | '\\' :: c :: rest => do
    let char ← escaped? c
    let (units, rest) ← stringUnits rest
    some (char.toNat :: units, rest)
  | c :: rest =>
    if c = '\\' ∨ c.toNat < 0x20 then none
    else do
      let (units, rest) ← stringUnits rest
      some (c.toNat :: units, rest)

def isHighSurrogate (unit : Nat) : Bool := 0xd800 ≤ unit && unit ≤ 0xdbff

def isLowSurrogate (unit : Nat) : Bool := 0xdc00 ≤ unit && unit ≤ 0xdfff

def charsOfUnits : List Nat → Option (List Char)
  | [] => some []
  | high :: low :: rest =>
    if isHighSurrogate high && isLowSurrogate low then
      (charsOfUnits rest).map (Char.ofNat (0x10000 + (high - 0xd800) * 0x400 + (low - 0xdc00)) :: ·)
    else if isHighSurrogate high || isLowSurrogate high then none
    else (charsOfUnits (low :: rest)).map (Char.ofNat high :: ·)
  | [unit] => if isHighSurrogate unit || isLowSurrogate unit then none else some [Char.ofNat unit]

def readString (chars : List Char) : Option (String × List Char) := do
  let (units, rest) ← stringUnits chars
  let chars ← charsOfUnits units
  some (String.ofList chars, rest)

def readWord (word : String) (chars : List Char) : Option (List Char) :=
  if word.toList.isPrefixOf chars then some (chars.drop word.toList.length) else none

/-- The most characters that the whole part of a number may have, its sign included. -/
def longestWhole : Nat := 4300

def readFraction : List Char → Option (List Char × List Char)
  | '.' :: rest =>
    let digits := rest.takeWhile Char.isDigit
    if digits.isEmpty then none else some (digits, rest.dropWhile Char.isDigit)
  | rest => some ([], rest)

def readExponent : List Char → Option (Option Int × List Char)
  | [] => some (none, [])
  | c :: rest =>
    if c = 'e' ∨ c = 'E' then
      let (negative, rest) := Binary64.splitSign rest
      let digits := rest.takeWhile Char.isDigit
      let size : Int := Text.digitsValue 0 digits
      if digits.isEmpty then none else some (some (if negative then -size else size), rest.dropWhile Char.isDigit)
    else some (none, c :: rest)

def readMagnitude (negative : Bool) (chars : List Char) : Option (Value × List Char) := do
  let whole := chars.takeWhile Char.isDigit
  if whole.isEmpty || (whole.head? == some '0' && 1 < whole.length) ||
      longestWhole < (Text.signChars negative ++ whole).length then none
  else
    let (fraction, rest) ← readFraction (chars.dropWhile Char.isDigit)
    let (exponent, rest) ← readExponent rest
    let size := Text.digitsValue 0 whole
    if fraction.isEmpty && exponent.isNone then
      some (.int (if negative then -(size : Int) else size), rest)
    else
      let numeral : Decimal := ⟨Text.digitsValue size fraction, exponent.getD 0 - fraction.length⟩
      some (.float (numeral.toBinary64 negative), rest)

def readNumber (chars : List Char) : Option (Value × List Char) :=
  let (negative, rest) : Bool × List Char := match chars with
    | '-' :: rest => (true, rest)
    | _ => (false, chars)
  match readWord "Infinity" rest, readWord "NaN" chars with
  | some rest, _ => some (.float (.infinite negative), rest)
  | none, some rest => some (.float .nan, rest)
  | none, none => readMagnitude negative rest

def readScalar (chars : List Char) : Option (Value × List Char) :=
  match readWord "null" chars, readWord "true" chars, readWord "false" chars, chars with
  | some rest, _, _, _ => some (.null, rest)
  | none, some rest, _, _ => some (.bool true, rest)
  | none, none, some rest, _ => some (.bool false, rest)
  | none, none, none, '"' :: rest => (readString rest).map fun (text, rest) => (.text text, rest)
  | none, none, none, _ => readNumber chars

/-- The most containers that a container with something in it may stand inside. -/
def deepest : Nat := 200

mutual

def readValue (fuel depth : Nat) (chars : List Char) : Option (Value × List Char) :=
  match fuel with
  | 0 => none
  | fuel + 1 =>
    match skipSpace chars with
    | '[' :: rest =>
      match skipSpace rest with
      | ']' :: rest => some (.list [], rest)
      | rest =>
        if depth < deepest then (readItems fuel (depth + 1) rest).map fun (items, rest) => (.list items, rest)
        else none
    | '\x7b' :: rest =>
      match skipSpace rest with
      | '\x7d' :: rest => some (.dict [], rest)
      | rest =>
        if depth < deepest then
          (readEntries fuel (depth + 1) [] rest).map fun (entries, rest) => (.dict entries, rest)
        else none
    | chars => readScalar chars
termination_by structural fuel

def readItems (fuel depth : Nat) (chars : List Char) : Option (List Value × List Char) :=
  match fuel with
  | 0 => none
  | fuel + 1 => do
    let (item, rest) ← readValue fuel depth chars
    match skipSpace rest with
    | ',' :: rest =>
      let (items, rest) ← readItems fuel depth rest
      some (item :: items, rest)
    | ']' :: rest => some ([item], rest)
    | _ => none
termination_by structural fuel

/-- One entry or more of an object, up to its closing brace. An entry with a key met before takes the
place of the earlier value. -/
def readEntries (fuel depth : Nat) (entries : Entries) (chars : List Char) :
    Option (Entries × List Char) :=
  match fuel with
  | 0 => none
  | fuel + 1 =>
    match skipSpace chars with
    | '"' :: rest => do
      let (key, rest) ← readString rest
      match skipSpace rest with
      | ':' :: rest => do
        let (value, rest) ← readValue fuel depth rest
        let entries := entries.insert (.text key) value
        match skipSpace rest with
        | ',' :: rest => readEntries fuel depth entries rest
        | '\x7d' :: rest => some (entries, rest)
        | _ => none
      | _ => none
    | _ => none
termination_by structural fuel

end

/-- The value that characters are the JSON text of, with nothing but blank space around it. Each level of
reading spends at most two units of fuel on a character. -/
def readChars (chars : List Char) : Option Value := do
  let (value, rest) ← readValue (2 * chars.length + 2) 0 chars
  if (skipSpace rest).isEmpty then some value else none

def read (text : String) : Option Value := readChars text.toList

end TripleQuery.Json
