import TripleQuery.Value.Render

/-!
JSON text of a value, on one line, with a space after each comma and colon. Tuples are written as arrays and
scalar keys as strings; bytes, bindings, terms, patterns, queries and settings have no JSON form, and neither have
integers without decimal text.
-/

namespace TripleQuery.Json

/-- A character between quotes. Only quotes, backslashes and control characters are escaped. -/
def writeChar (c : Char) : List Char :=
  if c = '"' then ['\\', '"']
  else if c = '\\' then ['\\', '\\']
  else if c = '\n' then ['\\', 'n']
  else if c = '\r' then ['\\', 'r']
  else if c = '\t' then ['\\', 't']
  else if c = '\x0c' then ['\\', 'f']
  else if c = '\x08' then ['\\', 'b']
  else if c.toNat < 0x20 then ['\\', 'u'] ++ Text.padded 16 4 c.toNat
  else [c]

def writeString (chars : List Char) : List Char := '"' :: chars.flatMap writeChar ++ ['"']

def writeBool (value : Bool) : List Char := if value then "true".toList else "false".toList

def separated : List (List Char) → List Char
  | [] => []
  | [last] => last
  | first :: rest => first ++ [',', ' '] ++ separated rest

def writeKey : Value → Except Fault (List Char)
  | .text value => .ok (writeString value.toList)
  | .null => .ok (writeString "null".toList)
  | .bool value => .ok (writeString (writeBool value))
  | .int value => (intChars value).map writeString
  | .float value => .ok (writeString (value.write .full))
  | _ => .error .notJson

mutual

def writeValue : Value → Except Fault (List Char)
  | .null => .ok "null".toList
  | .bool value => .ok (writeBool value)
  | .int value => intChars value
  | .float value => .ok (value.write .full)
  | .text value => .ok (writeString value.toList)
  | .list items | .tuple items => do
    let items ← writeItems items
    .ok ('[' :: separated items ++ [']'])
  | .dict entries => do
    let entries ← writeEntries entries
    .ok ('\x7b' :: separated entries ++ ['\x7d'])
  | .bytes _ | .bindings _ | .term _ | .pattern _ | .query _ | .settings _ => .error .notJson
termination_by structural value => value

def writeItems : List Value → Except Fault (List (List Char))
  | [] => .ok []
  | item :: rest => do
    let item ← writeValue item
    let rest ← writeItems rest
    .ok (item :: rest)
termination_by structural items => items

def writeEntries : List (Value × Value) → Except Fault (List (List Char))
  | [] => .ok []
  | (key, value) :: rest => do
    let key ← writeKey key
    let value ← writeValue value
    let rest ← writeEntries rest
    .ok ((key ++ [':', ' '] ++ value) :: rest)
termination_by structural entries => entries

end

def write (value : Value) : Except Fault String := (writeValue value).map String.ofList

end TripleQuery.Json
