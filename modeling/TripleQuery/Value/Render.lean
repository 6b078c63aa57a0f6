import TripleQuery.Binary64.Numeral
import TripleQuery.Value.Basic

/-!
The text of a value in messages and log records: `Value.render` quotes text, `Value.display` leaves text
that stands alone as it is. An integer with too many digits has no text, and neither has a value with one inside.
-/

namespace TripleQuery

inductive Fault where
  | notIterable
  | unhashableKey
  | pairLength
  | missingKey
  | noContext
  | placeNotTerm
  | notJson
  | numeralTooLong

structure ValueWords where
  null : String
  yes : String
  no : String

def ValueWords.capitalised : ValueWords := ⟨"None", "True", "False"⟩

def intChars (value : Int) : Except Fault (List Char) :=
  if Text.mostDigits < (Nat.toDigits 10 value.natAbs).length then .error .numeralTooLong else .ok (Text.ofInt value)

def renderTuple : List String → String
  | [item] => "(" ++ item ++ ",)"
  | items => "(" ++ ", ".intercalate items ++ ")"

def renderList (items : List String) : String := "[" ++ ", ".intercalate items ++ "]"

def renderDict (entries : List String) : String := "\x7b" ++ ", ".intercalate entries ++ "\x7d"

def Settings.render (settings : Settings) : String :=
  "EngineConfig(index_policy='" ++ settings.indexPolicy.name ++ "', unbound='" ++ settings.unbound.name ++ "')"

mutual

def Value.render : Value → Except Fault String
  | .null => .ok ValueWords.capitalised.null
  | .bool value => .ok (if value then ValueWords.capitalised.yes else ValueWords.capitalised.no)
  | .int value => (intChars value).map String.ofList
  | .float value => .ok (String.ofList (value.write .plain))
  | .text value => .ok (Text.quoted value)
  | .bytes value => .ok (Text.quotedBytes value)
  | .list items => (renderItems items).map renderList
  | .tuple items => (renderItems items).map renderTuple
  | .dict entries => (renderEntries entries).map renderDict
  | .bindings entries => (renderEntries entries).map fun entries => "Bindings(" ++ renderDict entries ++ ")"
  | .term value => value.render
  | .pattern value => value.render
  | .query value => value.render
  | .settings value => .ok value.render
termination_by structural value => value

def renderItems : List Value → Except Fault (List String)
  | [] => .ok []
  | item :: rest => do
    let item ← item.render
    let rest ← renderItems rest
    .ok (item :: rest)
termination_by structural items => items

def renderEntries : List (Value × Value) → Except Fault (List String)
  | [] => .ok []
  | (key, value) :: rest => do
    let key ← key.render
    let value ← value.render
    let rest ← renderEntries rest
    .ok ((key ++ ": " ++ value) :: rest)
termination_by structural entries => entries

def Term.render : Term → Except Fault String
  | .var name => .ok ("Var(name=" ++ Text.quoted name.name ++ ")")
  | .const value => value.render.map fun value => "Const(value=" ++ value ++ ")"
termination_by structural value => value

def Pattern.render : Pattern → Except Fault String
  | ⟨entity, attr, value⟩ => do
    let entity ← entity.render
    let attr ← attr.render
    let value ← value.render
    .ok ("Pattern(entity=" ++ entity ++ ", attribute=" ++ attr ++ ", value=" ++ value ++ ")")
termination_by structural value => value

def Query.render : Query → Except Fault String
  | ⟨find, body⟩ => do
    let find ← renderTerms find
    let body ← renderPatterns body
    .ok ("Query(find=" ++ renderTuple find ++ ", where=" ++ renderTuple body ++ ")")
termination_by structural value => value

def renderTerms : List Term → Except Fault (List String)
  | [] => .ok []
  | term :: rest => do
    let term ← term.render
    let rest ← renderTerms rest
    .ok (term :: rest)
termination_by structural terms => terms

def renderPatterns : List Pattern → Except Fault (List String)
  | [] => .ok []
  | pattern :: rest => do
    let pattern ← pattern.render
    let rest ← renderPatterns rest
    .ok (pattern :: rest)
termination_by structural patterns => patterns

end

namespace Value

def display : Value → Except Fault String
  | text value => .ok value
  | value => value.render

/-- What a value is called where its text is wanted and it has none. -/
def kindName : Value → String
  | null => "NoneType"
  | bool _ => "bool"
  | int _ => "int"
  | float _ => "float"
  | text _ => "str"
  | bytes _ => "bytes"
  | list _ => "list"
  | tuple _ => "tuple"
  | dict _ => "dict"
  | bindings _ => "Bindings"
  | term (.var _) => "Var"
  | term (.const _) => "Const"
  | pattern _ => "Pattern"
  | query _ => "Query"
  | settings _ => "EngineConfig"

def label (value : Value) : String :=
  match value.display with
  | .ok shown => shown
  | .error _ => "<unprintable " ++ value.kindName ++ " object>"

end Value

end TripleQuery
