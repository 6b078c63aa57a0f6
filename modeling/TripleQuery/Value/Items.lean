import TripleQuery.Value.Basic

/-!
What a value yields when it is gone through one item at a time, and which values are mappings. Which values can be
keys of an index or of a dictionary: all but lists and dictionaries, and all but what holds one of them anywhere
inside.
-/

namespace TripleQuery

namespace Pattern

def places (pattern : Pattern) : List Value := [pattern.entity, pattern.attr, pattern.value]

end Pattern

namespace Value

/-- The items of a value that has any: those of a sequence, the characters of a text, the numbers of
bytes, the keys of a mapping, the places of a pattern. -/
def items? : Value → Option (List Value)
  | list items | tuple items => some items
  | text value => some (value.toList.map fun c => text (String.ofList [c]))
  | bytes value => some (value.map fun byte => int byte.toNat)
  | dict entries | bindings entries => some (entries.map Prod.fst)
  | pattern value => some value.places
  | null | bool _ | int _ | float _ | term _ | query _ | settings _ => none

def mapping? : Value → Option Entries
  | dict entries | bindings entries => some entries
  | _ => none

def sequence? : Value → Option (List Value)
  | list items | tuple items => some items
  | _ => none

def isString : Value → Bool
  | text _ | bytes _ => true
  | _ => false

end Value

mutual

def Value.hashable : Value → Bool
  | .list _ | .dict _ => false
  | .tuple items => hashableItems items
  | .bindings entries => hashableEntries entries
  | .term value => value.hashable
  | .pattern value => value.hashable
  | .query value => value.hashable
  | .null | .bool _ | .int _ | .float _ | .text _ | .bytes _ | .settings _ => true
termination_by structural value => value

def hashableItems : List Value → Bool
  | [] => true
  | item :: rest => item.hashable && hashableItems rest
termination_by structural items => items

def hashableEntries : List (Value × Value) → Bool
  | [] => true
  | (key, value) :: rest => key.hashable && value.hashable && hashableEntries rest
termination_by structural entries => entries

def Term.hashable : Term → Bool
  | .var _ => true
  | .const value => value.hashable
termination_by structural value => value

def Pattern.hashable : Pattern → Bool
  | ⟨entity, attr, value⟩ => entity.hashable && attr.hashable && value.hashable
termination_by structural value => value

def Query.hashable : Query → Bool
  | ⟨find, body⟩ => hashableTerms find && hashablePatterns body
termination_by structural value => value

def hashableTerms : List Term → Bool
  | [] => true
  | term :: rest => term.hashable && hashableTerms rest
termination_by structural terms => terms

def hashablePatterns : List Pattern → Bool
  | [] => true
  | pattern :: rest => pattern.hashable && hashablePatterns rest
termination_by structural patterns => patterns

end

end TripleQuery
