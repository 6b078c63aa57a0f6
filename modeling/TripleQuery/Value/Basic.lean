import TripleQuery.Binary64.Basic
import TripleQuery.Settings

/-!
Ground values and the query terms that can themselves be values. Facts, literals and results are of one
dynamic type, since a store accepts whatever can be compared. The name of a variable is its mark, the question
mark, and at least one character after it; text that starts with the mark stands for a variable wherever patterns
are written in shorthand.
-/

namespace TripleQuery

inductive Field where
  | entity
  | attr
  | value
deriving DecidableEq

namespace Field

def all : List Field := [entity, attr, value]

def position : Field → Nat
  | entity => 0
  | attr => 1
  | value => 2

def name : Field → String
  | entity => "entity"
  | attr => "attribute"
  | value => "value"

end Field

def variableMark : Char := '?'

def isMarked (text : String) : Bool := text.toList.head? == some variableMark

def bareMark : String := String.ofList [variableMark]

structure Variable where
  name : String
  marked : isMarked name = true
  named : name ≠ bareMark
deriving DecidableEq

namespace Variable

theorem ext_name {left right : Variable} (same : left.name = right.name) : left = right := by
  cases left
  cases right
  cases same
  rfl

end Variable

mutual

/-- A dynamic value. Dictionaries and bindings keep their entries in insertion order. -/
inductive Value where
  | null
  | bool (value : Bool)
  | int (value : Int)
  | float (value : Binary64)
  | text (value : String)
  | bytes (value : List UInt8)
  | list (items : List Value)
  | tuple (items : List Value)
  | dict (entries : List (Value × Value))
  | bindings (entries : List (Value × Value))
  | term (value : Term)
  | pattern (value : Pattern)
  | query (value : Query)
  | settings (value : Settings)

inductive Term where
  | var (name : Variable)
  | const (value : Value)

/-- A template for a fact. Its three places are values, because a pattern can be assembled from parts
that were never turned into terms. -/
structure Pattern where
  entity : Value
  attr : Value
  value : Value

structure Query where
  find : List Term
  body : List Pattern

end

abbrev Entries := List (Value × Value)

namespace Value

instance : Inhabited Value := ⟨null⟩

def var (name : Variable) : Value := term (.var name)

def const (value : Value) : Value := term (.const value)

def isScalar : Value → Bool
  | null | bool _ | int _ | float _ | text _ => true
  | _ => false

def isBool : Value → Bool
  | bool _ => true
  | _ => false

def isFloat : Value → Bool
  | float _ => true
  | _ => false

def isBlank : Value → Bool
  | null => true
  | bool value => !value
  | int value => value == 0
  | float value => value.isZero
  | text value => value.isEmpty
  | bytes value => value.isEmpty
  | list items | tuple items => items.isEmpty
  | dict entries | bindings entries => entries.isEmpty
  | term _ | pattern _ | query _ | settings _ => false

end Value

end TripleQuery
