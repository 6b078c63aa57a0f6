import TripleQuery.Error
import TripleQuery.Value.Items

/-!
Facts: an entity, an attribute and a value, each of which can be the key of an index.
-/

namespace TripleQuery

structure Fact where
  entity : Value
  attr : Value
  value : Value
  keys : entity.hashable = true ∧ attr.hashable = true ∧ value.hashable = true

namespace Fact

def get (fact : Fact) : Field → Value
  | .entity => fact.entity
  | .attr => fact.attr
  | .value => fact.value

def fields (fact : Fact) : List Value := [fact.entity, fact.attr, fact.value]

def ofFields (row : Nat) (entity attr value : Value) : Except StoreError Fact :=
  if entityKey : entity.hashable = true then
    if attrKey : attr.hashable = true then
      if valueKey : value.hashable = true then .ok ⟨entity, attr, value, entityKey, attrKey, valueKey⟩
      else .error (.unhashable row .value value)
    else .error (.unhashable row .attr attr)
  else .error (.unhashable row .entity entity)

/-- The fact that a row holds. Text and bytes are never taken apart. -/
def ofRow (row : Nat) (raw : Value) : Except StoreError Fact :=
  if raw.isString then .error (.textRow row raw)
  else match raw.items? with
    | none => .error (.rowWithoutItems row raw)
    | some [entity, attr, value] => ofFields row entity attr value
    | some items => .error (.rowArity row items)

def ofRows (row : Nat) : List Value → Except StoreError (List Fact)
  | [] => .ok []
  | raw :: rest => do
    let fact ← ofRow row raw
    let facts ← ofRows (row + 1) rest
    .ok (fact :: facts)

end Fact

end TripleQuery
