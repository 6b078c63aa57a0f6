import TripleQuery.Error
import TripleQuery.Value.Items

/-!
Terms, patterns and their shorthand. A term written as a part is a variable's name or the literal itself; a part
read as a term is a variable when it is text that starts with the mark, and a literal otherwise. A pattern has
three places. Read from shorthand each place is a term; assembled from parts a place can hold any value, which then
counts neither as a variable nor as a literal.
-/

namespace TripleQuery

namespace Variable

def ofValue : Value → Except QueryError Variable
  | .text name =>
    if marked : isMarked name = true then
      if named : name ≠ bareMark then .ok ⟨name, marked, named⟩ else .error .emptyVariableName
    else .error (.variableName (.text name))
  | given => .error (.variableName given)

end Variable

namespace Value

def isVariable : Value → Bool
  | term (.var _) => true
  | text value => isMarked value
  | _ => false

end Value

namespace Term

def ofValue : Value → Except QueryError Term
  | .term value => .ok value
  | .text value =>
    if isMarked value then (Variable.ofValue (.text value)).map var else .ok (const (.text value))
  | value => .ok (const value)

def part : Term → Value
  | var name => .text name.name
  | const value => value

def name? : Term → Option Variable
  | var name => some name
  | const _ => none

end Term

namespace Value

def term? : Value → Option Term
  | term value => some value
  | _ => none

end Value

namespace Pattern

def ofTerms (entity attr value : Term) : Pattern := ⟨.term entity, .term attr, .term value⟩

def place (pattern : Pattern) : Field → Value
  | .entity => pattern.entity
  | .attr => pattern.attr
  | .value => pattern.value

/-- Every place holds a term. -/
def Formed (pattern : Pattern) : Prop := ∀ field, (pattern.place field).term?.isSome

/-- The pattern that a value is shorthand for: three parts, each read as a term. Text and bytes are never
taken apart. -/
def ofValue : Value → Except QueryError Pattern
  | .pattern value => .ok value
  | given =>
    if given.isString then .error (.patternShape given)
    else match given.items? with
      | none => .error (.patternShape given)
      | some [entity, attr, value] => do
        let entity ← Term.ofValue entity
        let attr ← Term.ofValue attr
        let value ← Term.ofValue value
        .ok (ofTerms entity attr value)
      | some items => .error (.patternArity items)

def vars (pattern : Pattern) : List Variable :=
  (pattern.places.filterMap fun place => place.term?.bind Term.name?).eraseDups

def parts (pattern : Pattern) : Except Fault (List Value) :=
  pattern.places.mapM fun place =>
    match place.term? with
    | some term => .ok term.part
    | none => .error .placeNotTerm

def literal? (pattern : Pattern) (field : Field) : Option Value :=
  match pattern.place field with
  | .term (.const value) => some value
  | _ => none

theorem place_mem_places (pattern : Pattern) (field : Field) : pattern.place field ∈ pattern.places := by
  cases field <;> simp [place, places]

theorem literal?_eq_some (pattern : Pattern) (field : Field) (literal : Value) :
    pattern.literal? field = some literal ↔ pattern.place field = .term (.const literal) := by
  unfold literal?
  split <;> simp_all

def literals (pattern : Pattern) : List (Field × Value) :=
  Field.all.filterMap fun field => (pattern.literal? field).map (field, ·)

end Pattern

end TripleQuery
