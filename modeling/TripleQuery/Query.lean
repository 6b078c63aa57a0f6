import TripleQuery.Pattern
import TripleQuery.Value.Equal

/-!
Queries: a projection over patterns that all have to match. `Query.ofValue` reads the shorthand of two
lists under `find` and `where`, `Query.shorthand` writes it, and the variables of the two parts are compared
before anything is run.
-/

namespace TripleQuery

namespace Query

def findKey : Value := .text "find"

def bodyKey : Value := .text "where"

def termOf (given : Value) : Except QueryError Term :=
  match given with
  | .term value => .ok value
  | _ => .error (.findTerm given)

def patternOf (given : Value) : Except QueryError Pattern :=
  match given with
  | .pattern value => .ok value
  | _ => .error (.bodyPattern given)

def ofElements (find body : List Value) : Except QueryError Query := do
  let find ← find.mapM termOf
  let body ← body.mapM patternOf
  .ok ⟨find, body⟩

/-- The query that a mapping is shorthand for. Both lists are looked at before any part of them. -/
def ofEntries (entries : Entries) : Except QueryError Query := do
  let some find := (entries.get? findKey).bind Value.sequence? | .error .findNotList
  let some body := (entries.get? bodyKey).bind Value.sequence? | .error .bodyNotList
  let find ← find.mapM Term.ofValue
  let body ← body.mapM Pattern.ofValue
  .ok ⟨find, body⟩

def ofValue : Value → Except QueryError Query
  | .query value => .ok value
  | given =>
    match given.mapping? with
    | some entries => ofEntries entries
    | none => .error .notMapping

def boundVariables (query : Query) : List Variable := (query.body.flatMap Pattern.vars).eraseDups

def boundNames (query : Query) : List String :=
  (query.boundVariables.map Variable.name).mergeSort fun left right => decide (left ≤ right)

def unboundVariables (query : Query) : List Variable :=
  (query.find.filterMap Term.name?).filter fun name => !query.boundVariables.contains name

def shorthand (query : Query) : Except Fault Value := do
  let body ← query.body.mapM Pattern.parts
  .ok (.dict [(findKey, .list (query.find.map Term.part)), (bodyKey, .list (body.map Value.list))])

end Query

end TripleQuery
