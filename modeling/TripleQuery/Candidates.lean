import TripleQuery.Outcome
import TripleQuery.Pattern
import TripleQuery.Store.Basic

/-!
Candidates: the facts worth matching with a pattern. One literal field picks one index bucket, by the policy;
buckets are never intersected, and a pattern without literals is matched with every fact. Only text names a policy.
-/

namespace TripleQuery

def IndexPolicy.ofValue? : Value → Option IndexPolicy
  | .text name => named? name
  | _ => none

def IndexPolicy.ofValue (given : Value) : Except SettingsError IndexPolicy :=
  match ofValue? given with
  | some policy => .ok policy
  | none => .error (.unknownIndexPolicy given)

namespace Store

def leastLiteral? (store : Store) : List (Field × Value) → Option (Field × Value)
  | [] => none
  | first :: rest =>
    let size := fun (literal : Field × Value) => (store.bucket literal.1 literal.2).length
    some (rest.foldl (fun best next => if size next < size best then next else best) first)

def chosenLiteral? (store : Store) (policy : IndexPolicy) (pattern : Pattern) : Option (Field × Value) :=
  match policy with
  | .fixed => pattern.literals.head?
  | .selective => store.leastLiteral? pattern.literals

def candidates (store : Store) (policy : IndexPolicy) (pattern : Pattern) : List Fact :=
  match store.chosenLiteral? policy pattern with
  | none => store.facts
  | some (field, key) => store.bucket field key

def candidatesEvent (store : Store) (policy : IndexPolicy) (pattern : Pattern) (parts : List Value) : Event :=
  match store.chosenLiteral? policy pattern with
  | none => .fullScan parts
  | some (field, key) => .indexRead field key (store.bucket field key).length parts

/-- The candidates of a pattern. With `verbose` they are noted, for which the pattern has to be written
as parts. -/
def select (verbose : Bool) (store : Store) (policy : IndexPolicy) (pattern : Pattern) :
    Outcome (List Fact) := do
  if verbose then
    let parts ← pattern.parts.mapError Error.fault
    Outcome.note (store.candidatesEvent policy pattern parts)
  pure (store.candidates policy pattern)

def selectShorthand (verbose : Bool) (store : Store) (pattern policy : Value) : Outcome (List Fact) := do
  let policy ← (IndexPolicy.ofValue policy).mapError SettingsError.raised
  let pattern ← (Pattern.ofValue pattern).mapError QueryError.raised
  store.select verbose policy pattern

end Store

end TripleQuery
