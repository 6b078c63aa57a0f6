import TripleQuery.Bindings
import TripleQuery.Pattern
import TripleQuery.Store.Fact

/-!
Matching a pattern with a fact. A literal matches the same value; a variable matches what it is bound to, and
a variable that is not bound yet is bound to the field. What is bound is never read as shorthand.
-/

namespace TripleQuery

namespace Term

def matchValue (term : Term) (value : Value) (context : Bindings) : Option Bindings :=
  match term with
  | const literal => if literal.same value then some context else none
  | var name =>
    match context.value? name with
    | some bound => if bound.same value then some context else none
    | none => some (context.bind name value)

end Term

def matchPart (part value : Value) : Option Bindings → Except QueryError (Option Bindings)
  | none => .ok none
  | some context => (Term.ofValue part).map fun term => term.matchValue value context

def matchParts : List Value → List Value → Option Bindings → Except QueryError (Option Bindings)
  | part :: parts, value :: values, context => do
    let context ← matchPart part value context
    matchParts parts values context
  | _, _, context => .ok context

namespace Pattern

def matchFact (pattern : Pattern) (fact : Fact) (context : Option Bindings) :
    Except QueryError (Option Bindings) :=
  matchParts pattern.places fact.fields context

def matchFacts (pattern : Pattern) (context : Option Bindings) :
    List Fact → Except QueryError (List Bindings)
  | [] => .ok []
  | fact :: rest => do
    let found ← pattern.matchFact fact context
    let others ← pattern.matchFacts context rest
    .ok (found.toList ++ others)

/-- Matches shorthand with any three values. Both are taken apart and counted before the context is
looked at. -/
def matchShorthand (pattern triple context : Value) : Except Error (Option Bindings) := do
  let some parts := pattern.items? | .error (.fault .notIterable)
  let some fields := triple.items? | .error (.fault .notIterable)
  if parts.length ≠ 3 ∨ fields.length ≠ 3 then .error (QueryError.matchArity parts fields).raised
  else
    let context ← (Bindings.ofValue context).mapError Error.fault
    (matchParts parts fields context).mapError QueryError.raised

def matchShorthandPart (part value context : Value) : Except Error (Option Bindings) := do
  let context ← (Bindings.ofValue context).mapError Error.fault
  (matchPart part value context).mapError QueryError.raised

end Pattern

end TripleQuery
