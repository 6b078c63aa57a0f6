import TripleQuery.Candidates
import TripleQuery.Matching

/-!
Joins. A search matches one pattern with its candidates under one context; a join runs the patterns one after
the other, each under every context that the patterns before it left, and ends early when none is left.
-/

namespace TripleQuery

namespace Store

def search (verbose : Bool) (store : Store) (policy : IndexPolicy) (pattern : Pattern)
    (context : Option Bindings) : Outcome (List Bindings) := do
  let facts ← store.select verbose policy pattern
  let contexts ← (pattern.matchFacts context facts).mapError QueryError.raised
  pure contexts

def searchAll (verbose : Bool) (store : Store) (policy : IndexPolicy) (pattern : Pattern) :
    List Bindings → Outcome (List Bindings)
  | [] => pure []
  | context :: rest => do
    let found ← store.search verbose policy pattern (some context)
    let others ← store.searchAll verbose policy pattern rest
    pure (found ++ others)

/-- Runs the patterns from a step on. Each step is noted with the parts of its pattern. -/
def joinFrom (verbose : Bool) (store : Store) (policy : IndexPolicy) (step : Nat) :
    List Pattern → List Bindings → Outcome (List Bindings)
  | [], contexts => pure contexts
  | pattern :: rest, contexts => do
    let next ← store.searchAll verbose policy pattern contexts
    let parts ← pattern.parts.mapError Error.fault
    Outcome.note (.joined step parts next.length)
    if next.isEmpty then pure [] else store.joinFrom verbose policy (step + 1) rest next

def join (verbose : Bool) (store : Store) (policy : IndexPolicy) (body : List Pattern) :
    Outcome (List Bindings) :=
  store.joinFrom verbose policy 0 body [.empty]

def searchShorthand (verbose : Bool) (store : Store) (pattern context policy : Value) :
    Outcome (List Bindings) := do
  let pattern ← (Pattern.ofValue pattern).mapError QueryError.raised
  let context ← (Bindings.ofValue context).mapError Error.fault
  let policy ← (IndexPolicy.ofValue policy).mapError SettingsError.raised
  store.search verbose policy pattern context

def bodyOfValue (patterns : Value) : Except Error (List Pattern) :=
  match patterns.items? with
  | none => .error (.fault .notIterable)
  | some items => (items.mapM Pattern.ofValue).mapError QueryError.raised

/-- A join of shorthand. All patterns are read first; the policy is looked at when there is one. -/
def joinShorthand (verbose : Bool) (store : Store) (patterns policy : Value) : Outcome (List Bindings) := do
  let body ← bodyOfValue patterns
  if body.isEmpty then pure [.empty]
  else
    let policy ← (IndexPolicy.ofValue policy).mapError SettingsError.raised
    store.join verbose policy body

end Store

end TripleQuery
