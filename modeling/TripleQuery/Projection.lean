import TripleQuery.Join
import TripleQuery.Query

/-!
Projection of contexts into rows, and whole queries. A row has one value for each projected term. Whether a
query leaves a projected variable unbound is known from the query alone.

A row can be asked of any value in place of a context: what a variable stands for is looked up where the value
is a mapping, and where it is not, the value can still say that it does not hold the name.
-/

namespace TripleQuery

def UnboundPolicy.ofValue? : Value → Option UnboundPolicy
  | .text name => named? name
  | _ => none

def UnboundPolicy.ofValue (given : Value) : Except SettingsError UnboundPolicy :=
  match ofValue? given with
  | some policy => .ok policy
  | none => .error (.unknownUnbound given)

abbrev Row := List Value

namespace UnboundPolicy

def resolve (policy : UnboundPolicy) (name : Variable) : Outcome Value :=
  match policy with
  | absent => pure .null
  | warn => do
    Outcome.warn ⟨name.name⟩
    pure .null
  | reject => .fail (.unbound (.inContext name.name))

end UnboundPolicy

def occursIn (part : List Char) : List Char → Bool
  | [] => part.isEmpty
  | c :: rest => part.isPrefixOf (c :: rest) || occursIn part rest

namespace Value

/-- What a variable stands for in a value used as a context, if the value is a mapping or does not hold the
name. A collection or a text that does hold it has nothing to give for it. -/
def binding? (context : Value) (name : Variable) : Except Fault (Option Value) :=
  let held := fun (holds : Bool) => if holds then .error .noContext else .ok none
  match context with
  | bindings entries | dict entries => .ok (Entries.get? entries (text name.name))
  | list items | tuple items => held (items.any fun item => item.equals (text name.name))
  | pattern value => held (value.places.any fun place => place.equals (text name.name))
  | text value => held (occursIn name.name.toList value.toList)
  | _ => .error .noContext

end Value

namespace Term

def project (policy : UnboundPolicy) (context : Value) : Term → Outcome Value
  | const value => pure value
  | var name => do
    match ← (context.binding? name).mapError Error.fault with
    | some value => pure value
    | none => policy.resolve name

end Term

namespace Bindings

def project (policy : UnboundPolicy) (find : List Term) (context : Bindings) : Outcome Row :=
  find.mapM (Term.project policy context.toValue)

end Bindings

namespace Row

def ofParts (policy : UnboundPolicy) (context : Value) (parts : List Value) : Outcome Row :=
  parts.mapM fun part => do
    let term ← (Term.ofValue part).mapError QueryError.raised
    term.project policy context

def ofItems (policy : UnboundPolicy) (context find : Value) : Outcome Row :=
  match find.items? with
  | none => .fail (.fault .notIterable)
  | some parts => ofParts policy context parts

def ofShorthand (context find policy : Value) : Outcome Row := do
  let policy ← (UnboundPolicy.ofValue policy).mapError SettingsError.raised
  ofItems policy context find

end Row

namespace Query

/-- The rows of a query, one for each context of its join. Where unbound variables are errors they are
found before the join. -/
def run (verbose : Bool) (query : Query) (store : Store) (settings : Settings) : Outcome (List Row) := do
  let missing := query.unboundVariables
  if settings.unbound = .reject ∧ missing ≠ [] then
    .fail (.unbound (.inQuery (missing.map Variable.name)))
  else
    let contexts ← store.join verbose settings.indexPolicy query.body
    let rows ← contexts.mapM (Bindings.project settings.unbound query.find)
    Outcome.note (.answered rows.length)
    pure rows

def runShorthand (verbose : Bool) (query : Value) (store : Store) (settings : Settings) :
    Outcome (List Row) := do
  let query ← (ofValue query).mapError QueryError.raised
  query.run verbose store settings

end Query

end TripleQuery
