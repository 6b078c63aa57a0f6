import TripleQuery.Document.Reader
import TripleQuery.Projection

/-!
Engines. An engine is a store with the settings that everything asked of it runs under.
-/

namespace TripleQuery

def Settings.ofValues (indexPolicy unbound : Value) : Except SettingsError Settings := do
  let some indexPolicy := IndexPolicy.ofValue? indexPolicy | .error .indexPolicy
  let some unbound := UnboundPolicy.ofValue? unbound | .error .unbound
  .ok ⟨indexPolicy, unbound⟩

namespace Store

def load (rows : Value) : Outcome Store :=
  match rows.items? with
  | none => .fail (.fault .notIterable)
  | some rows => do
    let store ← (ofRows rows).mapError StoreError.raised
    Outcome.note (.built store.size store.entities.length store.attrs.length store.values.length)
    pure store

end Store

structure Engine where
  store : Store
  settings : Settings

namespace Engine

def load (rows : Value) (settings : Settings) : Outcome Engine := do
  let store ← Store.load rows
  pure ⟨store, settings⟩

def ofParts (store : Option Store) (settings : Option Settings) : Except EngineError Engine :=
  match store, settings with
  | none, _ => .error .notStore
  | some _, none => .error .notSettings
  | some store, some settings => .ok ⟨store, settings⟩

def query (verbose : Bool) (engine : Engine) (query : Value) : Outcome (List Row) :=
  Query.runShorthand verbose query engine.store engine.settings

def queryDocument (verbose : Bool) (engine : Engine) (document : Value) : Outcome (List Row) := do
  let query ← (Query.ofDocument document).mapError QueryError.raised
  query.run verbose engine.store engine.settings

def join (verbose : Bool) (engine : Engine) (patterns : Value) : Outcome (List Bindings) := do
  let body ← Store.bodyOfValue patterns
  engine.store.join verbose engine.settings.indexPolicy body

def search (verbose : Bool) (engine : Engine) (pattern : Value) : Outcome (List Bindings) := do
  let pattern ← (Pattern.ofValue pattern).mapError QueryError.raised
  engine.store.search verbose engine.settings.indexPolicy pattern (some .empty)

end Engine

end TripleQuery
