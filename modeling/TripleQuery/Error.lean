import TripleQuery.Document.Issue
import TripleQuery.Value.Render

/-!
Causes of failure, one type for each part of the library and `Error` over all of them. A cause holds what
its message needs; `Error.message?` gives the sentence, which faults of use do not have. To raise a failure its
sentence has to be written, and that fails where a value in it has no text.
-/

namespace TripleQuery

inductive StoreError where
  | textRow (row : Nat) (raw : Value)
  | rowWithoutItems (row : Nat) (raw : Value)
  | rowArity (row : Nat) (items : List Value)
  | unhashable (row : Nat) (field : Field) (item : Value)
  | unknownField (field : Value)

inductive QueryError where
  | variableName (given : Value)
  | emptyVariableName
  | patternShape (given : Value)
  | patternArity (items : List Value)
  | findTerm (given : Value)
  | bodyPattern (given : Value)
  | notMapping
  | findNotList
  | bodyNotList
  | matchArity (parts fields : List Value)
  | document (issues : List DocumentIssue)

inductive UnboundError where
  | inQuery (names : List String)
  | inContext (name : String)

inductive SettingsError where
  | indexPolicy
  | unbound
  | unknownIndexPolicy (given : Value)
  | unknownUnbound (given : Value)

inductive EngineError where
  | notStore
  | notSettings

inductive Error where
  | store (cause : StoreError)
  | query (cause : QueryError)
  | unbound (cause : UnboundError)
  | settings (cause : SettingsError)
  | engine (cause : EngineError)
  | alreadyBound (name : Value)
  | fault (cause : Fault)

def StoreError.message : StoreError → Except Fault String
  | textRow row raw =>
    raw.render.map fun text => "Triple at row " ++ toString row ++ " must be a sequence, got string: " ++ text
  | rowWithoutItems row raw =>
    raw.render.map fun text => "Triple at row " ++ toString row ++ " is not iterable: " ++ text
  | rowArity row items =>
    (Value.tuple items).render.map fun text =>
      "Triple at row " ++ toString row ++ " must have 3 fields, got " ++ toString items.length ++ ": " ++ text
  | unhashable row field item =>
    item.render.map fun text => "Triple at row " ++ toString row ++ " has unhashable " ++ field.name ++ ": " ++ text
  | unknownField field => field.display.map fun text => "Unknown triple field: " ++ text

def QueryError.documentMessage (count : Nat) : String :=
  "Invalid query document: " ++ toString count ++ " validation error" ++ (if count = 1 then "" else "s") ++
    " for QueryDocument"

def QueryError.message : QueryError → Except Fault String
  | variableName given => given.render.map fun text => "Var name must start with '?': " ++ text
  | emptyVariableName => .ok "Var name must be non-empty."
  | patternShape given => given.render.map fun text => "Pattern must be a sequence of 3 parts: " ++ text
  | patternArity items =>
    (Value.list items).render.map fun text =>
      "Pattern arity mismatch: expected 3, got " ++ toString items.length ++ ": " ++ text
  | findTerm given => given.render.map fun text => "find parts must be terms: " ++ text
  | bodyPattern given => given.render.map fun text => "where entries must be Pattern: " ++ text
  | notMapping => .ok "Query must be a mapping with 'find' and 'where'."
  | findNotList => .ok "Query 'find' must be a list."
  | bodyNotList => .ok "Query 'where' must be a list."
  | matchArity parts fields => do
    let parts ← (Value.tuple parts).render
    let fields ← (Value.tuple fields).render
    .ok ("Pattern and triple must both have 3 parts: " ++ parts ++ " vs " ++ fields)
  | document issues => .ok (documentMessage issues.length)

def UnboundError.message : UnboundError → String
  | inQuery names => "find references variables not bound by where: " ++ ", ".intercalate names
  | inContext name => "Unbound variable in projection: " ++ name

def SettingsError.message : SettingsError → Except Fault String
  | indexPolicy =>
    .ok ("index_policy must be one of: " ++ ", ".intercalate (IndexPolicy.all.map IndexPolicy.name) ++ ".")
  | unbound =>
    .ok ("unbound must be one of: " ++ ", ".intercalate (UnboundPolicy.all.map UnboundPolicy.name) ++ ".")
  | unknownIndexPolicy given => given.display.map fun text => "Unknown index policy: " ++ text
  | unknownUnbound given => given.display.map fun text => "Unknown unbound policy: " ++ text

def EngineError.message : EngineError → String
  | notStore => "db must be Database"
  | notSettings => "config must be EngineConfig"

namespace Error

/-- The sentence for a failure, where its values have a text; a fault of use has none. -/
def message? : Error → Except Fault (Option String)
  | store cause => cause.message.map some
  | query cause => cause.message.map some
  | unbound cause => .ok (some cause.message)
  | settings cause => cause.message.map some
  | engine cause => .ok (some cause.message)
  | alreadyBound name => name.display.map fun text => some ("variable already bound: " ++ text)
  | fault _ => .ok none

/-- What a failure is raised as. Its sentence is written first, and a fault met there is raised in its place. -/
def raised (error : Error) : Error :=
  match error.message? with
  | .ok _ => error
  | .error cause => fault cause

end Error

def StoreError.raised (cause : StoreError) : Error := (Error.store cause).raised

def QueryError.raised (cause : QueryError) : Error := (Error.query cause).raised

def SettingsError.raised (cause : SettingsError) : Error := (Error.settings cause).raised

end TripleQuery
