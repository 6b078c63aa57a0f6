import TripleQuery.Store.Fact
import TripleQuery.Value.Equal

/-!
Stores: facts in the order given, repeated ones included, with an index for each field. A store is built
once and only read afterwards. An index groups the facts by the value of its field, groups in the order in which
their keys first appear and facts in the order in which they are stored. Keys are told apart by equality, so `1`,
`1.0` and `true` share a group and each NaN has its own.
-/

namespace TripleQuery

/-- The facts that share a key; the key kept is that of the first of them. -/
structure Bucket where
  key : Value
  facts : List Fact

abbrev Index := List Bucket

namespace Index

def add (index : Index) (key : Value) (fact : Fact) : Index :=
  match index with
  | [] => [⟨key, [fact]⟩]
  | bucket :: rest =>
    if bucket.key.equals key then ⟨bucket.key, bucket.facts ++ [fact]⟩ :: rest
    else bucket :: Index.add rest key fact

def ofFacts (field : Field) (facts : List Fact) : Index :=
  facts.foldl (fun index fact => index.add (fact.get field) fact) []

/-- The facts under a key. What cannot be a key has none. -/
def lookup (index : Index) (key : Value) : List Fact :=
  if key.hashable then
    match index.find? fun bucket => bucket.key.equals key with
    | some bucket => bucket.facts
    | none => []
  else []

end Index

structure Store where
  facts : List Fact
  entities : Index
  attrs : Index
  values : Index
  entities_eq : entities = Index.ofFacts .entity facts
  attrs_eq : attrs = Index.ofFacts .attr facts
  values_eq : values = Index.ofFacts .value facts

namespace Store

def ofFacts (facts : List Fact) : Store where
  facts := facts
  entities := Index.ofFacts .entity facts
  attrs := Index.ofFacts .attr facts
  values := Index.ofFacts .value facts
  entities_eq := rfl
  attrs_eq := rfl
  values_eq := rfl

def ofRows (rows : List Value) : Except StoreError Store := (Fact.ofRows 0 rows).map ofFacts

def index (store : Store) : Field → Index
  | .entity => store.entities
  | .attr => store.attrs
  | .value => store.values

theorem index_eq (store : Store) (field : Field) : store.index field = Index.ofFacts field store.facts := by
  cases field with
  | entity => exact store.entities_eq
  | attr => exact store.attrs_eq
  | value => exact store.values_eq

def size (store : Store) : Nat := store.facts.length

def bucket (store : Store) (field : Field) (key : Value) : List Fact := (store.index field).lookup key

/-- The facts under a key of a field that is given by its position. A position is found by equality, but
a position that is a float selects no index and leads to no facts. -/
def lookup (store : Store) (position key : Value) : Except StoreError (List Fact) :=
  match Field.all.find? fun field => position.equals (.int field.position) with
  | none => .error (.unknownField position)
  | some field => .ok (if position.isFloat then [] else store.bucket field key)

def bucketSize (store : Store) (position key : Value) : Except StoreError Nat :=
  (store.lookup position key).map List.length

def render (store : Store) : String := "Database(triples=" ++ toString store.size ++ ")"

end Store

end TripleQuery
