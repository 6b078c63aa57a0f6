import TripleQuery.Store.Basic
import TripleQuery.Proofs.Value.Equivalence

/-!
Lookup in an index. One bucket is found for a key, and it can hold facts that equal the key as well as others
that do not; but it misses none: the facts in it that equal the key are all such facts of the store, in stored
order.
-/

namespace TripleQuery

def Fact.fits (field : Field) (key : Value) (fact : Fact) : Bool := key.equals (fact.get field)

namespace Index

variable (field : Field) (key : Value)

private theorem lookup_of_unhashable (index : Index) (unhashable : key.hashable = false) : index.lookup key = [] := by
  simp [lookup, unhashable]

private theorem lookup_nil : Index.lookup [] key = [] := by
  simp [lookup]

theorem lookup_cons (bucket : Bucket) (rest : Index) (hashable : key.hashable = true) :
    Index.lookup (bucket :: rest) key =
      if bucket.key.equals key = true then bucket.facts else Index.lookup rest key := by
  by_cases equal : bucket.key.equals key = true <;> simp [lookup, hashable, equal]

private theorem foldl_add_cons (facts : List Fact) (bucket : Bucket) (rest : Index) :
    facts.foldl (fun (index : Index) fact => index.add (fact.get field) fact) (bucket :: rest) =
      ⟨bucket.key, bucket.facts ++ facts.filter (Fact.fits field bucket.key)⟩ ::
        (facts.filter fun fact => !Fact.fits field bucket.key fact).foldl
          (fun (index : Index) fact => index.add (fact.get field) fact) rest := by
  induction facts generalizing bucket rest with
  | nil => simp
  | cons fact facts ih =>
    have home : Fact.fits field bucket.key fact = bucket.key.equals (fact.get field) := rfl
    by_cases equal : bucket.key.equals (fact.get field) = true <;> simp [add, home, equal, ih]

/-- The first fact founds a bucket for itself and all later facts that its key equals; the facts that are left
make the other buckets as they would alone. -/
theorem ofFacts_cons (fact : Fact) (rest : List Fact) :
    ofFacts field (fact :: rest) =
      ⟨fact.get field, fact :: rest.filter (Fact.fits field (fact.get field))⟩ ::
        ofFacts field (rest.filter fun other => !Fact.fits field (fact.get field) other) :=
  foldl_add_cons field rest ⟨fact.get field, [fact]⟩ []

theorem filter_lookup (facts : List Fact) (hashable : key.hashable = true) (wanted : Fact → Bool)
    (equal : ∀ fact ∈ facts, wanted fact = true →
      (fact.get field).equals key = true ∧ key.equals (fact.get field) = true) :
    ((ofFacts field facts).lookup key).filter wanted = facts.filter wanted := by
  match facts with
  | [] => simp [ofFacts, lookup_nil]
  | fact :: rest =>
    rw [ofFacts_cons, lookup_cons _ _ _ hashable]
    by_cases found : (fact.get field).equals key = true
    · -- What is wanted equals the key, so it is in the bucket that the key leads to.
      rw [if_pos found, List.filter_cons, List.filter_cons, List.filter_filter]
      have inside : ∀ other ∈ rest, (wanted other && Fact.fits field (fact.get field) other) = wanted other := by
        intro other member
        cases goes : wanted other with
        | false => rfl
        | true => exact Value.equals_trans _ _ _ found (equal other (by simp [member]) goes).2
      rw [List.filter_congr inside]
    · -- What is wanted cannot be in this bucket, whose key would then equal the one looked for.
      have unwanted : ¬ wanted fact = true := fun goes => found (equal fact (by simp) goes).1
      have past : ∀ other ∈ rest, (wanted other && !Fact.fits field (fact.get field) other) = wanted other := by
        intro other member
        cases goes : wanted other with
        | false => rfl
        | true =>
          have apart : ¬ Fact.fits field (fact.get field) other = true := fun near =>
            found (Value.equals_trans _ _ _ near (equal other (by simp [member]) goes).1)
          simpa using apart
      rw [if_neg found, filter_lookup _ hashable wanted fun other member => equal other (by
          simp [List.mem_of_mem_filter member]), List.filter_filter, List.filter_congr past,
        List.filter_cons_of_neg unwanted]
termination_by facts.length
decreasing_by exact Nat.lt_succ_of_le (List.length_filter_le _ _)

private theorem lookup_ofFacts (facts : List Fact) (hashable : key.hashable = true) (formed : key.WellFormed) :
    ((ofFacts field facts).lookup key).filter (Fact.fits field key) = facts.filter (Fact.fits field key) :=
  filter_lookup field key facts hashable _ fun _ _ near => ⟨Value.equals_symm _ _ formed near, near⟩

end Index

namespace Store

/-- What only ever comes of facts that equal the key is found in the bucket of the key alone. -/
theorem filterMap_bucket {α : Type} (store : Store) (field : Field) (key : Value) (found : Fact → Option α)
    (hashable : key.hashable = true) (formed : key.WellFormed)
    (fits : ∀ fact, (found fact).isSome = true → Fact.fits field key fact = true) :
    (store.bucket field key).filterMap found = store.facts.filterMap found := by
  have through (facts : List Fact) :
      facts.filterMap found = (facts.filter (Fact.fits field key)).filterMap found := by
    rw [List.filterMap_filter]
    apply List.filterMap_congr
    intro fact _
    cases result : found fact with
    | none => simp
    | some value => simp [fits fact (by simp [result])]
  rw [through, through store.facts, bucket, index_eq, Index.lookup_ofFacts field key _ hashable formed]

theorem bucket_of_unhashable (store : Store) (field : Field) (key : Value) (unhashable : key.hashable = false) :
    store.bucket field key = [] :=
  Index.lookup_of_unhashable key (store.index field) unhashable

end Store

end TripleQuery
