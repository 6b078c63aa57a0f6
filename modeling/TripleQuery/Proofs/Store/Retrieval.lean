import TripleQuery.Proofs.Store.Grouping

/-!
What is found under a key. A lookup fails for what is no position of a field, and only for that. A key of a field
that can be a key leads to the stored facts that equal it there, in stored order. A dictionary leads to none,
although stored bindings can equal it, and neither does a position that is given as a float.
-/

namespace TripleQuery

private theorem Value.equals_int (value : Value) (n : Int) :
    value.equals (.int n) = true ↔ ∃ number, value.number? = some number ∧ number.equals (.int n) = true := by
  cases worth : value.number? with
  | some number =>
    rw [equals_of_number value (.int n) number worth]
    simp [number?]
  | none => cases value <;> simp_all [number?, equals]

private theorem Field.eq_of_position (position : Value) (left right : Field)
    (first : position.equals (.int left.position) = true) (second : position.equals (.int right.position) = true) :
    left = right := by
  obtain ⟨number, worth, near⟩ := (position.equals_int _).mp first
  obtain ⟨number', worth', near'⟩ := (position.equals_int _).mp second
  cases worth.symm.trans worth'
  have same := Number.equals_trans _ _ _ (Number.equals_symm _ _ near) near'
  cases left <;> cases right <;> simp_all [Number.equals, Field.position]

namespace Index

variable (field : Field) (key : Value)

private theorem bucket_of_mem_lookup (index : Index) (fact : Fact) (member : fact ∈ index.lookup key) :
    ∃ bucket ∈ index, bucket.key.equals key = true ∧ fact ∈ bucket.facts := by
  unfold lookup at member
  split at member
  · split at member
    next bucket found =>
      have near := List.find?_some found
      exact ⟨bucket, List.mem_of_find?_eq_some found, near, member⟩
    next => simp at member
  · simp at member

variable (facts : List Fact)

theorem mem_of_mem_lookup (fact : Fact) (member : fact ∈ (ofFacts field facts).lookup key) : fact ∈ facts := by
  obtain ⟨bucket, listed, _, inside⟩ := bucket_of_mem_lookup key _ fact member
  exact (held_ofFacts field facts bucket listed fact inside).1

variable (sound : ∀ fact ∈ facts, fact.WellFormed)

include sound

private theorem equals_of_mem_lookup (fact : Fact) (member : fact ∈ (ofFacts field facts).lookup key) :
    (fact.get field).equals key = true := by
  obtain ⟨bucket, listed, near, inside⟩ := bucket_of_mem_lookup key _ fact member
  obtain ⟨first, rest, contents, origin⟩ := keyed_ofFacts field facts bucket listed
  have stored := (held_ofFacts field facts bucket listed first (by simp [contents])).1
  rcases (held_ofFacts field facts bucket listed fact inside).2 with own | taken
  · exact own ▸ near
  · have formed : bucket.key.WellFormed := origin ▸ sound first stored field
    exact Value.equals_trans _ _ _ (Value.equals_symm _ _ formed taken) near

private theorem lookup_eq_filter (hashable : key.hashable = true) :
    (ofFacts field facts).lookup key = facts.filter fun fact => (fact.get field).equals key := by
  rw [← filter_lookup field key facts hashable (fun fact => (fact.get field).equals key)
    fun fact stored near => ⟨near, Value.equals_symm _ _ (sound fact stored field) near⟩]
  exact (List.filter_eq_self.mpr (equals_of_mem_lookup field key facts sound)).symm

end Index

namespace Store

variable (store : Store) (position key : Value)

private theorem lookup_of_position (field : Field) (placed : position.equals (.int field.position) = true) :
    store.lookup position key = .ok (if position.isFloat = true then [] else store.bucket field key) := by
  unfold lookup
  cases found : Field.all.find? fun field => position.equals (.int field.position) with
  | none =>
    have missed := List.find?_eq_none.mp found field (by cases field <;> simp [Field.all])
    exact absurd placed missed
  | some other =>
    have there := List.find?_some found
    rw [Field.eq_of_position position other field there placed]

private theorem lookup_eq_error (cause : StoreError) :
    store.lookup position key = .error cause ↔
      cause = .unknownField position ∧ ∀ field : Field, position.equals (.int field.position) = false := by
  constructor
  · intro failed
    unfold lookup at failed
    split at failed
    next missed =>
      refine ⟨(Except.error.inj failed).symm, fun field => ?_⟩
      simpa using List.find?_eq_none.mp missed field (by cases field <;> simp [Field.all])
    next => contradiction
  · rintro ⟨rfl, nowhere⟩
    have missed : (Field.all.find? fun field => position.equals (.int field.position)) = none :=
      List.find?_eq_none.mpr fun field _ => by simp [nowhere field]
    rw [lookup, missed]

variable (sound : store.WellFormed)

include sound

private theorem lookup_found (field : Field) (placed : position.equals (.int field.position) = true) :
    store.lookup position key = .ok (if position.isFloat = false ∧ key.hashable = true then
      store.facts.filter fun fact => (fact.get field).equals key else []) := by
  rw [lookup_of_position store position key field placed]
  cases float : position.isFloat with
  | true => simp
  | false =>
    cases hashable : key.hashable with
    | true => simp [bucket, index_eq, Index.lookup_eq_filter field key store.facts sound hashable]
    | false => simp [bucket_of_unhashable store field key hashable]

/-- A lookup fails exactly for what is the position of no field, and blames it. Otherwise it finds the stored facts
whose field equals the key, in stored order, and the size of the bucket is their number; but under a position that
is a float, or a key that cannot be a key, it finds nothing, which is all there is only when no stored field equals
the key. -/
theorem lookup_exact :
    (∀ cause, store.lookup position key = .error cause ↔
      cause = .unknownField position ∧ ∀ field : Field, position.equals (.int field.position) = false) ∧
    ∀ field : Field, position.equals (.int field.position) = true →
      ∃ found, store.lookup position key = .ok found ∧ store.bucketSize position key = .ok found.length ∧
        found = (if position.isFloat = false ∧ key.hashable = true then
          store.facts.filter fun fact => (fact.get field).equals key else []) ∧
        (found = (store.facts.filter fun fact => (fact.get field).equals key) ↔
          (position.isFloat = false ∧ key.hashable = true) ∨
            ∀ fact ∈ store.facts, (fact.get field).equals key = false) := by
  refine ⟨lookup_eq_error store position key, fun field placed => ?_⟩
  have found := lookup_found store position key sound field placed
  refine ⟨_, found, by rw [bucketSize, found, Except.map], rfl, ?_⟩
  split
  next complete => simp [complete]
  next blind =>
    rw [eq_comm, List.filter_eq_nil_iff, or_iff_right blind]
    simp only [Bool.not_eq_true]

end Store

def Store.noted : Store :=
  .ofFacts [⟨.text "alice", .text "noted", .bindings [(.text "?x", .int 1)], by decide⟩]

/-- A dictionary that equals the stored value but cannot be a key, and a float that equals the position of entities
but selects no index. -/
theorem Store.lookup_misses_noted :
    ((noted.facts.filter fun fact => fact.value.equals (.dict [(.text "?x", .int 1)])).length = 1 ∧
      noted.lookup (.int Field.value.position) (.dict [(.text "?x", .int 1)]) = .ok [] ∧
      noted.bucketSize (.int Field.value.position) (.dict [(.text "?x", .int 1)]) = .ok 0) ∧
    (Value.float (.zero false)).equals (.int Field.entity.position) = true ∧
      (noted.facts.filter fun fact => fact.entity.equals (.text "alice")).length = 1 ∧
      noted.lookup (.float (.zero false)) (.text "alice") = .ok [] := by
  have placed : (Value.float (.zero false)).equals (.int Field.entity.position) = true := by decide +kernel
  refine ⟨⟨rfl, rfl, rfl⟩, placed, rfl, ?_⟩
  rw [lookup_of_position noted _ _ .entity placed]
  rfl

theorem Store.lookup_exact_ones :
    ones.WellFormed ∧ (Value.bool false).equals (.int Field.entity.position) = true ∧
      ones.lookup (.bool false) (.int 1) = .ok (ones.facts.filter fun fact => fact.entity.equals (.int 1)) ∧
      ones.bucketSize (.bool false) (.int 1) = .ok 3 := by
  have placed : (Value.bool false).equals (.int Field.entity.position) = true := rfl
  obtain ⟨found, looked, size, held, _⟩ := (lookup_exact ones (.bool false) (.int 1) ones_wellFormed).2 .entity placed
  rw [if_pos ⟨rfl, rfl⟩] at held
  rw [held] at looked size
  exact ⟨ones_wellFormed, placed, looked, size⟩

end TripleQuery
