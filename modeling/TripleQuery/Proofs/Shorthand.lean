import TripleQuery.Proofs.Matching
import TripleQuery.Proofs.Store.Loading
import TripleQuery.Query

/-!
Queries and their shorthand. A part does not say whether it was written for a literal or for a term, so reading has
to guess: text with the mark is taken for a variable, and a term for itself. What is read is written back as it was
given. What is written is read back as it was exactly when no literal holds something that is taken otherwise.
-/

namespace TripleQuery

namespace Value

/-- What is not taken for a literal where it stands as a part: a term, and text that starts with the mark. -/
def isReserved : Value → Bool
  | term _ => true
  | text value => isMarked value
  | _ => false

theorem term?_of_isScalar (value : Value) (scalar : value.isScalar = true) : value.term? = none := by
  cases value with
  | term => cases scalar
  | _ => rfl

end Value

namespace Term

private theorem ofValue_var (name : Variable) : ofValue (.text name.name) = .ok (var name) := by
  rw [ofValue, if_pos name.marked, Variable.ofValue, dif_pos name.marked, dif_pos name.named]
  rfl

private theorem const_ne (term : Term) : const (.term term) ≠ term := by
  intro same
  have size : 1 + (1 + sizeOf term) = sizeOf term := congrArg sizeOf same
  omega

private theorem ofValue_const (literal : Value) :
    ofValue literal = .ok (const literal) ↔ literal.isReserved = false := by
  cases literal with
  | term term =>
    have other : ofValue (.term term) ≠ .ok (const (.term term)) := fun read =>
      const_ne term (Except.ok.inj read).symm
    simp [other, Value.isReserved]
  | text text =>
    cases marked : isMarked text with
    | false => simp [ofValue, marked, Value.isReserved]
    | true =>
      rw [ofValue, if_pos marked]
      cases Variable.ofValue (.text text) <;> simp [Except.map, marked, Value.isReserved]
  | _ => exact ⟨fun _ => rfl, fun _ => rfl⟩

private theorem ofValue_part (term : Term) :
    ofValue term.part = .ok term ↔ ∀ literal, term = const literal → literal.isReserved = false := by
  cases term with
  | var name => simp [part, ofValue_var]
  | const literal => simp [part, ofValue_const]

private theorem part_ofValue (part : Value) (term : Term) (plain : part.term? = none) (read : ofValue part = .ok term) :
    term.part = part := by
  cases part with
  | term => cases plain
  | text text =>
    rw [ofValue] at read
    split at read
    next marked =>
      rw [Variable.ofValue, dif_pos marked] at read
      split at read
      · cases read
        rfl
      · cases read
    · cases read
      rfl
  | _ =>
    cases read
    rfl

theorem parts_ofValue (parts : List Value) (terms : List Term) (plain : ∀ part ∈ parts, part.term? = none)
    (read : List.Forall₂ (fun part term => ofValue part = .ok term) parts terms) : terms.map part = parts := by
  rw [← List.forall₂_eq_eq_eq, List.forall₂_map_left_iff]
  apply List.Forall₂.flip
  exact forall₂_imp_left read fun part member term => part_ofValue part term (plain part member)

end Term

namespace Pattern

theorem ofValue_list (entity attr value : Value) :
    ofValue (.list [entity, attr, value]) = (do
      let entity ← Term.ofValue entity
      let attr ← Term.ofValue attr
      let value ← Term.ofValue value
      .ok (ofTerms entity attr value)) := rfl

theorem ofValue_sequence (value : Value) (items : List Value) (listed : value.sequence? = some items) :
    ofValue value = ofValue (.list items) := by
  cases value with
  | list =>
    cases listed
    rfl
  | tuple =>
    cases listed
    rcases items with _ | ⟨_, _ | ⟨_, _ | ⟨_, _ | _⟩⟩⟩ <;> rfl
  | _ => cases listed

private theorem parts_of_places (pattern : Pattern) (terms : List Term)
    (places : pattern.places = terms.map Value.term) :
    pattern.parts = .ok (terms.map Term.part) := by
  rw [parts, places, mapM_eq_ok, List.forall₂_map_left_iff, List.forall₂_map_right_iff, List.forall₂_same]
  intro term _
  rfl

theorem parts_eq_terms (pattern : Pattern) (parts : List Value) (wrote : pattern.parts = .ok parts) :
    parts = pattern.terms.map Term.part := by
  rw [Pattern.parts, mapM_eq_ok] at wrote
  rw [terms]
  generalize pattern.places = places at wrote ⊢
  induction wrote with
  | nil => rfl
  | @cons place part places parts here _ ih =>
    cases held : place.term? with
    | none => simp [held] at here
    | some term =>
      simp only [held, Except.ok.injEq] at here
      rw [List.filterMap_cons_some held, List.map_cons, ← ih, here]

theorem parts_ofValue (given : Value) (items : List Value) (pattern : Pattern)
    (listed : given.sequence? = some items) (plain : ∀ item ∈ items, item.term? = none)
    (read : ofValue given = .ok pattern) : pattern.parts = .ok items := by
  rw [ofValue_sequence given items listed] at read
  rcases ofValue_read _ pattern read with assembled | ⟨_, terms, same, _, each, places⟩
  · cases assembled
  · cases same
    rw [pattern.parts_of_places terms places, Term.parts_ofValue items terms plain each]

theorem mapM_parts_ofValue (given : List Value) (lists : List (List Value)) (patterns : List Pattern)
    (listed : List.Forall₂ (fun value items => value.sequence? = some items) given lists)
    (plain : ∀ items ∈ lists, ∀ item ∈ items, item.term? = none)
    (read : List.Forall₂ (fun value pattern => ofValue value = .ok pattern) given patterns) :
    patterns.mapM parts = .ok lists := by
  rw [mapM_eq_ok]
  induction read generalizing lists with
  | nil =>
    cases listed
    exact .nil
  | @cons value pattern given patterns here rest ih =>
    cases listed with
    | @cons _ items _ lists first others =>
      have head := parts_ofValue value items pattern first (plain items (by simp)) here
      exact .cons head (ih lists others fun items member => plain items (by simp [member]))

private theorem ofValue_parts (pattern : Pattern) (formed : pattern.Formed) :
    pattern.parts = .ok (pattern.terms.map Term.part) ∧
      (ofValue (.list (pattern.terms.map Term.part)) = .ok pattern ↔
        ∀ term ∈ pattern.terms, Term.ofValue term.part = .ok term) := by
  obtain ⟨entity, attr, value, rfl⟩ := (formed_iff pattern).mp formed
  have terms : (ofTerms entity attr value).terms = [entity, attr, value] := rfl
  refine ⟨rfl, ?_⟩
  rw [terms]
  simp only [List.map_cons, List.map_nil, ofValue_list, bind_eq_ok, Except.ok.injEq, ofTerms, Pattern.mk.injEq,
    Value.term.injEq, List.forall_mem_cons, List.not_mem_nil, false_implies, implies_true, and_true]
  constructor
  · rintro ⟨_, first, _, second, _, third, rfl, rfl, rfl⟩
    exact ⟨first, second, third⟩
  · rintro ⟨first, second, third⟩
    exact ⟨entity, first, attr, second, value, third, rfl, rfl, rfl⟩

end Pattern

namespace Query

theorem ofEntries_of_sequences (entries : Entries) (parts items : List Value)
    (hasFind : (entries.get? findKey).bind Value.sequence? = some parts)
    (hasBody : (entries.get? bodyKey).bind Value.sequence? = some items) :
    ofEntries entries = (do
      let find ← parts.mapM Term.ofValue
      let body ← items.mapM Pattern.ofValue
      .ok ⟨find, body⟩) := by
  rw [ofEntries, hasFind, hasBody]

theorem ofValue_of_mapping (given : Value) (entries : Entries) (mapping : given.mapping? = some entries) :
    ofValue given = ofEntries entries := by
  cases given with
  | dict | bindings =>
    cases mapping
    rfl
  | _ => cases mapping

theorem ofEntries_eq_ok (entries : Entries) (query : Query) :
    ofEntries entries = .ok query ↔ ∃ parts items,
      (entries.get? findKey).bind Value.sequence? = some parts ∧
      (entries.get? bodyKey).bind Value.sequence? = some items ∧
      List.Forall₂ (fun part term => Term.ofValue part = .ok term) parts query.find ∧
      List.Forall₂ (fun item pattern => Pattern.ofValue item = .ok pattern) items query.body := by
  obtain ⟨find, body⟩ := query
  constructor
  · intro read
    cases hasFind : (entries.get? findKey).bind Value.sequence? with
    | none => simp [ofEntries, hasFind] at read
    | some parts =>
      cases hasBody : (entries.get? bodyKey).bind Value.sequence? with
      | none => simp [ofEntries, hasFind, hasBody] at read
      | some items =>
        rw [ofEntries_of_sequences entries parts items hasFind hasBody] at read
        simp only [bind_eq_ok, mapM_eq_ok] at read
        obtain ⟨_, findRead, _, bodyRead, same⟩ := read
        cases same
        exact ⟨parts, items, rfl, rfl, findRead, bodyRead⟩
  · rintro ⟨parts, items, hasFind, hasBody, findRead, bodyRead⟩
    rw [ofEntries_of_sequences entries parts items hasFind hasBody]
    simp only [bind_eq_ok, mapM_eq_ok]
    exact ⟨find, findRead, body, bodyRead, rfl⟩

theorem shorthand_of_parts (query : Query) (find : List Value) (lists : List (List Value))
    (findParts : query.find.map Term.part = find) (bodyParts : query.body.mapM Pattern.parts = .ok lists) :
    query.shorthand = .ok (.dict [(findKey, .list find), (bodyKey, .list (lists.map Value.list))]) := by
  rw [shorthand, bodyParts, findParts]
  rfl

/-- No literal of a query holds a term or text that starts with the mark. -/
def EscapeFree (query : Query) : Prop :=
  ∀ literal, .const literal ∈ query.find ++ query.body.flatMap Pattern.terms → literal.isReserved = false

private theorem escapeFree_iff (query : Query) :
    query.EscapeFree ↔ (∀ term ∈ query.find, Term.ofValue term.part = .ok term) ∧
      ∀ pattern ∈ query.body, ∀ term ∈ pattern.terms, Term.ofValue term.part = .ok term := by
  simp only [EscapeFree, Term.ofValue_part, List.mem_append, List.mem_flatMap]
  constructor
  · intro free
    refine ⟨?_, ?_⟩
    · rintro term member literal rfl
      exact free literal (.inl member)
    · rintro pattern inside term member literal rfl
      exact free literal (.inr ⟨pattern, inside, member⟩)
  · rintro ⟨free, free'⟩ literal (member | ⟨pattern, inside, member⟩)
    · exact free _ member literal rfl
    · exact free' pattern inside _ member literal rfl

private theorem ofValue_shorthand (query : Query) (formed : ∀ pattern ∈ query.body, pattern.Formed) :
    ∃ given, query.shorthand = .ok given ∧ (ofValue given = .ok query ↔ query.EscapeFree) := by
  obtain ⟨find, body⟩ := query
  let lists := body.map fun pattern => pattern.terms.map Term.part
  have bodyParts : body.mapM Pattern.parts = .ok lists := by
    rw [mapM_eq_ok, List.forall₂_map_right_iff, List.forall₂_same]
    exact fun pattern member => (pattern.ofValue_parts (formed pattern member)).1
  have each : (∀ pattern ∈ body, Pattern.ofValue (.list (pattern.terms.map Term.part)) = .ok pattern) ↔
      ∀ pattern ∈ body, ∀ term ∈ pattern.terms, Term.ofValue term.part = .ok term :=
    forall₂_congr fun pattern member => (pattern.ofValue_parts (formed pattern member)).2
  refine ⟨_, shorthand_of_parts ⟨find, body⟩ _ lists rfl bodyParts, ?_⟩
  rw [ofValue_of_mapping _ _ rfl, ofEntries_of_sequences _ (find.map Term.part) (lists.map Value.list) rfl rfl,
    escapeFree_iff, ← each]
  simp only [bind_eq_ok, mapM_eq_ok, lists]
  constructor
  · rintro ⟨_, findRead, _, bodyRead, same⟩
    cases same
    simp only [List.map_map, List.forall₂_map_left_iff, List.forall₂_same] at findRead bodyRead
    exact ⟨findRead, bodyRead⟩
  · rintro ⟨findRead, bodyRead⟩
    refine ⟨find, ?_, body, ?_, rfl⟩
    · rwa [List.forall₂_map_left_iff, List.forall₂_same]
    · rwa [List.map_map, List.forall₂_map_left_iff, List.forall₂_same]

private theorem shorthand_ofEntries (entries : Entries) (query : Query) (read : ofEntries entries = .ok query) :
    ∃ find items,
      (entries.get? findKey).bind Value.sequence? = some find ∧
      (entries.get? bodyKey).bind Value.sequence? = some items ∧
      ∀ lists, List.Forall₂ (fun item parts => item.sequence? = some parts) items lists →
        (∀ part ∈ find, part.term? = none) → (∀ parts ∈ lists, ∀ part ∈ parts, part.term? = none) →
        query.shorthand = .ok (.dict [(findKey, .list find), (bodyKey, .list (lists.map Value.list))]) := by
  obtain ⟨find, items, hasFind, hasBody, findRead, bodyRead⟩ := (ofEntries_eq_ok entries query).mp read
  refine ⟨find, items, hasFind, hasBody, fun lists listed plainFind plainLists => ?_⟩
  have findParts := Term.parts_ofValue find query.find plainFind findRead
  exact query.shorthand_of_parts find lists findParts
    (Pattern.mapM_parts_ofValue items lists query.body listed plainLists bodyRead)

/-- Queries and their shorthand are inverses: from the query and back exactly where no literal holds a term or text
with the mark, and from the shorthand and back wherever no part of it is a term. -/
theorem shorthand_inverse :
    (∀ query : Query, (∀ pattern ∈ query.body, pattern.Formed) →
      ∃ given, query.shorthand = .ok given ∧ (ofValue given = .ok query ↔ query.EscapeFree)) ∧
    ∀ (given : Value) (entries : Entries) (query : Query), given.mapping? = some entries →
      ofValue given = .ok query → ∃ find items,
        (entries.get? findKey).bind Value.sequence? = some find ∧
        (entries.get? bodyKey).bind Value.sequence? = some items ∧
        ∀ lists, List.Forall₂ (fun item parts => item.sequence? = some parts) items lists →
          (∀ part ∈ find, part.term? = none) → (∀ parts ∈ lists, ∀ part ∈ parts, part.term? = none) →
          query.shorthand = .ok (.dict [(findKey, .list find), (bodyKey, .list (lists.map Value.list))]) := by
  refine ⟨ofValue_shorthand, fun given entries query mapping read => ?_⟩
  rw [ofValue_of_mapping given entries mapping] at read
  exact shorthand_ofEntries entries query read

def asked : Variable := ⟨"?asked", by decide, by decide⟩

def wrapped : Query :=
  ⟨[.var asked, .const (.tuple [.text "?asked", .var asked])],
    [.ofTerms (.var asked) (.const .null) (.const (.float .nan))]⟩

def wrappedShorthand : Value :=
  .bindings [(findKey, .tuple [.text "?asked", .tuple [.text "?asked", .var asked]]),
    (bodyKey, .list [.tuple [.text "?asked", .null, .float .nan]])]

theorem shorthand_inverse_wrapped :
    (∀ pattern ∈ wrapped.body, pattern.Formed) ∧ wrapped.EscapeFree ∧ ofValue wrappedShorthand = .ok wrapped ∧
      (∃ given, wrapped.shorthand = .ok given ∧ ofValue given = .ok wrapped) ∧
      wrapped.shorthand = .ok (.dict [(findKey, .list [.text "?asked", .tuple [.text "?asked", .var asked]]),
        (bodyKey, .list [.list [.text "?asked", .null, .float .nan]])]) := by
  have formed : ∀ pattern ∈ wrapped.body, pattern.Formed :=
    List.forall_mem_singleton.mpr (Pattern.ofTerms_formed _ _ _)
  have free : wrapped.EscapeFree := by
    intro literal member
    simp [wrapped, Pattern.terms, Pattern.places, Pattern.ofTerms, Value.term?] at member
    rcases member with rfl | rfl | rfl <;> rfl
  have read : ofValue wrappedShorthand = .ok wrapped := rfl
  obtain ⟨given, written, back⟩ := shorthand_inverse.1 wrapped formed
  obtain ⟨find, items, hasFind, hasBody, again⟩ := shorthand_inverse.2 wrappedShorthand _ wrapped rfl read
  cases hasFind
  cases hasBody
  refine ⟨formed, free, read, ⟨given, written, back.mpr free⟩, again [_] (.cons rfl .nil) ?_ ?_⟩
  · simp [Value.term?]
  · simp [Value.term?]

end Query

end TripleQuery
