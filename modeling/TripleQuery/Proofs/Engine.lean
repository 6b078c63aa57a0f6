import TripleQuery.Proofs.Assembly
import TripleQuery.Proofs.Document.Roundtrip
import TripleQuery.Proofs.JoinOrder
import TripleQuery.Proofs.Store.Rows

/-!
Engines over loaded rows. What results about stores and queries ask for holds by itself here: rows in which no mapping
holds a key twice make a well-formed store, shorthand without such mappings is read as well-formed patterns, and the
literals of a document are scalars.
-/

namespace TripleQuery

namespace Query

theorem ofValue_wellFormed (given : Value) (query : Query) (formed : given.WellFormed)
    (read : ofValue given = .ok query) : ∀ pattern ∈ query.body, pattern.WellFormed := by
  intro pattern member
  cases mapping : given.mapping? with
  | some entries =>
    rw [ofValue_of_mapping given entries mapping, ofEntries_eq_ok] at read
    obtain ⟨_, items, _, hasBody, _, bodyRead⟩ := read
    obtain ⟨list, present, listed⟩ := Option.bind_eq_some_iff.mp hasBody
    obtain ⟨item, inside, here⟩ := forall₂_right_mem bodyRead pattern member
    have inBody := given.everywhere_of_get? Value.KeysApart formed entries bodyKey list mapping present
    exact Pattern.ofValue_wellFormed item pattern
      (list.everywhere_of_listItems? Value.KeysApart inBody items item
        (Document.listItems?_of_sequence? list items listed) inside) here
  | none =>
    cases given with
    | query value =>
      cases read
      obtain ⟨_, _, inside⟩ := formed
      have places : ∀ place ∈ pattern.places, place.WellFormed := fun place among =>
        inside place (List.mem_append_right _ (List.mem_flatMap.mpr ⟨pattern, member, among⟩))
      exact Pattern.ofValue_wellFormed (.pattern pattern) pattern (.intro _ nofun places) rfl
    | dict | bindings => cases mapping
    | _ => cases read

private theorem run_answers (query : Query) (store : Store) (settings : Settings) (verbose : Bool)
    (formed : ∀ pattern ∈ query.body, pattern.Formed) (sound : ∀ pattern ∈ query.body, pattern.WellFormed) :
    (query.run verbose store settings).result =
      if settings.unbound = .reject ∧ query.unboundVariables ≠ [] then
        .error (.unbound (.inQuery (query.unboundVariables.map Variable.name)))
      else
        .ok ((if query.body.all (fun pattern => pattern.readable settings.indexPolicy) = true then
          store.answers query.body else []).map fun context => query.find.map context.shown) := by
  split
  next missing => exact query.run_rejected verbose store settings missing
  next accepted =>
    have joined := store.join_result settings.indexPolicy verbose query.body formed sound
    exact (query.run_settled store settings verbose formed accepted _ joined).1

private theorem unboundVariables_perm (query other : Query) (find : query.find = other.find)
    (permuted : query.body.Perm other.body) : query.unboundVariables = other.unboundVariables := by
  have bound (name : Variable) : name ∈ query.boundVariables ↔ name ∈ other.boundVariables := by
    simp only [boundVariables, List.mem_eraseDups, List.mem_flatMap, permuted.mem_iff]
  rw [unboundVariables, unboundVariables, find]
  apply List.filter_congr
  intro name _
  rw [Bool.not_inj_iff, Bool.eq_iff_iff, List.contains_iff_mem, List.contains_iff_mem, bound]

end Query

namespace QueryDocument

variable (document : QueryDocument) (sound : document.Sound) (query : Query)
  (made : document.toQuery = .ok query)
include sound made

private theorem formed_toQuery : ∀ pattern ∈ query.body, pattern.Formed := by
  intro pattern member
  have body := (mapM_eq_ok _ _ _).mp (document.body_toQuery sound query made)
  obtain ⟨parts, _, wrote⟩ := forall₂_left_mem body pattern member
  by_contra unformed
  rw [pattern.parts_unformed unformed] at wrote
  cases wrote

private theorem scalar_toQuery :
    ∀ pattern ∈ query.body, (pattern.literals.all fun literal => literal.2.isScalar) = true := by
  intro pattern member
  refine List.all_eq_true.mpr fun literal holds => ?_
  have placed := pattern.place_mem_places literal.1
  rw [(pattern.literal?_eq_some _ _).mp ((pattern.mem_literals _ _).mp holds)] at placed
  have term : .const literal.2 ∈ pattern.terms := List.mem_filterMap.mpr ⟨_, placed, rfl⟩
  refine document.isScalar_of_sound sound literal.2 ?_
  rw [document.parts_eq sound query made]
  exact List.mem_map.mpr ⟨.const literal.2, List.mem_append_right _ (List.mem_flatMap.mpr ⟨pattern, member, term⟩), rfl⟩

end QueryDocument

namespace Engine

theorem load_eq_ok (rows : List Value) (settings : Settings) (engine : Engine) :
    (load (.list rows) settings).result = .ok engine ↔
      Store.ofRows rows = .ok engine.store ∧ engine.settings = settings := by
  obtain ⟨store, settings'⟩ := engine
  simp only [load, Outcome.result_bind, bind_eq_ok, Store.load_result, mapError_eq_ok]
  constructor
  · rintro ⟨store, read, same⟩
    cases same
    exact ⟨read, rfl⟩
  · rintro ⟨read, rfl⟩
    exact ⟨store, read, rfl⟩

section Shorthand

variable (engine : Engine) (verbose : Bool)

/-- A pattern is matched with all facts in their order, unless a literal that the policy looks up cannot be a key. -/
theorem search_result (given : Value) (sound : given.WellFormed) (pattern : Pattern)
    (read : Pattern.ofValue given = .ok pattern) (formed : pattern.Formed) :
    (engine.search verbose given).result =
      .ok (if pattern.readable engine.settings.indexPolicy = true then
        engine.store.facts.filterMap (pattern.matched (some .empty)) else []) := by
  rw [search, read]
  exact engine.store.search_result engine.settings.indexPolicy pattern verbose formed
    (Pattern.ofValue_wellFormed given pattern sound read) (some .empty)

/-- A query is rejected for what it leaves unbound, or has a row for every answer. -/
theorem query_result (given : Value) (sound : given.WellFormed) (query : Query)
    (read : Query.ofValue given = .ok query) (formed : ∀ pattern ∈ query.body, pattern.Formed) :
    (engine.query verbose given).result =
      if engine.settings.unbound = .reject ∧ query.unboundVariables ≠ [] then
        .error (.unbound (.inQuery (query.unboundVariables.map Variable.name)))
      else
        .ok ((if query.body.all (fun pattern => pattern.readable engine.settings.indexPolicy) = true then
          engine.store.answers query.body else []).map fun context => query.find.map context.shown) := by
  rw [Engine.query, Query.runShorthand, read]
  exact query.run_answers engine.store engine.settings verbose formed
    (Query.ofValue_wellFormed given query sound read)

private theorem queryDocument_result (document : Value) (query : Query) (read : Query.ofDocument document = .ok query) :
    (engine.queryDocument verbose document).result =
      if engine.settings.unbound = .reject ∧ query.unboundVariables ≠ [] then
        .error (.unbound (.inQuery (query.unboundVariables.map Variable.name)))
      else .ok ((engine.store.answers query.body).map fun context => query.find.map context.shown) := by
  have opened : (engine.queryDocument verbose document).result =
      (query.run verbose engine.store engine.settings).result := by
    rw [queryDocument, read]
    rfl
  rw [Query.ofDocument, bind_eq_ok] at read
  obtain ⟨checked, accepted, made⟩ := read
  have shaped := Document.check_sound document checked ((mapError_eq_ok ..).mp accepted)
  have literals (pattern : Pattern) (member : pattern ∈ query.body) :=
    pattern.literal_of_scalars (checked.scalar_toQuery shaped query made pattern member)
  have readable : query.body.all (fun pattern => pattern.readable engine.settings.indexPolicy) = true :=
    List.all_eq_true.mpr fun pattern member => pattern.readable_of_hashable _
      fun field literal holds => (literals pattern member field literal holds).1
  rw [opened, query.run_answers engine.store engine.settings verbose (checked.formed_toQuery shaped query made)
    fun pattern member field literal holds => (literals pattern member field literal holds).2, if_pos readable]

end Shorthand

section Loaded

variable (rows : List Value) (sound : ∀ raw ∈ rows, raw.WellFormed) (settings : Settings) (engine : Engine)
  (loaded : (load (.list rows) settings).result = .ok engine)
include sound loaded

private theorem wellFormed_of_load : engine.store.WellFormed :=
  Store.ofRows_wellFormed rows engine.store sound ((load_eq_ok rows settings engine).mp loaded).1

variable (verbose : Bool) (document : Value) (query : Query) (read : Query.ofDocument document = .ok query)
include read

/-- What a document asks of loaded rows depends neither on the index policy nor on what is noted. Its rows are those of
all choices of facts, one for each pattern, that fit: literals are the same as their fields, and the places of a
variable hold the same value, whichever of them comes first. -/
theorem queryDocument_exact :
    rows.map Value.items? = engine.store.facts.map (fun fact => some fact.fields) ∧
    (∀ choice ∈ engine.store.choices query.body, choice.Fits ↔
      Meeting.LiteralsAgree choice.meetings ∧ choice.occurrences.Pairwise Occurrence.Compatible) ∧
    (engine.queryDocument verbose document).result =
      if settings.unbound = .reject ∧ query.unboundVariables ≠ [] then
        .error (.unbound (.inQuery (query.unboundVariables.map Variable.name)))
      else .ok ((engine.store.answers query.body).map fun context => query.find.map context.shown) := by
  have formed := wellFormed_of_load rows sound settings engine loaded
  obtain ⟨made, rfl⟩ := (load_eq_ok rows settings engine).mp loaded
  refine ⟨?_, fun choice member => ?_, engine.queryDocument_result verbose document query read⟩
  · obtain ⟨facts, listed, same⟩ := (Store.ofRows_eq_ok rows engine.store).mp made
    rw [← same]
    exact ((Fact.ofRows_verbatim 0 rows facts).mp listed).2
  · exact choice.fits_iff_compatible fun chosen inside =>
      formed chosen.2 (engine.store.mem_facts_of_choices query.body choice member chosen inside)

-- Index keys `true` and `1` are equal, but a truth value never matches a number.
example : ∃ engine,
    (load (.list [.list [.bool true, .text "is", .text "yes"], .list [.int 1, .text "is", .text "one"]])
      ⟨.selective, .reject⟩).result = .ok engine ∧
    (engine.queryDocument true (QueryDocument.toValue
      ⟨[.text "?what"], [[.int 1, .text "is", .text "?what"]]⟩)).result = .ok [[.text "one"]] :=
  ⟨_, rfl, rfl⟩

/-- Documents that list the same patterns in another order have the same rows in another order, up to values that
count as the same. -/
theorem queryDocument_perm (other : Value) (query' : Query) (read' : Query.ofDocument other = .ok query')
    (find : query.find = query'.find) (permuted : query.body.Perm query'.body) (answer : List Row)
    (answered : (engine.queryDocument verbose document).result = .ok answer) :
    ∃ answer' matched : List Row, (engine.queryDocument verbose other).result = .ok answer' ∧
      matched.Perm answer' ∧ List.Forall₂ (List.Forall₂ Value.Alike) answer matched := by
  have formed := wellFormed_of_load rows sound settings engine loaded
  have unbound := query.unboundVariables_perm query' find permuted
  rw [queryDocument_result engine verbose document query read] at answered
  split at answered
  · cases answered
  next accepted =>
    cases answered
    rw [unbound] at accepted
    obtain ⟨matched, moved, alike⟩ := matching_of_rel _ _ _
      (engine.store.rows_perm formed query.find query.body query'.body permuted)
    refine ⟨_, matched, ?_, moved, alike⟩
    rw [queryDocument_result engine verbose other query' read', if_neg accepted, find]

end Loaded

end Engine

end TripleQuery
