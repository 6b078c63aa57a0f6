import TripleQuery.Query
import TripleQuery.Proofs.Join

/-!
What a join binds. Matching a pattern adds its variables to those that a context binds and no others, whether or
not they were bound before, so every context that a join leaves binds exactly the variables of its patterns.
-/

namespace TripleQuery

namespace Bindings

/-- The keys of the context are these names and nothing else. -/
def Binds (context : Bindings) (names : List Variable) : Prop :=
  ∀ key, key ∈ context.entries.map Prod.fst ↔ ∃ name ∈ names, key = .text name.name

theorem binds_empty : empty.Binds [] := by
  intro key
  simp [empty]

theorem Binds.congr {context : Bindings} {names names' : List Variable} (binds : context.Binds names)
    (same : ∀ name, name ∈ names ↔ name ∈ names') : context.Binds names' := by
  intro key
  simp only [binds key, same]

theorem value?_isSome (context : Bindings) (name : Variable) :
    (context.value? name).isSome = true ↔ .text name.name ∈ context.entries.map Prod.fst := by
  simp only [value?, get?, Entries.get?, Option.isSome_map, List.find?_isSome, Value.equals_text,
    List.mem_map]

theorem Binds.value?_isSome {context : Bindings} {names : List Variable} (binds : context.Binds names)
    (name : Variable) : (context.value? name).isSome = true ↔ name ∈ names := by
  rw [Bindings.value?_isSome, binds]
  constructor
  · rintro ⟨other, member, same⟩
    have equal : name = other := Variable.ext_name (Value.text.inj same)
    rw [equal]
    exact member
  · intro member
    exact ⟨name, member, rfl⟩

theorem Binds.bind {context : Bindings} {names : List Variable} (binds : context.Binds names)
    (name : Variable) (value : Value) : (context.bind name value).Binds (names ++ [name]) := by
  intro key
  have before := binds key
  simp only [Bindings.bind, List.map_append, List.map_cons, List.map_nil, List.mem_append, List.mem_singleton,
    before]
  constructor
  · rintro (⟨other, member, same⟩ | same)
    · exact ⟨other, .inl member, same⟩
    · exact ⟨name, .inr rfl, same⟩
  · rintro ⟨other, member | rfl, same⟩
    · exact .inl ⟨other, member, same⟩
    · exact .inr same

theorem Binds.matchValue {context next : Bindings} {names : List Variable} (binds : context.Binds names)
    (term : Term) (value : Value) (goes : term.matchValue value context = some next) :
    next.Binds (names ++ term.name?.toList) := by
  cases term with
  | const literal =>
    simp only [Term.matchValue, Option.ite_none_right_eq_some, Option.some.injEq] at goes
    rw [← goes.2]
    simpa [Term.name?] using binds
  | var name =>
    cases known : context.value? name with
    | some held =>
      simp only [Term.matchValue, known, Option.ite_none_right_eq_some, Option.some.injEq] at goes
      have bound : name ∈ names := (binds.value?_isSome name).mp (by simp [known])
      rw [← goes.2]
      apply binds.congr
      intro other
      simp only [Term.name?, Option.toList_some, List.mem_append, List.mem_singleton]
      exact ⟨.inl, fun member => member.elim id fun same => same ▸ bound⟩
    | none =>
      simp only [Term.matchValue, known, Option.some.injEq] at goes
      rw [← goes]
      exact binds.bind name value

theorem Binds.meet {context next : Bindings} {names : List Variable} (binds : context.Binds names)
    (meetings : List Meeting) (goes : context.meet meetings = some next) :
    next.Binds (names ++ meetings.filterMap fun meeting => meeting.1.name?) := by
  induction meetings generalizing context names with
  | nil =>
    cases goes
    simpa using binds
  | cons meeting rest ih =>
    obtain ⟨term, value⟩ := meeting
    rw [meet_cons, Option.bind_eq_some_iff] at goes
    obtain ⟨middle, first, others⟩ := goes
    have grown := ih (binds.matchValue term value first) others
    apply grown.congr
    intro name
    cases named : term.name? <;> simp [named]

theorem Binds.matched {context next : Bindings} {names : List Variable} (binds : context.Binds names)
    (pattern : Pattern) (fact : Fact) (goes : pattern.matched (some context) fact = some next) :
    next.Binds (names ++ pattern.vars) := by
  apply (binds.meet (pattern.meetings fact) goes).congr
  intro name
  rw [List.mem_append, List.mem_append, pattern.mem_vars fact]

end Bindings

namespace Store

variable (store : Store) (policy : IndexPolicy)

theorem advance_binds (pattern : Pattern) (contexts : List Bindings) (names : List Variable)
    (binds : ∀ context ∈ contexts, context.Binds names) :
    ∀ next ∈ store.advance policy pattern contexts, next.Binds (names ++ pattern.vars) := by
  intro next member
  obtain ⟨context, inside, member⟩ := List.mem_flatMap.mp member
  obtain ⟨fact, _, goes⟩ := List.mem_filterMap.mp member
  exact (binds context inside).matched pattern fact goes

end Store

/-- Every context of the join of a query binds exactly the variables that the query says it binds. -/
theorem Query.join_binds (query : Query) (formed : ∀ pattern ∈ query.body, pattern.Formed) (store : Store)
    (policy : IndexPolicy) (verbose : Bool) :
    ∃ contexts, (store.join verbose policy query.body).result = .ok contexts ∧
      ∀ context ∈ contexts, context.Binds query.boundVariables := by
  obtain ⟨contexts, joined, binds⟩ := store.join_invariant policy verbose
    (fun earlier context => context.Binds (earlier.flatMap Pattern.vars)) Bindings.binds_empty
    (fun earlier pattern context fact next binds _ goes => by simpa using binds.matched pattern fact goes)
    query.body formed
  refine ⟨contexts, joined, fun context member => (binds context member).congr fun name => ?_⟩
  rw [boundVariables, List.mem_eraseDups]

end TripleQuery
