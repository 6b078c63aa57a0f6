import TripleQuery.Proofs.Query
import TripleQuery.Proofs.Store.Retrieval

/-!
The two index policies against each other. They find the same unless a pattern has a literal that cannot be a
key behind a first one that can: the fixed policy then matches through the first literal, and a dictionary
matches stored bindings with equal entries, while the selective policy settles on the empty bucket of the other.
-/

namespace TripleQuery

namespace Pattern

private theorem readable_fixed_of_selective (pattern : Pattern) (readable : pattern.readable .selective = true) :
    pattern.readable .fixed = true := by
  cases first : pattern.literals.head? with
  | none => simp [Pattern.readable, first]
  | some literal =>
    simpa [Pattern.readable, first] using List.all_eq_true.mp readable literal (List.mem_of_head? first)

end Pattern

private theorem gates_agree_iff {α : Type} (outer inner : Bool) (narrower : inner = true → outer = true)
    (items : List α) :
    (if outer = true then items else []) = (if inner = true then items else []) ↔
      outer = false ∨ inner = true ∨ items = [] := by
  cases inner with
  | true => simp [narrower rfl]
  | false => cases outer <;> simp

namespace Store

variable (store : Store) (verbose : Bool)

private theorem search_policies_iff (pattern : Pattern) (formed : pattern.Formed) (sound : pattern.WellFormed)
    (context : Option Bindings) :
    (store.search verbose .fixed pattern context).result =
        (store.search verbose .selective pattern context).result ↔
      pattern.readable .fixed = false ∨ pattern.readable .selective = true ∨
        ∀ fact ∈ store.facts, pattern.matchFact fact context = .ok none := by
  have nothing : store.facts.filterMap (pattern.matched context) = [] ↔
      ∀ fact ∈ store.facts, pattern.matchFact fact context = .ok none := by
    simp only [List.filterMap_eq_nil_iff, pattern.matchFact_eq formed, Except.ok.injEq]
  rw [search_result store .fixed pattern verbose formed sound,
    search_result store .selective pattern verbose formed sound, ← nothing, Except.ok.injEq]
  exact gates_agree_iff _ _ pattern.readable_fixed_of_selective _

private theorem join_policies_iff (body : List Pattern) (formed : ∀ pattern ∈ body, pattern.Formed)
    (sound : ∀ pattern ∈ body, pattern.WellFormed) :
    (store.join verbose .fixed body).result = (store.join verbose .selective body).result ↔
      (∃ pattern ∈ body, pattern.readable .fixed = false) ∨
        (∀ pattern ∈ body, pattern.readable .selective = true) ∨
          ∀ choice ∈ store.choices body, ¬ choice.Fits := by
  have nothing : store.answers body = [] ↔ ∀ choice ∈ store.choices body, ¬ choice.Fits := by
    simp [answers]
  rw [join_result store .fixed verbose body formed sound,
    join_result store .selective verbose body formed sound, ← nothing, Except.ok.injEq]
  have narrower : body.all (fun pattern => pattern.readable .selective) = true →
      body.all (fun pattern => pattern.readable .fixed) = true := by
    intro readable
    apply List.all_eq_true.mpr
    intro pattern member
    exact pattern.readable_fixed_of_selective (List.all_eq_true.mp readable pattern member)
  rw [gates_agree_iff _ _ narrower, List.all_eq_false, List.all_eq_true]
  simp only [Bool.not_eq_true]

end Store

private theorem mapM_eq_nil {α β ε : Type} (next : α → Except ε β) (items : List α) :
    items.mapM next = .ok [] ↔ items = [] := by
  cases items with
  | nil => exact ⟨fun _ => rfl, fun _ => rfl⟩
  | cons item rest =>
    cases first : next item with
    | error => simp [first, bind, Except.bind]
    | ok value => cases others : rest.mapM next <;> simp [first, others, bind, Except.bind, pure, Except.pure]

namespace Query

variable (verbose : Bool) (query : Query) (store : Store)

private theorem run_policies_iff (unbound : UnboundPolicy) (formed : ∀ pattern ∈ query.body, pattern.Formed)
    (sound : ∀ pattern ∈ query.body, pattern.WellFormed) :
    (query.run verbose store ⟨.fixed, unbound⟩).result =
        (query.run verbose store ⟨.selective, unbound⟩).result ↔
      (unbound = .reject ∧ query.unboundVariables ≠ []) ∨
        (store.join verbose .fixed query.body).result = (store.join verbose .selective query.body).result := by
  by_cases missing : unbound = .reject ∧ query.unboundVariables ≠ []
  · have rejected (policy : IndexPolicy) := run_rejected verbose query store ⟨policy, unbound⟩ missing
    rw [rejected .fixed, rejected .selective]
    exact ⟨fun _ => .inl missing, fun _ => rfl⟩
  · have fixed := store.join_result .fixed verbose query.body formed sound
    have selective := store.join_result .selective verbose query.body formed sound
    rw [run_result verbose query store ⟨.fixed, unbound⟩ missing _ fixed,
      run_result verbose query store ⟨.selective, unbound⟩ missing _ selective, fixed, selective,
      Except.ok.injEq, or_iff_right missing]
    have empty (contexts : List Bindings) := mapM_eq_nil
      (fun context : Bindings => (context.project unbound query.find).result) contexts
    split <;> split
    · exact ⟨fun _ => rfl, fun _ => rfl⟩
    · exact empty _
    · exact eq_comm.trans ((empty _).trans eq_comm)
    · exact ⟨fun _ => rfl, fun _ => rfl⟩

end Query

/-- Where the two policies agree: a search does when the first literal cannot be a key, or all literals can, or
nothing matches; a query does when it is rejected before its join, or one of its patterns has a first literal
that cannot be a key, or all literals of all patterns can, or no choice of facts fits. -/
theorem policies_agree_iff (store : Store) (verbose : Bool) :
    (∀ (pattern : Pattern) (context : Option Bindings), pattern.Formed → pattern.WellFormed →
      ((store.search verbose .fixed pattern context).result =
          (store.search verbose .selective pattern context).result ↔
        pattern.readable .fixed = false ∨ pattern.readable .selective = true ∨
          ∀ fact ∈ store.facts, pattern.matchFact fact context = .ok none)) ∧
    ∀ (query : Query) (unbound : UnboundPolicy), (∀ pattern ∈ query.body, pattern.Formed) →
      (∀ pattern ∈ query.body, pattern.WellFormed) →
      ((query.run verbose store ⟨.fixed, unbound⟩).result =
          (query.run verbose store ⟨.selective, unbound⟩).result ↔
        (unbound = .reject ∧ query.unboundVariables ≠ []) ∨
          (∃ pattern ∈ query.body, pattern.readable .fixed = false) ∨
          (∀ pattern ∈ query.body, pattern.readable .selective = true) ∨
          ∀ choice ∈ store.choices query.body, ¬ choice.Fits) := by
  constructor
  · intro pattern context formed sound
    exact store.search_policies_iff verbose pattern formed sound context
  · intro query unbound formed sound
    rw [query.run_policies_iff verbose store unbound formed sound,
      store.join_policies_iff verbose query.body formed sound]

def Pattern.noted : Pattern :=
  .ofTerms (.var ⟨"?who", by decide, by decide⟩) (.const (.text "noted"))
    (.const (.dict [(.text "?x", .int 1)]))

private theorem Pattern.noted_wellFormed : Pattern.noted.WellFormed := by
  intro field literal holds
  cases field with
  | entity => cases holds
  | attr =>
    cases holds
    exact Value.wellFormed_of_isScalar _ rfl
  | value =>
    cases holds
    refine .intro _ ?_ ?_
    · rintro entries ⟨⟩
      exact List.pairwise_singleton _ _
    · intro part inside
      exact part.wellFormed_of_isScalar (by
        simp only [Value.components, List.flatMap_cons, List.flatMap_nil, List.append_nil, List.mem_cons,
          List.not_mem_nil, or_false] at inside
        rcases inside with rfl | rfl <;> rfl)

/-- The dictionary matches the stored context, so the fixed policy finds the fact through its attribute; the
selective policy reads the bucket of the dictionary, which is empty because a dictionary cannot be a key. -/
theorem policies_differ :
    (Store.noted.search false .fixed .noted (some .empty)).result = .ok [⟨[(.text "?who", .text "alice")]⟩] ∧
      (Store.noted.search false .selective .noted (some .empty)).result = .ok [] := ⟨rfl, rfl⟩

theorem policies_agree_iff_noted :
    Pattern.noted.Formed ∧ Pattern.noted.WellFormed ∧
      (Store.noted.search false .fixed .noted (some .empty)).result ≠
        (Store.noted.search false .selective .noted (some .empty)).result ∧
      (Store.noted.search false .fixed .noted none).result =
        (Store.noted.search false .selective .noted none).result := by
  have formed : Pattern.noted.Formed := Pattern.ofTerms_formed _ _ _
  have agree (context : Option Bindings) :=
    (policies_agree_iff Store.noted false).1 .noted context formed Pattern.noted_wellFormed
  refine ⟨formed, Pattern.noted_wellFormed, ?_, (agree none).mpr (.inr (.inr fun _ _ => rfl))⟩
  rw [ne_eq, agree]
  rintro (blocked | free | none)
  · cases blocked
  · cases free
  · cases none _ List.mem_cons_self

end TripleQuery
