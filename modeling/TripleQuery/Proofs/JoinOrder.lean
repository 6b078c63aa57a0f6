import TripleQuery.Proofs.Compatibility
import TripleQuery.Proofs.Query
import Mathlib.Data.Multiset.Bind

/-!
The order of the patterns of a query. Each order of the patterns leads to the same choices in another order, so
the rows of two orders correspond one to one, and corresponding rows agree in every place.
-/

namespace TripleQuery

section Correspondence

variable {α β γ δ : Type}

private theorem rel_filterMap (related : γ → δ → Prop) (left : α → Option γ) (right : β → Option δ)
    (lefts : Multiset α) (rights : Multiset β)
    (items : Multiset.Rel (fun item other => Option.Rel related (left item) (right other)) lefts rights) :
    Multiset.Rel related (lefts.filterMap left) (rights.filterMap right) := by
  induction items with
  | zero => exact .zero
  | @cons item other lefts rights here rest ih =>
    cases first : left item with
    | none =>
      cases second : right other with
      | none =>
        rw [Multiset.filterMap_cons_none _ _ first, Multiset.filterMap_cons_none _ _ second]
        exact ih
      | some => simp [first, second] at here
    | some =>
      cases second : right other with
      | none => simp [first, second] at here
      | some =>
        rw [Multiset.filterMap_cons_some _ _ _ first, Multiset.filterMap_cons_some _ _ _ second]
        rw [first, second] at here
        cases here with
        | some here => exact .cons here ih

theorem matching_of_rel (related : α → β → Prop) (lefts : List α) (rights : List β)
    (items : Multiset.Rel related (lefts : Multiset α) (rights : Multiset β)) :
    ∃ matched : List β, matched.Perm rights ∧ List.Forall₂ related lefts matched := by
  induction lefts generalizing rights with
  | nil =>
    have none : rights = [] := by simpa using items
    exact ⟨[], by simp [none], .nil⟩
  | cons left lefts ih =>
    rw [← Multiset.cons_coe, Multiset.rel_cons_left] at items
    obtain ⟨right, others, here, rest, split⟩ := items
    obtain ⟨others, rfl⟩ := Quotient.exists_rep others
    obtain ⟨matched, permuted, related⟩ := ih others rest
    refine ⟨right :: matched, ?_, .cons here related⟩
    exact (permuted.cons right).trans (Multiset.coe_eq_coe.mp split.symm)

end Correspondence

namespace Store

variable (store : Store)

theorem mem_facts_of_choices (body : List Pattern) (choice : Choice) (member : choice ∈ store.choices body)
    (chosen : Pattern × Fact) (inside : chosen ∈ choice) : chosen.2 ∈ store.facts := by
  induction body generalizing choice with
  | nil => simp_all [choices]
  | cons pattern rest ih =>
    obtain ⟨fact, stored, member⟩ := List.mem_flatMap.mp member
    obtain ⟨others, remaining, rfl⟩ := List.mem_map.mp member
    rcases List.mem_cons.mp inside with rfl | inside
    · exact stored
    · exact ih others remaining inside

private theorem choices_cons (pattern : Pattern) (rest : List Pattern) :
    (store.choices (pattern :: rest) : Multiset Choice) =
      (store.facts : Multiset Fact).bind fun fact =>
        (store.choices rest : Multiset Choice).map ((pattern, fact) :: ·) := by
  rw [choices, ← Multiset.coe_bind]
  rfl

private theorem choices_perm (body other : List Pattern) (permuted : body.Perm other) :
    Multiset.Rel List.Perm (store.choices body : Multiset Choice) (store.choices other) := by
  -- Bags, because the choices of two orders stand in different places; only their number matters here.
  induction permuted with
  | nil => exact Multiset.rel_refl_of_refl_on fun choice _ => .refl choice
  | @cons pattern body other _ ih =>
    rw [choices_cons, choices_cons]
    refine Multiset.rel_bind ?_ Multiset.rel_eq_refl
    rintro fact _ rfl
    exact Multiset.rel_map.mpr (ih.mono fun _ _ _ _ moved => moved.cons _)
  | swap pattern pattern' body =>
    have opened (first second : Pattern) :
        (store.choices (first :: second :: body) : Multiset Choice) =
          (store.facts : Multiset Fact).bind fun fact => (store.facts : Multiset Fact).bind fun fact' =>
            (store.choices body : Multiset Choice).map fun choice =>
              (first, fact) :: (second, fact') :: choice := by
      simp only [choices_cons, Multiset.map_bind, Multiset.map_map, Function.comp_def]
    rw [opened pattern' pattern, opened pattern pattern', Multiset.bind_bind]
    refine Multiset.rel_bind ?_ Multiset.rel_eq_refl
    rintro fact _ rfl
    refine Multiset.rel_bind ?_ Multiset.rel_eq_refl
    rintro fact' _ rfl
    exact Multiset.rel_map.mpr (Multiset.rel_refl_of_refl_on fun choice _ => .swap _ _ choice)
  | trans _ _ first second =>
    have : IsTrans Choice List.Perm := ⟨fun _ _ _ => List.Perm.trans⟩
    exact first.trans _ second

end Store

private theorem Choice.shown_perm (choice other : Choice) (permuted : choice.Perm other) (sound : choice.WellFormed)
    (fits : choice.Fits) (term : Term) : Value.Alike (choice.answer.shown term) (other.answer.shown term) := by
  cases term with
  | const value => exact .inl rfl
  | var name =>
    have bound := answer_perm choice other permuted sound fits name
    rw [Bindings.shown, Bindings.shown]
    generalize choice.answer.value? name = here at bound ⊢
    generalize other.answer.value? name = there at bound ⊢
    cases bound with
    | none => exact .inl rfl
    | some alike => exact alike

namespace Store

theorem rows_perm (store : Store) (sound : store.WellFormed) (find : List Term) (body other : List Pattern)
    (permuted : body.Perm other) :
    Multiset.Rel (List.Forall₂ Value.Alike)
      ((store.answers body).map fun context => find.map context.shown : Multiset Row)
      ((store.answers other).map fun context => find.map context.shown : Multiset Row) := by
  let row (choice : Choice) : Option Row :=
    (Choice.reached .empty choice).map fun context => find.map context.shown
  have rows (body : List Pattern) :
      ((store.answers body).map fun context => find.map context.shown : Multiset Row) =
        (store.choices body : Multiset Choice).filterMap row := by
    rw [answers_eq, List.map_filterMap]
    rfl
  rw [rows, rows]
  apply rel_filterMap
  refine (store.choices_perm body other permuted).mono ?_
  intro (choice : Choice) member (choice' : Choice) _ moved
  have choiceSound : choice.WellFormed := fun chosen inside =>
    sound chosen.2 (store.mem_facts_of_choices body choice member chosen inside)
  have both := Choice.fits_perm choice choice' moved choiceSound
  simp only [row, Choice.reached_empty]
  by_cases fits : choice.Fits
  · rw [if_pos fits, if_pos (both.mp fits)]
    refine .some (List.forall₂_map_left_iff.mpr (List.forall₂_map_right_iff.mpr ?_))
    exact List.forall₂_same.mpr fun term _ => Choice.shown_perm choice choice' moved choiceSound fits term
  · rw [if_neg fits, if_neg fun fits' => fits (both.mpr fits')]
    exact .none

end Store

/-- The order of the patterns does not change the answer: the rows of two orders are paired one to one, with
alike values in every place. -/
theorem Query.run_perm (store : Store) (sound : store.WellFormed) (verbose : Bool) (policy : IndexPolicy)
    (find : List Term) (body other : List Pattern) (permuted : body.Perm other)
    (formed : ∀ pattern ∈ body, pattern.Formed) (literals : ∀ pattern ∈ body, pattern.WellFormed) :
    ∃ rows rows' matched : List Row,
      (Query.run verbose ⟨find, body⟩ store ⟨policy, .absent⟩).result = .ok rows ∧
      (Query.run verbose ⟨find, other⟩ store ⟨policy, .absent⟩).result = .ok rows' ∧
      matched.Perm rows' ∧ List.Forall₂ (List.Forall₂ Value.Alike) rows matched ∧
      rows.length = rows'.length := by
  have first := run_absent verbose ⟨find, body⟩ store policy formed literals
  have second := run_absent verbose ⟨find, other⟩ store policy
    (fun pattern member => formed pattern (permuted.mem_iff.mpr member))
    (fun pattern member => literals pattern (permuted.mem_iff.mpr member))
  rw [← permuted.all_eq] at second
  have related : Multiset.Rel (List.Forall₂ Value.Alike)
      (((if body.all (fun pattern => pattern.readable policy) = true then store.answers body else []).map
        fun context => find.map context.shown : List Row) : Multiset Row)
      (((if body.all (fun pattern => pattern.readable policy) = true then store.answers other else []).map
        fun context => find.map context.shown : List Row) : Multiset Row) := by
    split
    · exact store.rows_perm sound find body other permuted
    · exact Multiset.Rel.zero
  obtain ⟨matched, permuted, alike⟩ := matching_of_rel _ _ _ related
  exact ⟨_, _, matched, first, second, permuted, alike, alike.length_eq.trans permuted.length_eq⟩

theorem Query.run_perm_ones :
    ∃ rows rows' matched : List Row,
      (Query.run true ⟨[.var .other], oneBody⟩ .ones ⟨.fixed, .absent⟩).result = .ok rows ∧
      (Query.run true ⟨[.var .other], oneBody.reverse⟩ .ones ⟨.fixed, .absent⟩).result = .ok rows' ∧
      matched.Perm rows' ∧ List.Forall₂ (List.Forall₂ Value.Alike) rows matched ∧
      rows.length = rows'.length :=
  run_perm Store.ones Store.ones_wellFormed true .fixed _ oneBody oneBody.reverse
    (List.reverse_perm oneBody).symm oneBody_formed fun pattern member field literal holds =>
      (pattern.literal_of_scalars (oneBody_scalars pattern member) field literal holds).2

end TripleQuery
