import TripleQuery.Proofs.Except
import TripleQuery.Proofs.Projection
import TripleQuery.Proofs.Shorthand

/-!
Patterns that were assembled from parts instead of read. Reading a pattern leaves a term in every place, but an
assembled pattern is taken as it is, and its places are not looked at before a join comes to it. A join that comes
to a pattern without a term in some place fails there; a join of other patterns never fails.
-/

namespace TripleQuery

/-- What was asked for is not ready for a join: a place without a term, or the bare mark in such a place. -/
def Error.Unready (error : Error) : Prop := error = .fault .placeNotTerm ∨ error = .query .emptyVariableName

namespace Outcome

variable {α β : Type}

def FailsUnready (outcome : Outcome α) : Prop := ∀ error, outcome.result = .error error → error.Unready

theorem FailsUnready.bind (first : Outcome α) (next : α → Outcome β) (here : first.FailsUnready)
    (later : ∀ value, (next value).FailsUnready) : (first >>= next).FailsUnready := by
  intro error failed
  rw [result_bind] at failed
  cases found : first.result with
  | error cause =>
    rw [found] at failed
    cases failed
    exact here error found
  | ok value =>
    rw [found] at failed
    exact later value error failed

private theorem failsUnready_pure (value : α) : (pure value : Outcome α).FailsUnready := by
  intro error failed
  cases failed

end Outcome

private theorem Term.ofValue_error (part : Value) (error : QueryError) (failed : Term.ofValue part = .error error) :
    error = .emptyVariableName := by
  cases part with
  | text text =>
    simp only [Term.ofValue] at failed
    split at failed
    next marked =>
      rw [Variable.ofValue, dif_pos marked] at failed
      split at failed
      · cases failed
      · cases failed
        rfl
    · cases failed
  | _ => cases failed

private theorem matchParts_error (parts values : List Value) (context : Option Bindings) (error : QueryError)
    (failed : matchParts parts values context = .error error) : error = .emptyVariableName := by
  induction parts generalizing values context with
  | nil => cases failed
  | cons part parts ih =>
    cases values with
    | nil => cases failed
    | cons value values =>
      cases first : matchPart part value context with
      | ok next =>
        simp only [matchParts, first] at failed
        exact ih values next failed
      | error cause =>
        simp only [matchParts, first, bind, Except.bind, Except.error.injEq] at failed
        rw [← failed]
        cases context with
        | none => cases first
        | some context =>
          cases read : Term.ofValue part with
          | ok term => simp [matchPart, read, Except.map] at first
          | error cause' =>
            simp only [matchPart, read, Except.map, Except.error.injEq] at first
            exact first ▸ Term.ofValue_error part cause' read

namespace Pattern

theorem matchFacts_error (pattern : Pattern) (context : Option Bindings) (facts : List Fact)
    (error : QueryError) (failed : pattern.matchFacts context facts = .error error) :
    error = .emptyVariableName := by
  induction facts with
  | nil => cases failed
  | cons fact rest ih =>
    cases first : pattern.matchFact fact context with
    | error cause =>
      simp only [matchFacts, first, bind, Except.bind, Except.error.injEq] at failed
      exact failed ▸ matchParts_error _ _ context cause first
    | ok found =>
      cases others : pattern.matchFacts context rest with
      | error cause =>
        simp only [matchFacts, first, others, bind, Except.bind, Except.error.injEq] at failed
        exact ih (failed ▸ others)
      | ok later => simp [matchFacts, first, others, bind, Except.bind] at failed

theorem parts_unformed (pattern : Pattern) (unformed : ¬ pattern.Formed) :
    pattern.parts = .error .placeNotTerm := by
  simp only [parts, places, List.mapM_cons, List.mapM_nil]
  cases first : pattern.entity.term? with
  | none => rfl
  | some entity =>
    cases second : pattern.attr.term? with
    | none => rfl
    | some attr =>
      cases third : pattern.value.term? with
      | none => rfl
      | some value =>
        refine absurd ?_ unformed
        intro field
        cases field <;> simp [place, first, second, third]

theorem ofValue_formed (given : Value) (pattern : Pattern) (read : ofValue given = .ok pattern) :
    given = .pattern pattern ∨ pattern.Formed := by
  refine (ofValue_read given pattern read).imp_right ?_
  rintro ⟨_, terms, _, _, _, places⟩ field
  have placed := pattern.place_mem_places field
  rw [places] at placed
  obtain ⟨term, _, same⟩ := List.mem_map.mp placed
  rw [← same]
  rfl

end Pattern

namespace Store

variable (store : Store) (policy : IndexPolicy) (verbose : Bool)

private theorem parts_failsUnready (pattern : Pattern) :
    Outcome.FailsUnready (liftM (pattern.parts.mapError Error.fault) : Outcome (List Value)) := by
  intro error failed
  by_cases formed : pattern.Formed
  · obtain ⟨parts, written⟩ := pattern.parts_eq formed
    rw [written] at failed
    cases failed
  · rw [pattern.parts_unformed formed] at failed
    cases failed
    exact .inl rfl

private theorem search_failsUnready (pattern : Pattern) (context : Option Bindings) :
    (store.search verbose policy pattern context).FailsUnready := by
  apply Outcome.FailsUnready.bind
  · cases verbose with
    | false => exact Outcome.failsUnready_pure _
    | true =>
      apply Outcome.FailsUnready.bind
      · exact parts_failsUnready pattern
      · intro parts
        exact Outcome.FailsUnready.bind _ _ (Outcome.failsUnready_pure ()) fun _ => Outcome.failsUnready_pure _
  · intro facts error failed
    cases matched : pattern.matchFacts context facts with
    | ok contexts =>
      rw [matched] at failed
      cases failed
    | error cause =>
      rw [matched] at failed
      cases failed
      obtain rfl := pattern.matchFacts_error context facts cause matched
      exact .inr rfl

private theorem searchAll_failsUnready (pattern : Pattern) (contexts : List Bindings) :
    (store.searchAll verbose policy pattern contexts).FailsUnready := by
  induction contexts with
  | nil => exact Outcome.failsUnready_pure _
  | cons context rest ih =>
    apply Outcome.FailsUnready.bind
    · exact store.search_failsUnready policy verbose pattern (some context)
    · intro found
      exact Outcome.FailsUnready.bind _ _ ih fun _ => Outcome.failsUnready_pure _

private theorem joinFrom_failsUnready (body : List Pattern) (step : Nat) (contexts : List Bindings) :
    (store.joinFrom verbose policy step body contexts).FailsUnready := by
  induction body generalizing step contexts with
  | nil => exact Outcome.failsUnready_pure _
  | cons pattern rest ih =>
    apply Outcome.FailsUnready.bind
    · exact store.searchAll_failsUnready policy verbose pattern contexts
    · intro next
      apply Outcome.FailsUnready.bind
      · exact parts_failsUnready pattern
      · intro parts
        apply Outcome.FailsUnready.bind
        · exact Outcome.failsUnready_pure ()
        · intro _
          split
          · exact Outcome.failsUnready_pure _
          · exact ih (step + 1) next

private theorem joinFrom_unformed (pattern : Pattern) (unformed : ¬ pattern.Formed) (rest : List Pattern) (step : Nat)
    (contexts found : List Bindings) :
    (store.joinFrom verbose policy step (pattern :: rest) contexts).result ≠ .ok found := by
  intro joined
  simp only [joinFrom, Outcome.result_bind, pattern.parts_unformed unformed] at joined
  cases next : (store.searchAll verbose policy pattern contexts).result <;> rw [next] at joined <;> cases joined

private theorem splits_cons {α : Type} (first : α) (rest : List α) (holds : List α → α → Prop) :
    (∀ before item after, first :: rest = before ++ item :: after → holds before item) ↔
      holds [] first ∧ ∀ before item after, rest = before ++ item :: after → holds (first :: before) item := by
  constructor
  · intro all
    refine ⟨all [] first rest rfl, fun before item after split => all (first :: before) item after ?_⟩
    rw [split, List.cons_append]
  · rintro ⟨here, later⟩ before item after split
    cases before with
    | nil =>
      obtain ⟨rfl, _⟩ := List.cons.inj split
      exact here
    | cons other before =>
      obtain ⟨rfl, others⟩ := List.cons.inj split
      exact later before item after others

/-- A join comes to an end exactly when every pattern is formed that it comes to: it does not come to the patterns
after those that leave no context. -/
theorem joinFrom_succeeds_iff (body : List Pattern) (step : Nat) (contexts : List Bindings)
    (some : contexts ≠ []) :
    (∃ found, (store.joinFrom verbose policy step body contexts).result = .ok found) ↔
      ∀ before pattern after, body = before ++ pattern :: after →
        pattern.Formed ∨ (store.joinFrom verbose policy step before contexts).result = .ok [] := by
  induction body generalizing step contexts with
  | nil =>
    refine ⟨fun _ before pattern after split => ?_, fun _ => ⟨contexts, rfl⟩⟩
    simp at split
  | cons pattern rest ih =>
    by_cases formed : pattern.Formed
    · have next := store.searchAll_found policy verbose pattern formed contexts
      have opened (others : List Pattern) :=
        joinFrom_cons store policy verbose pattern formed others step contexts _ next
      generalize store.advance policy pattern contexts = left at opened
      rw [splits_cons pattern rest fun before other =>
        other.Formed ∨ (store.joinFrom verbose policy step before contexts).result = .ok []]
      simp only [formed, true_or, true_and, opened]
      cases left with
      | nil => simp
      | cons context others => exact ih (step + 1) (context :: others) (by simp)
    · constructor
      · rintro ⟨found, joined⟩
        exact absurd joined (store.joinFrom_unformed policy verbose pattern formed rest step contexts found)
      · intro all
        rcases all [] pattern rest rfl with here | ended
        · exact absurd here formed
        · exact absurd (Except.ok.inj ended) some

private theorem formed_of_joinFrom (body : List Pattern) (step : Nat) (contexts found : List Bindings)
    (joined : (store.joinFrom verbose policy step body contexts).result = .ok found) (some : found ≠ []) :
    ∀ pattern ∈ body, pattern.Formed := by
  induction body generalizing step contexts with
  | nil => simp
  | cons pattern rest ih =>
    by_cases formed : pattern.Formed
    · rw [joinFrom_cons store policy verbose pattern formed rest step contexts _
        (store.searchAll_found policy verbose pattern formed contexts)] at joined
      split at joined
      · exact absurd (Except.ok.inj joined).symm some
      · intro other member
        rcases List.mem_cons.mp member with rfl | member
        · exact formed
        · exact ih (step + 1) _ joined other member
    · exact absurd joined (store.joinFrom_unformed policy verbose pattern formed rest step contexts found)

end Store

namespace Query

variable (query : Query) (store : Store) (settings : Settings) (verbose : Bool)

private theorem run_of_join (accepted : ¬ (settings.unbound = .reject ∧ query.unboundVariables ≠ []))
    (contexts : List Bindings)
    (joined : (store.join verbose settings.indexPolicy query.body).result = .ok contexts) :
    ∃ rows, (query.run verbose store settings).result = .ok rows := by
  by_cases none : contexts = []
  · rw [run_result verbose query store settings accepted contexts joined, none]
    exact ⟨[], rfl⟩
  · have formed := store.formed_of_joinFrom settings.indexPolicy verbose query.body 0 _ contexts joined none
    exact ⟨_, (query.run_settled store settings verbose formed accepted contexts joined).1⟩

private theorem run_of_join_error (accepted : ¬ (settings.unbound = .reject ∧ query.unboundVariables ≠ []))
    (error : Error)
    (failed : (store.join verbose settings.indexPolicy query.body).result = .error error) :
    (query.run verbose store settings).result = .error error := by
  rw [run, if_neg accepted]
  simp only [Outcome.result_bind, failed]
  rfl

private theorem runShorthand_eq (given : Value) (read : ofValue given = .ok query) :
    runShorthand verbose given store settings = query.run verbose store settings := by
  rw [runShorthand, read]
  exact pure_bind query _

private theorem assembled_of_unformed (given : Value) (read : ofValue given = .ok query) (pattern : Pattern)
    (member : pattern ∈ query.body) (unformed : ¬ pattern.Formed) :
    given = .query query ∨ ∃ entries items, given.mapping? = some entries ∧
      (entries.get? bodyKey).bind Value.sequence? = some items ∧ .pattern pattern ∈ items := by
  cases isMapping : given.mapping? with
  | none =>
    refine .inl ?_
    cases given with
    | query given =>
      cases read
      rfl
    | dict | bindings => cases isMapping
    | _ => cases read
  | some entries =>
    rw [ofValue_of_mapping given entries isMapping, ofEntries_eq_ok] at read
    obtain ⟨_, items, _, hasBody, _, patterns⟩ := read
    obtain ⟨item, inside, made⟩ := forall₂_right_mem patterns pattern member
    rcases Pattern.ofValue_formed item pattern made with rfl | formed
    · exact .inr ⟨entries, items, rfl, hasBody, inside⟩
    · exact absurd formed unformed

private theorem run_ends_iff (given : Value) (read : ofValue given = .ok query) :
    ((∃ rows, (runShorthand verbose given store settings).result = .ok rows) ∨
        ∃ names, runShorthand verbose given store settings = .fail (.unbound (.inQuery names))) ↔
      (settings.unbound = .reject ∧ query.unboundVariables ≠ []) ∨
        ∃ contexts, (store.join verbose settings.indexPolicy query.body).result = .ok contexts := by
  rw [runShorthand_eq query store settings verbose given read]
  by_cases rejected : settings.unbound = .reject ∧ query.unboundVariables ≠ []
  · refine ⟨fun _ => .inl rejected, fun _ => .inr ⟨query.unboundVariables.map Variable.name, ?_⟩⟩
    rw [run, if_pos rejected]
  · rw [or_iff_right rejected]
    constructor
    · intro ends
      cases joined : (store.join verbose settings.indexPolicy query.body).result with
      | ok contexts => exact ⟨contexts, rfl⟩
      | error error =>
        have unready := store.joinFrom_failsUnready settings.indexPolicy verbose query.body 0 [.empty] error joined
        have failed := query.run_of_join_error store settings verbose rejected error joined
        rcases ends with ⟨rows, answered⟩ | ⟨names, foreseen⟩
        · rw [failed] at answered
          cases answered
        · rw [foreseen] at failed
          cases failed
          rcases unready with fault | query <;> contradiction
    · rintro ⟨contexts, joined⟩
      exact .inl (query.run_of_join store settings verbose rejected contexts joined)

private theorem run_error (given : Value) (read : ofValue given = .ok query) (error : Error)
    (failed : (runShorthand verbose given store settings).result = .error error) :
    (∃ names, error = .unbound (.inQuery names)) ∨ error.Unready := by
  rw [runShorthand_eq query store settings verbose given read] at failed
  by_cases rejected : settings.unbound = .reject ∧ query.unboundVariables ≠ []
  · rw [query.run_rejected verbose store settings rejected] at failed
    cases failed
    exact .inl ⟨_, rfl⟩
  · cases joined : (store.join verbose settings.indexPolicy query.body).result with
    | ok contexts =>
      obtain ⟨rows, answered⟩ := query.run_of_join store settings verbose rejected contexts joined
      rw [answered] at failed
      cases failed
    | error cause =>
      rw [query.run_of_join_error store settings verbose rejected cause joined] at failed
      cases failed
      exact .inr (store.joinFrom_failsUnready settings.indexPolicy verbose query.body 0 [.empty] error joined)

/-- A query that reads comes to rows, or is rejected before anything is done, exactly when it is rejected or every
pattern is formed that its join comes to. Only patterns that came in assembled can be otherwise, and a query fails
on one of those in two ways: a place holds no term, or it holds the bare mark. -/
theorem run_completes_iff (given : Value) (read : ofValue given = .ok query) :
    (((∃ rows, (runShorthand verbose given store settings).result = .ok rows) ∨
        ∃ names, runShorthand verbose given store settings = .fail (.unbound (.inQuery names))) ↔
      (settings.unbound = .reject ∧ query.unboundVariables ≠ []) ∨
        ∀ before pattern after, query.body = before ++ pattern :: after →
          pattern.Formed ∨ (store.join verbose settings.indexPolicy before).result = .ok []) ∧
    (∀ pattern ∈ query.body, ¬ pattern.Formed →
      given = .query query ∨ ∃ entries items, given.mapping? = some entries ∧
        (entries.get? bodyKey).bind Value.sequence? = some items ∧ .pattern pattern ∈ items) ∧
    ∀ error, (runShorthand verbose given store settings).result = .error error →
      (∃ names, error = .unbound (.inQuery names)) ∨ error = .fault .placeNotTerm ∨
        error = .query .emptyVariableName := by
  have joins := store.joinFrom_succeeds_iff settings.indexPolicy verbose query.body 0 [.empty] (by simp)
  refine ⟨?_, query.assembled_of_unformed given read, query.run_error store settings verbose given read⟩
  rw [query.run_ends_iff store settings verbose given read]
  exact or_congr_right joins

def assembled : Query := ⟨[], [⟨.text "alice", .text "knows", .text "bob"⟩]⟩

/-- The query reads, yet its join fails even where nothing is stored. -/
theorem assembled_fails :
    ofValue (.query assembled) = .ok assembled ∧
      (runShorthand false (.query assembled) (.ofFacts []) ⟨.fixed, .absent⟩).result =
        .error (.fault .placeNotTerm) := ⟨rfl, rfl⟩

theorem run_completes_iff_assembled :
    ofValue (.query assembled) = .ok assembled ∧
      ¬ ((∃ rows, (runShorthand false (.query assembled) (.ofFacts []) ⟨.fixed, .absent⟩).result = .ok rows) ∨
        ∃ names, runShorthand false (.query assembled) (.ofFacts []) ⟨.fixed, .absent⟩ =
          .fail (.unbound (.inQuery names))) := by
  refine ⟨rfl, ?_⟩
  rw [(run_completes_iff assembled (.ofFacts []) ⟨.fixed, .absent⟩ false (.query assembled) rfl).1]
  rintro (⟨rejected, _⟩ | formed)
  · cases rejected
  · rcases formed [] _ [] rfl with formed | ended
    · cases formed .entity
    · cases ended

end Query

end TripleQuery
