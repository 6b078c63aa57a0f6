import TripleQuery.Proofs.Assembly

/-!
Candidates noted and not noted. A note of the candidates shows the parts of the pattern, so where candidates are
noted a pattern has to have parts. It has them when all its places hold terms, and then the note changes nothing.
A pattern with a place that holds none is matched without the note, but fails with it.
-/

namespace TripleQuery

private theorem IndexPolicy.ofValue_name (policy : IndexPolicy) : ofValue (.text policy.name) = .ok policy := by
  cases policy <;> rfl

namespace Store

variable (store : Store) (policy : IndexPolicy) (pattern : Pattern)

private theorem select_quiet : (store.select false policy pattern).result = .ok (store.candidates policy pattern) := rfl

private theorem select_noted_unformed (unformed : ¬ pattern.Formed) :
    (store.select true policy pattern).result = .error (.fault .placeNotTerm) := by
  simp only [select, if_true, Outcome.result_bind, pattern.parts_unformed unformed]
  rfl

private theorem search_quiet (context : Option Bindings) :
    (store.search false policy pattern context).result =
      (pattern.matchFacts context (store.candidates policy pattern)).mapError QueryError.raised := by
  simp only [search, Outcome.result_bind, select_quiet]
  rfl

private theorem search_noted_unformed (unformed : ¬ pattern.Formed) (context : Option Bindings) :
    (store.search true policy pattern context).result = .error (.fault .placeNotTerm) := by
  simp only [search, Outcome.result_bind, select_noted_unformed store policy pattern unformed]
  rfl

private theorem select_agrees_iff :
    (store.select true policy pattern).result = (store.select false policy pattern).result ↔ pattern.Formed := by
  constructor
  · intro agrees
    by_contra unformed
    rw [select_noted_unformed store policy pattern unformed, select_quiet] at agrees
    cases agrees
  · intro formed
    rw [select_result store policy pattern true formed, select_quiet]

private theorem search_agrees_iff (context : Option Bindings) :
    (store.search true policy pattern context).result = (store.search false policy pattern context).result ↔
      pattern.Formed := by
  constructor
  · intro agrees
    by_contra unformed
    rw [search_noted_unformed store policy pattern unformed, search_quiet] at agrees
    -- The quiet search may fail as well, but for a name and never for a place.
    cases matched : pattern.matchFacts context (store.candidates policy pattern) with
    | ok found =>
      rw [matched] at agrees
      cases agrees
    | error cause =>
      obtain rfl := pattern.matchFacts_error context _ cause matched
      rw [matched] at agrees
      cases agrees
  · intro formed
    rw [search_found store policy pattern true formed, search_found store policy pattern false formed]

section Shorthand

variable {pattern} {given : Value} (read : Pattern.ofValue given = .ok pattern) (verbose : Bool)

include read

private theorem selectShorthand_eq :
    store.selectShorthand verbose given (.text policy.name) = store.select verbose policy pattern := by
  rw [selectShorthand, policy.ofValue_name, read]
  exact (pure_bind policy _).trans (pure_bind pattern _)

private theorem searchShorthand_eq (held : Value) (context : Option Bindings)
    (carried : Bindings.ofValue held = .ok context) :
    store.searchShorthand verbose given held (.text policy.name) = store.search verbose policy pattern context := by
  rw [searchShorthand, policy.ofValue_name, read, carried]
  exact (pure_bind pattern _).trans ((pure_bind context _).trans (pure_bind policy _))

end Shorthand

/-- Whether candidates are noted changes neither them nor what a search finds, exactly when every place of the pattern
holds a term. Otherwise the pattern came in assembled, and with the note both fail for the place that holds none. -/
theorem noted_agrees_iff (given held : Value) (context : Option Bindings)
    (read : Pattern.ofValue given = .ok pattern) (carried : Bindings.ofValue held = .ok context) :
    ((store.selectShorthand true given (.text policy.name)).result =
        (store.selectShorthand false given (.text policy.name)).result ↔ pattern.Formed) ∧
    ((store.searchShorthand true given held (.text policy.name)).result =
        (store.searchShorthand false given held (.text policy.name)).result ↔ pattern.Formed) ∧
    (¬ pattern.Formed → given = .pattern pattern ∧
      (store.selectShorthand false given (.text policy.name)).result = .ok (store.candidates policy pattern) ∧
      (store.selectShorthand true given (.text policy.name)).result = .error (.fault .placeNotTerm) ∧
      (store.searchShorthand true given held (.text policy.name)).result = .error (.fault .placeNotTerm)) := by
  simp only [store.selectShorthand_eq policy read, store.searchShorthand_eq policy read _ held context carried]
  refine ⟨store.select_agrees_iff policy pattern, store.search_agrees_iff policy pattern context, fun unformed => ?_⟩
  exact ⟨(Pattern.ofValue_formed given pattern read).resolve_right unformed, rfl,
    store.select_noted_unformed policy pattern unformed, store.search_noted_unformed policy pattern unformed context⟩

end Store

def Pattern.unread : Pattern := ⟨.text "?other", .text "is", .text "?what"⟩

/-- The candidates of an assembled pattern are all facts, unless they are noted. -/
theorem Store.noted_differs :
    Pattern.ofValue (.pattern .unread) = .ok .unread ∧
      (ones.selectShorthand false (.pattern .unread) (.text "fixed")).result = .ok ones.facts ∧
      (ones.selectShorthand true (.pattern .unread) (.text "fixed")).result = .error (.fault .placeNotTerm) :=
  ⟨rfl, rfl, rfl⟩

theorem Store.noted_agrees_iff_unread :
    Pattern.ofValue (.pattern .unread) = .ok .unread ∧ Bindings.ofValue .null = .ok none ∧
      ((ones.searchShorthand true (.pattern .unread) .null (.text "selective")).result ≠
        (ones.searchShorthand false (.pattern .unread) .null (.text "selective")).result) ∧
      Pattern.ofValue (.list Pattern.unread.places) = .ok .ofAnything ∧
      (ones.searchShorthand true (.list Pattern.unread.places) .null (.text "selective")).result =
        (ones.searchShorthand false (.list Pattern.unread.places) .null (.text "selective")).result := by
  have assembled := ones.noted_agrees_iff .selective .unread (.pattern .unread) .null none rfl rfl
  have read := ones.noted_agrees_iff .selective .ofAnything (.list Pattern.unread.places) .null none rfl rfl
  refine ⟨rfl, rfl, fun same => ?_, rfl, read.2.1.mpr (Pattern.ofTerms_formed _ _ _)⟩
  cases assembled.2.1.mp same .entity

end TripleQuery
