import TripleQuery.Projection
import TripleQuery.Proofs.Join

/-!
Queries as a join followed by one projection for each context.
-/

namespace TripleQuery

private theorem Outcome.result_mapM {α β : Type} (next : α → Outcome β) (items : List α) :
    (items.mapM next).result = items.mapM fun item => (next item).result := by
  induction items with
  | nil => rfl
  | cons item rest ih =>
    simp only [List.mapM_cons, Outcome.result_bind, ih]
    rfl

namespace Bindings

/-- What a term shows in a row: a literal itself, a variable its value, or null where it has none. -/
def shown (context : Bindings) : Term → Value
  | .const value => value
  | .var name => (context.value? name).getD .null

private theorem project_absent (context : Bindings) (find : List Term) :
    (context.project .absent find).result = .ok (find.map context.shown) := by
  have item (term : Term) : (term.project .absent context.toValue).result = .ok (context.shown term) := by
    cases term with
    | const value => rfl
    | var name =>
      have looked : context.toValue.binding? name = .ok (context.value? name) := rfl
      simp only [Term.project, looked, shown]
      cases context.value? name <;> rfl
  rw [project, Outcome.result_mapM]
  simp only [item]
  exact List.mapM_pure

end Bindings

namespace Query

variable (verbose : Bool) (query : Query) (store : Store) (settings : Settings)

theorem run_rejected (missing : settings.unbound = .reject ∧ query.unboundVariables ≠ []) :
    (query.run verbose store settings).result =
      .error (.unbound (.inQuery (query.unboundVariables.map Variable.name))) := by
  rw [run, if_pos missing]
  rfl

theorem run_result (accepted : ¬ (settings.unbound = .reject ∧ query.unboundVariables ≠ []))
    (contexts : List Bindings)
    (joined : (store.join verbose settings.indexPolicy query.body).result = .ok contexts) :
    (query.run verbose store settings).result =
      contexts.mapM fun context => (context.project settings.unbound query.find).result := by
  rw [run, if_neg accepted]
  simp only [Outcome.result_bind, joined, Outcome.result_mapM]
  change (contexts.mapM _ >>= fun rows => Except.ok rows) = _
  exact bind_pure _

theorem run_absent (policy : IndexPolicy) (formed : ∀ pattern ∈ query.body, pattern.Formed)
    (sound : ∀ pattern ∈ query.body, pattern.WellFormed) :
    (query.run verbose store ⟨policy, .absent⟩).result =
      .ok ((if query.body.all (fun pattern => pattern.readable policy) = true then store.answers query.body
        else []).map fun context => query.find.map context.shown) := by
  have joined := store.join_result policy verbose query.body formed sound
  rw [run_result verbose query store ⟨policy, .absent⟩ (by simp) _ joined]
  simp only [Bindings.project_absent]
  exact List.mapM_pure

end Query

end TripleQuery
