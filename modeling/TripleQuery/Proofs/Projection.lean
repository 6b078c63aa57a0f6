import TripleQuery.Proofs.Domain
import TripleQuery.Proofs.Query

/-!
Projection against the static check for unbound variables. Since a join binds exactly the variables of its
patterns, the check made before the join says of every row which of its places have no value: it rejects no query
that could have been answered, a query that it lets pass never fails on the way, and every warning is foreseen.
-/

namespace TripleQuery

namespace Outcome

variable {α β : Type}

private theorem warnings_bind (first : Outcome α) (next : α → Outcome β) :
    (first >>= next).warnings = first.warnings ++ match first.result with
      | .ok value => (next value).warnings
      | .error _ => [] := by
  obtain ⟨result, events, warnings⟩ := first
  cases result with
  | error error => simp [Bind.bind, bind]
  | ok value => rfl

private theorem warnings_bind_nil (first : Outcome α) (next : α → Outcome β) (before : first.warnings = [])
    (after : ∀ value, (next value).warnings = []) : (first >>= next).warnings = [] := by
  rw [warnings_bind, before]
  cases first.result with
  | error error => rfl
  | ok value => exact after value

private theorem mapM_settled (next : α → Outcome β) (value : α → β) (warnings : α → List Warning) (items : List α)
    (each : ∀ item ∈ items, next item = ⟨.ok (value item), [], warnings item⟩) :
    items.mapM next = ⟨.ok (items.map value), [], items.flatMap warnings⟩ := by
  induction items with
  | nil => rfl
  | cons item rest ih =>
    have others := ih fun other member => each other (by simp [member])
    rw [List.mapM_cons, each item (by simp), others]
    simp [Bind.bind, bind, pure, ok]

end Outcome

namespace Store

variable (store : Store) (policy : IndexPolicy) (verbose : Bool)

private theorem select_warnings (pattern : Pattern) : (store.select verbose policy pattern).warnings = [] := by
  cases verbose with
  | false => rfl
  | true =>
    apply Outcome.warnings_bind_nil
    · rfl
    · intro parts
      apply Outcome.warnings_bind_nil
      · rfl
      · intro _
        rfl

private theorem search_warnings (pattern : Pattern) (context : Option Bindings) :
    (store.search verbose policy pattern context).warnings = [] := by
  apply Outcome.warnings_bind_nil
  · exact store.select_warnings policy verbose pattern
  · intro facts
    rfl

private theorem searchAll_warnings (pattern : Pattern) (contexts : List Bindings) :
    (store.searchAll verbose policy pattern contexts).warnings = [] := by
  induction contexts with
  | nil => rfl
  | cons context rest ih =>
    apply Outcome.warnings_bind_nil
    · exact store.search_warnings policy verbose pattern (some context)
    · intro found
      apply Outcome.warnings_bind_nil
      · exact ih
      · intro _
        rfl

private theorem joinFrom_warnings (body : List Pattern) (step : Nat) (contexts : List Bindings) :
    (store.joinFrom verbose policy step body contexts).warnings = [] := by
  induction body generalizing step contexts with
  | nil => rfl
  | cons pattern rest ih =>
    apply Outcome.warnings_bind_nil
    · exact store.searchAll_warnings policy verbose pattern contexts
    · intro next
      apply Outcome.warnings_bind_nil
      · rfl
      · intro parts
        apply Outcome.warnings_bind_nil
        · rfl
        · intro _
          split
          · rfl
          · exact ih (step + 1) next

end Store

namespace Bindings

def missed (context : Bindings) (policy : UnboundPolicy) : Term → List Warning
  | .const _ => []
  | .var name => if policy = .warn ∧ context.value? name = none then [⟨name.name⟩] else []

private theorem project_settled (context : Bindings) (policy : UnboundPolicy) (find : List Term)
    (bound : policy = .reject → ∀ term ∈ find, ∀ name ∈ term.name?, (context.value? name).isSome = true) :
    context.project policy find = ⟨.ok (find.map context.shown), [], find.flatMap (context.missed policy)⟩ := by
  apply Outcome.mapM_settled
  intro term member
  cases term with
  | const value => rfl
  | var name =>
    have looked : context.toValue.binding? name = .ok (context.value? name) := rfl
    cases known : context.value? name with
    | some value =>
      simp only [Term.project, looked, shown, missed, known, reduceCtorEq, and_false, if_false]
      rfl
    | none =>
      have settled : policy ≠ .reject := by
        intro reject
        have some := bound reject _ member name rfl
        simp [known] at some
      simp only [Term.project, looked, shown, missed, known]
      cases policy with
      | absent => rfl
      | warn => rfl
      | reject => exact absurd rfl settled

end Bindings

namespace Query

variable (query : Query)

private theorem mem_unboundVariables (name : Variable) :
    name ∈ query.unboundVariables ↔ .var name ∈ query.find ∧ name ∉ query.boundVariables := by
  have named (term : Term) : term.name? = some name ↔ term = .var name := by
    cases term <;> simp [Term.name?]
  simp [unboundVariables, named]

/-- What a value that stands in a row at the place of a term has to be. -/
def Shows (context : Bindings) : Term → Value → Prop
  | .const literal, value => value = literal
  | .var name, value =>
    (name ∈ query.boundVariables ∧ context.value? name = some value) ∨
      (name ∈ query.unboundVariables ∧ value = .null)

private theorem shows_shown (context : Bindings) (binds : context.Binds query.boundVariables) (term : Term)
    (member : term ∈ query.find) : query.Shows context term (context.shown term) := by
  cases term with
  | const literal => rfl
  | var name =>
    have known := binds.value?_isSome name
    cases found : context.value? name with
    | some value =>
      have bound : name ∈ query.boundVariables := known.mp (by simp [found])
      exact .inl ⟨bound, by simp [Bindings.shown, found]⟩
    | none =>
      have unbound : name ∉ query.boundVariables := fun bound => by simpa [found] using known.mpr bound
      exact .inr ⟨(query.mem_unboundVariables name).mpr ⟨member, unbound⟩, by simp [Bindings.shown, found]⟩

private theorem missed_find (context : Bindings) (binds : context.Binds query.boundVariables) (policy : UnboundPolicy) :
    query.find.flatMap (context.missed policy) =
      if policy = .warn then query.unboundVariables.map fun name => ⟨name.name⟩ else [] := by
  have unknown (name : Variable) : context.value? name = none ↔ name ∉ query.boundVariables := by
    rw [← binds.value?_isSome name, Bool.not_eq_true, Option.isSome_eq_false_iff, Option.isNone_iff_eq_none]
  rw [unboundVariables]
  induction query.find with
  | nil => simp
  | cons term rest ih =>
    rw [List.flatMap_cons, ih]
    by_cases warn : policy = .warn
    · cases term with
      | const value => simp [Bindings.missed, Term.name?, warn, List.filterMap_cons]
      | var name =>
        by_cases bound : name ∈ query.boundVariables <;>
          simp [Bindings.missed, Term.name?, warn, unknown, bound]
    · cases term <;> simp [Bindings.missed, warn]

variable (store : Store) (settings : Settings) (verbose : Bool)

theorem run_settled (formed : ∀ pattern ∈ query.body, pattern.Formed)
    (accepted : ¬ (settings.unbound = .reject ∧ query.unboundVariables ≠ [])) (contexts : List Bindings)
    (joined : (store.join verbose settings.indexPolicy query.body).result = .ok contexts) :
    (query.run verbose store settings).result =
        .ok (contexts.map fun context => query.find.map context.shown) ∧
      (query.run verbose store settings).warnings =
        if settings.unbound = .warn then
          contexts.flatMap fun _ => query.unboundVariables.map fun name => ⟨name.name⟩
        else [] := by
  obtain ⟨contexts', joined', binds⟩ := query.join_binds formed store settings.indexPolicy verbose
  obtain rfl : contexts = contexts' := Except.ok.inj (joined.symm.trans joined')
  have bound : settings.unbound = .reject → ∀ context ∈ contexts, ∀ term ∈ query.find, ∀ name ∈ term.name?,
      (context.value? name).isSome = true := by
    intro reject context inside term member name named
    rw [(binds context inside).value?_isSome name]
    by_contra unbound
    have isVar : term = .var name := by cases term <;> simp_all [Term.name?]
    have missing := (query.mem_unboundVariables name).mpr ⟨isVar ▸ member, unbound⟩
    exact accepted ⟨reject, List.ne_nil_of_mem missing⟩
  have rows := Outcome.mapM_settled (Bindings.project settings.unbound query.find)
    (fun context => query.find.map context.shown)
    (fun context => query.find.flatMap (context.missed settings.unbound)) contexts
    fun context inside => context.project_settled settings.unbound query.find
      fun reject => bound reject context inside
  have silent := store.joinFrom_warnings settings.indexPolicy verbose query.body 0 [.empty]
  have foreseen : contexts.flatMap (fun context => query.find.flatMap (context.missed settings.unbound)) =
      if settings.unbound = .warn then
        contexts.flatMap fun _ => query.unboundVariables.map fun name => ⟨name.name⟩
      else [] := by
    have each := fun context inside => query.missed_find context (binds context inside) settings.unbound
    rw [List.flatMap_congr each]
    split <;> simp
  rw [run, if_neg accepted]
  constructor
  · simp only [Outcome.result_bind, joined]
    change ((contexts.mapM (Bindings.project settings.unbound query.find)).result >>=
      fun rows => Except.ok rows) = _
    rw [rows]
    rfl
  · rw [Outcome.warnings_bind, joined, Store.join, silent, List.nil_append]
    dsimp only
    rw [Outcome.warnings_bind, rows, ← foreseen]
    simp [Outcome.warnings_bind, Outcome.note, pure, Outcome.ok]

/-- The static check and the join agree. Every context binds exactly the variables that the check counts as bound.
Where unbound variables are errors, a query is rejected exactly when it has one, whatever is stored, and else has
the rows that it has where they become null. Otherwise there is one row for each context, in order, and warnings
come for each row and each of its unbound places. -/
theorem unbound_check_exact (formed : ∀ pattern ∈ query.body, pattern.Formed) (policy : IndexPolicy) :
    ∃ (contexts : List Bindings) (rows : List Row),
      (store.join verbose policy query.body).result = .ok contexts ∧
      (∀ context ∈ contexts, context.Binds query.boundVariables) ∧
      ((∃ cause, (query.run verbose store ⟨policy, .reject⟩).result = .error (.unbound cause)) ↔
        query.unboundVariables ≠ []) ∧
      (query.unboundVariables = [] → (query.run verbose store ⟨policy, .reject⟩).result = .ok rows) ∧
      (query.run verbose store ⟨policy, .absent⟩).result = .ok rows ∧
      (query.run verbose store ⟨policy, .warn⟩).result = .ok rows ∧
      List.Forall₂ (fun context row => List.Forall₂ (query.Shows context) query.find row) contexts rows ∧
      (query.run verbose store ⟨policy, .absent⟩).warnings = [] ∧
      (query.run verbose store ⟨policy, .warn⟩).warnings =
        contexts.flatMap fun _ => query.unboundVariables.map fun name => ⟨name.name⟩ := by
  obtain ⟨contexts, joined, binds⟩ := query.join_binds formed store policy verbose
  have absent := query.run_settled store ⟨policy, .absent⟩ verbose formed (by simp) contexts joined
  have warn := query.run_settled store ⟨policy, .warn⟩ verbose formed (by simp) contexts joined
  have reject (none : query.unboundVariables = []) :=
    (query.run_settled store ⟨policy, .reject⟩ verbose formed (by simp [none]) contexts joined).1
  have rejected : (∃ cause, (query.run verbose store ⟨policy, .reject⟩).result = .error (.unbound cause)) ↔
      query.unboundVariables ≠ [] := by
    constructor
    · rintro ⟨cause, failed⟩ none
      rw [reject none] at failed
      cases failed
    · intro missing
      exact ⟨_, query.run_rejected verbose store ⟨policy, .reject⟩ ⟨rfl, missing⟩⟩
  have shows : List.Forall₂ (fun context row => List.Forall₂ (query.Shows context) query.find row) contexts
      (contexts.map fun context => query.find.map context.shown) := by
    rw [List.forall₂_map_right_iff, List.forall₂_same]
    intro context inside
    rw [List.forall₂_map_right_iff, List.forall₂_same]
    intro term member
    exact query.shows_shown context (binds context inside) term member
  exact ⟨contexts, _, joined, binds, rejected, reject, absent.1, warn.1, shows, absent.2, warn.2⟩

end Query

def Query.halfBound : Query :=
  ⟨[.var .what, .var ⟨"?gone", by decide, by decide⟩, .const (.bool true),
    .var ⟨"?gone", by decide, by decide⟩], [.ofOne]⟩

theorem Query.unbound_check_exact_halfBound :
    (∀ pattern ∈ halfBound.body, pattern.Formed) ∧
      (∃ cause, (halfBound.run true .ones ⟨.selective, .reject⟩).result = .error (.unbound cause)) ∧
      (halfBound.run true .ones ⟨.selective, .absent⟩).result =
        .ok (List.replicate 2 [.text "one", .null, .bool true, .null]) ∧
      (halfBound.run true .ones ⟨.selective, .warn⟩).warnings = List.replicate 4 ⟨"?gone"⟩ := by
  have formed : ∀ pattern ∈ halfBound.body, pattern.Formed := by
    simp [halfBound, Pattern.ofOne, Pattern.ofTerms_formed]
  obtain ⟨contexts, _, joined, _, rejected, _, _, _, _, _, warned⟩ :=
    unbound_check_exact halfBound .ones true formed .selective
  refine ⟨formed, rejected.mpr (by decide), rfl, ?_⟩
  have found : contexts = List.replicate 2 ⟨[(.text "?what", .text "one")]⟩ := Except.ok.inj (joined.symm.trans rfl)
  rw [warned, found]
  rfl

end TripleQuery
