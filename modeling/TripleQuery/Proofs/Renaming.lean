import TripleQuery.Proofs.Projection
import Mathlib.Data.List.Find

/-!
Names of variables carry no meaning. A change of names that keeps the variables of a query apart changes the
contexts of its join in their names alone and its rows not at all. Neither stored values nor literals take part in
the change, whatever they look like.
-/

namespace TripleQuery

variable (change : Variable → Variable)

/-- No two of these variables get one name. -/
def KeepsApart (names : List Variable) : Prop :=
  ∀ left ∈ names, ∀ right ∈ names, change left = change right → left = right

instance (names : List Variable) : Decidable (KeepsApart change names) := inferInstanceAs (Decidable (∀ _ ∈ _, _))

def Term.rename : Term → Term
  | .var name => .var (change name)
  | .const value => .const value

private theorem Term.name?_rename (term : Term) : (term.rename change).name? = term.name?.map change := by
  cases term <;> rfl

namespace Pattern

def rename (pattern : Pattern) : Pattern := pattern.mapTerms (Term.rename change)

private theorem formed_rename (pattern : Pattern) (formed : pattern.Formed) : (pattern.rename change).Formed :=
  pattern.formed_mapTerms (Term.rename change) formed

private theorem meetings_rename (pattern : Pattern) (fact : Fact) :
    (pattern.rename change).meetings fact =
      (pattern.meetings fact).map fun meeting => (meeting.1.rename change, meeting.2) :=
  pattern.meetings_mapTerms (Term.rename change) fact

private theorem literals_rename (pattern : Pattern) : (pattern.rename change).literals = pattern.literals := by
  have each (field : Field) : (pattern.rename change).literal? field = pattern.literal? field := by
    rw [literal?, literal?, rename, place_mapTerms]
    cases pattern.place field with
    | term term => cases term <;> rfl
    | _ => rfl
  simp only [literals, each]

private theorem mem_vars_rename (pattern : Pattern) (name : Variable) :
    name ∈ (pattern.rename change).vars ↔ ∃ before ∈ pattern.vars, change before = name := by
  rw [vars_eq, vars_eq, rename, terms_mapTerms, List.mem_eraseDups, List.filterMap_map]
  simp only [Function.comp_def, Term.name?_rename, ← List.map_filterMap, List.mem_map, List.mem_eraseDups]

end Pattern

namespace Query

def rename (query : Query) : Query :=
  ⟨query.find.map (Term.rename change), query.body.map (Pattern.rename change)⟩

def mentioned (query : Query) : List Variable :=
  query.find.filterMap Term.name? ++ query.body.flatMap Pattern.vars

end Query

namespace Bindings

/-- What a key becomes when the variable that it names is renamed. -/
def renameKey (key : Value) : Value :=
  match Variable.ofValue key with
  | .ok name => .text (change name).name
  | .error _ => key

def rename (context : Bindings) : Bindings :=
  ⟨context.entries.map fun entry => (renameKey change entry.1, entry.2)⟩

private theorem renameKey_name (name : Variable) : renameKey change (.text name.name) = .text (change name).name := by
  simp [renameKey, Variable.ofValue, name.marked, name.named]

private theorem renameKey_equals (other name : Variable) (apart : change other = change name → other = name) :
    (renameKey change (.text other.name)).equals (.text (change name).name) =
      (Value.text other.name).equals (.text name.name) := by
  rw [Bool.eq_iff_iff, renameKey_name, Value.equals_text, Value.equals_text, Value.text.injEq, Value.text.injEq]
  constructor
  · intro equal
    exact congrArg Variable.name (apart (Variable.ext_name equal))
  · intro equal
    rw [Variable.ext_name equal]

private theorem bind_rename (context : Bindings) (name : Variable) (value : Value) :
    (context.bind name value).rename change = (context.rename change).bind (change name) value := by
  simp [bind, rename, renameKey_name]

end Bindings

private theorem Store.candidates_rename (store : Store) (policy : IndexPolicy) (pattern : Pattern) :
    store.candidates policy (pattern.rename change) = store.candidates policy pattern := by
  have chosen : store.chosenLiteral? policy (pattern.rename change) = store.chosenLiteral? policy pattern := by
    cases policy <;> simp only [chosenLiteral?, pattern.literals_rename change]
  simp only [candidates, chosen]

section Apart

variable {names bound : List Variable} (apart : KeepsApart change names)

include apart

namespace Bindings

variable {context : Bindings} (binds : context.Binds bound)

include binds

private theorem value?_rename (among : bound ⊆ names) (name : Variable) (inside : name ∈ names) :
    (context.rename change).value? (change name) = context.value? name := by
  have same : ∀ entry ∈ context.entries,
      (renameKey change entry.1).equals (.text (change name).name) = entry.1.equals (.text name.name) := by
    intro entry member
    obtain ⟨other, known, key⟩ := (binds entry.1).mp (List.mem_map_of_mem member)
    rw [key]
    exact renameKey_equals change other name (apart other (among known) name inside)
  simp only [value?, get?, rename, Entries.get?, List.find?_map, Option.map_map, Function.comp_def]
  rw [List.find?_congr same]

private theorem shown_rename (among : bound ⊆ names) (term : Term) (inside : term.name?.toList ⊆ names) :
    (context.rename change).shown (term.rename change) = context.shown term := by
  cases term with
  | const value => rfl
  | var name =>
    simp only [Term.rename, shown, value?_rename change apart binds among name (inside (by simp [Term.name?]))]

private theorem matchValue_rename (among : bound ⊆ names) (term : Term) (inside : term.name?.toList ⊆ names)
    (value : Value) :
    (term.rename change).matchValue value (context.rename change) =
      (term.matchValue value context).map (rename change) := by
  cases term with
  | const literal =>
    simp only [Term.rename, Term.matchValue]
    split <;> rfl
  | var name =>
    simp only [Term.rename, Term.matchValue,
      value?_rename change apart binds among name (inside (by simp [Term.name?]))]
    cases context.value? name with
    | some held =>
      dsimp only
      split <;> rfl
    | none => simp [bind_rename]

private theorem meet_rename (meetings : List Meeting)
    (among : bound ++ meetings.filterMap (fun meeting => meeting.1.name?) ⊆ names) :
    (context.rename change).meet (meetings.map fun meeting => (meeting.1.rename change, meeting.2)) =
      (context.meet meetings).map (rename change) := by
  induction meetings generalizing context bound with
  | nil => rfl
  | cons meeting rest ih =>
    obtain ⟨term, value⟩ := meeting
    have split : ((term, value) :: rest).filterMap (fun meeting => meeting.1.name?) =
        term.name?.toList ++ rest.filterMap fun meeting => meeting.1.name? := by
      cases named : term.name? <;> simp [named]
    rw [split, ← List.append_assoc] at among
    obtain ⟨known, here⟩ := List.append_subset.mp (List.append_subset.mp among).1
    rw [List.map_cons, meet_cons, meet_cons, matchValue_rename change apart binds known term here]
    cases first : term.matchValue value context with
    | none => rfl
    | some next => exact ih (binds.matchValue term value first) among

private theorem matched_rename (pattern : Pattern) (among : bound ++ pattern.vars ⊆ names) (fact : Fact) :
    (pattern.rename change).matched (some (context.rename change)) fact =
      (pattern.matched (some context) fact).map (rename change) := by
  have met : bound ++ (pattern.meetings fact).filterMap (fun meeting => meeting.1.name?) ⊆ names := by
    obtain ⟨known, here⟩ := List.append_subset.mp among
    exact List.append_subset.mpr ⟨known, fun name member => here ((pattern.mem_vars fact name).mpr member)⟩
  rw [Pattern.matched, Pattern.matched, Option.bind_some, Option.bind_some, pattern.meetings_rename]
  exact meet_rename change apart binds _ met

end Bindings

private theorem Store.advance_rename (store : Store) (policy : IndexPolicy) (pattern : Pattern)
    (contexts : List Bindings) (binds : ∀ context ∈ contexts, context.Binds bound)
    (among : bound ++ pattern.vars ⊆ names) :
    store.advance policy (pattern.rename change) (contexts.map (Bindings.rename change)) =
      (store.advance policy pattern contexts).map (Bindings.rename change) := by
  rw [advance, advance, List.flatMap_map, List.map_flatMap, store.candidates_rename change policy pattern]
  apply List.flatMap_congr
  intro context member
  rw [List.map_filterMap]
  congr 1
  funext fact
  exact Bindings.matched_rename change apart (binds context member) pattern among fact

private theorem Store.advanceAll_rename (store : Store) (policy : IndexPolicy) (body : List Pattern)
    (contexts : List Bindings) (binds : ∀ context ∈ contexts, context.Binds bound)
    (among : bound ++ body.flatMap Pattern.vars ⊆ names) :
    store.advanceAll policy (body.map (Pattern.rename change)) (contexts.map (Bindings.rename change)) =
      (store.advanceAll policy body contexts).map (Bindings.rename change) := by
  induction body generalizing contexts bound with
  | nil => rfl
  | cons pattern rest ih =>
    rw [List.flatMap_cons, ← List.append_assoc] at among
    rw [List.map_cons, advanceAll_cons, advanceAll_cons,
      store.advance_rename change apart policy pattern contexts binds (List.append_subset.mp among).1]
    exact ih _ (store.advance_binds policy pattern contexts bound binds) among

/-- Two joins side by side, of the same patterns under different names: each step finds the same candidates for
both, and what they bind differs in its names alone. -/
theorem Store.joinFrom_rename (store : Store) (policy : IndexPolicy) (verbose : Bool) (body : List Pattern)
    (formed : ∀ pattern ∈ body, pattern.Formed) (step : Nat) (contexts : List Bindings)
    (binds : ∀ context ∈ contexts, context.Binds bound) (among : bound ++ body.flatMap Pattern.vars ⊆ names) :
    ∃ found, (store.joinFrom verbose policy step body contexts).result = .ok found ∧
      (store.joinFrom verbose policy step (body.map (Pattern.rename change))
        (contexts.map (Bindings.rename change))).result = .ok (found.map (Bindings.rename change)) := by
  have formed' : ∀ pattern ∈ body.map (Pattern.rename change), pattern.Formed :=
    List.forall_mem_map.mpr fun pattern member => pattern.formed_rename change (formed pattern member)
  refine ⟨_, store.joinFrom_found policy verbose body formed step contexts, ?_⟩
  rw [store.joinFrom_found policy verbose _ formed',
    store.advanceAll_rename change apart policy body contexts binds among]

end Apart

namespace Query

variable (query : Query)

private theorem mentioned_of_find (name : Variable) (member : name ∈ query.find.filterMap Term.name?) :
    name ∈ query.mentioned := List.mem_append_left _ member

private theorem boundVariables_subset : query.boundVariables ⊆ query.mentioned :=
  fun _ member => List.mem_append_right _ (List.mem_eraseDups.mp member)

private theorem mem_boundVariables_rename (name : Variable) :
    name ∈ (query.rename change).boundVariables ↔ ∃ before ∈ query.boundVariables, change before = name := by
  simp only [boundVariables, rename, List.mem_eraseDups, List.flatMap_map, List.mem_flatMap,
    Pattern.mem_vars_rename]
  constructor
  · rintro ⟨pattern, inside, before, member, named⟩
    exact ⟨before, ⟨pattern, inside, member⟩, named⟩
  · rintro ⟨before, ⟨pattern, inside, member⟩, named⟩
    exact ⟨pattern, inside, before, member, named⟩

variable (apart : KeepsApart change query.mentioned)

include apart

private theorem unboundVariables_rename :
    (query.rename change).unboundVariables = query.unboundVariables.map change := by
  have projected : (query.rename change).find.filterMap Term.name? =
      (query.find.filterMap Term.name?).map change := by
    rw [rename, List.filterMap_map, List.map_filterMap]
    simp only [Function.comp_def, Term.name?_rename]
  rw [unboundVariables, projected, List.filter_map, unboundVariables]
  congr 1
  apply List.filter_congr
  intro name member
  have same : change name ∈ (query.rename change).boundVariables ↔ name ∈ query.boundVariables := by
    rw [mem_boundVariables_rename]
    constructor
    · rintro ⟨before, bound, named⟩
      obtain rfl := apart before (query.boundVariables_subset bound) name (query.mentioned_of_find name member) named
      exact bound
    · exact fun bound => ⟨name, bound, rfl⟩
  by_cases bound : name ∈ query.boundVariables
  · simp [bound, same.mpr bound]
  · simp [bound, same]

private theorem rows_rename (contexts : List Bindings)
    (binds : ∀ context ∈ contexts, context.Binds query.boundVariables) :
    ((contexts.map (Bindings.rename change)).map fun context => (query.rename change).find.map context.shown) =
      contexts.map fun context => query.find.map context.shown := by
  rw [List.map_map]
  apply List.map_congr_left
  intro context inside
  rw [Function.comp_apply, rename, List.map_map]
  apply List.map_congr_left
  intro term member
  apply Bindings.shown_rename change apart (binds context inside) query.boundVariables_subset
  intro name named
  exact query.mentioned_of_find name (List.mem_filterMap.mpr ⟨term, member, Option.mem_toList.mp named⟩)

/-- Names of variables carry no meaning. Under a change that keeps the variables of a query apart, the contexts of
its join change in their names and in nothing else, and the query has the same rows in the same order or is
rejected as before. -/
theorem run_rename (formed : ∀ pattern ∈ query.body, pattern.Formed) (store : Store) (settings : Settings)
    (verbose : Bool) :
    (∃ contexts,
      (store.join verbose settings.indexPolicy query.body).result = .ok contexts ∧
      (store.join verbose settings.indexPolicy (query.rename change).body).result =
        .ok (contexts.map (Bindings.rename change))) ∧
    ((∃ rows,
      (query.run verbose store settings).result = .ok rows ∧
      ((query.rename change).run verbose store settings).result = .ok rows) ∨
    ∃ missing : List Variable,
      (query.run verbose store settings).result = .error (.unbound (.inQuery (missing.map Variable.name))) ∧
      ((query.rename change).run verbose store settings).result =
        .error (.unbound (.inQuery ((missing.map change).map Variable.name)))) := by
  have start : ∀ context ∈ [Bindings.empty], context.Binds [] :=
    List.forall_mem_singleton.mpr Bindings.binds_empty
  obtain ⟨contexts, joined, binds⟩ := query.join_binds formed store settings.indexPolicy verbose
  obtain ⟨found, joinedAgain, joined'⟩ := Store.joinFrom_rename change apart store settings.indexPolicy verbose
    query.body formed 0 _ start (List.subset_append_right _ _)
  obtain rfl : contexts = found := Except.ok.inj (joined.symm.trans joinedAgain)
  have unbound := query.unboundVariables_rename change apart
  refine ⟨⟨contexts, joined, joined'⟩, ?_⟩
  by_cases missing : settings.unbound = .reject ∧ query.unboundVariables ≠ []
  · have missing' : settings.unbound = .reject ∧ (query.rename change).unboundVariables ≠ [] := by
      simpa [unbound] using missing
    refine .inr ⟨query.unboundVariables, run_rejected verbose query store settings missing, ?_⟩
    rw [run_rejected verbose _ store settings missing', unbound]
  · have accepted : ¬ (settings.unbound = .reject ∧ (query.rename change).unboundVariables ≠ []) := by
      simpa [unbound] using missing
    have formed' : ∀ pattern ∈ (query.rename change).body, pattern.Formed := by
      intro pattern member
      obtain ⟨before, inside, rfl⟩ := List.mem_map.mp member
      exact before.formed_rename change (formed before inside)
    have rows := (query.run_settled store settings verbose formed missing contexts joined).1
    have rows' := ((query.rename change).run_settled store settings verbose formed' accepted _ joined').1
    rw [query.rows_rename change apart contexts binds] at rows'
    exact .inl ⟨_, rows, rows'⟩

end Query

def Store.marked : Store :=
  .ofFacts [⟨.text "?what", .text "is", .text "?other", by decide⟩,
    ⟨.text "?other", .text "is", .text "?other", by decide⟩]

def Query.marked : Query :=
  ⟨[.var .what, .const (.text "?what")],
    [.ofTerms (.var .what) (.const (.text "is")) (.var .other),
      .ofTerms (.var .other) (.const (.text "is")) (.var .other)]⟩

def Variable.swapped (name : Variable) : Variable := if name = .what then .other else .what

theorem Query.run_rename_marked :
    (∀ pattern ∈ marked.body, pattern.Formed) ∧ KeepsApart .swapped marked.mentioned ∧
      (∃ contexts, (Store.marked.join false .selective marked.body).result = .ok contexts ∧
        (Store.marked.join false .selective (marked.rename .swapped).body).result =
          .ok (contexts.map (Bindings.rename .swapped))) ∧
      ((marked.rename .swapped).run false .marked ⟨.selective, .reject⟩).result =
        .ok [[.text "?what", .text "?what"], [.text "?other", .text "?what"]] := by
  have formed : ∀ pattern ∈ marked.body, pattern.Formed := by
    simp [marked, Pattern.ofTerms_formed]
  have apart : KeepsApart .swapped marked.mentioned := by decide
  have renamed := run_rename .swapped marked apart formed .marked ⟨.selective, .reject⟩ false
  exact ⟨formed, apart, renamed.1, rfl⟩

end TripleQuery
