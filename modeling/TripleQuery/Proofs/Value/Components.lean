import TripleQuery.Bindings

/-!
The values that stand directly inside a value, induction along them, and properties that hold at every depth.
A value is well-formed when no mapping at any depth holds one key twice.
-/

namespace TripleQuery

namespace Entries

def Apart (entries : Entries) : Prop := entries.Pairwise fun left right => left.1.equals right.1 = false

end Entries

namespace Term

def components : Term → List Value
  | var _ => []
  | const value => [value]

end Term

namespace Value

def components : Value → List Value
  | list items | tuple items => items
  | dict entries | bindings entries => entries.flatMap fun entry => [entry.1, entry.2]
  | term value => value.components
  | pattern value => value.places
  | query value => value.find.flatMap Term.components ++ value.body.flatMap Pattern.places
  | null | bool _ | int _ | float _ | text _ | bytes _ | settings _ => []

private theorem size_term (term : Term) (part : Value) (inside : part ∈ term.components) :
    sizeOf part < sizeOf term := by
  cases term with
  | var name => simp [Term.components] at inside
  | const value =>
    rw [List.mem_singleton.mp inside]
    simp

private theorem size_pattern (pattern : Pattern) (part : Value) (inside : part ∈ pattern.places) :
    sizeOf part < sizeOf pattern := by
  obtain ⟨entity, attr, value⟩ := pattern
  simp only [Pattern.places, List.mem_cons, List.not_mem_nil, or_false] at inside
  rcases inside with rfl | rfl | rfl <;> simp only [Pattern.mk.sizeOf_spec] <;> omega

private theorem size_entries (entries : Entries) (part : Value)
    (inside : part ∈ entries.flatMap fun entry => [entry.1, entry.2]) : sizeOf part < sizeOf entries := by
  obtain ⟨⟨key, value⟩, member, inside⟩ := List.mem_flatMap.mp inside
  have bound := List.sizeOf_lt_of_mem member
  simp only [Prod.mk.sizeOf_spec] at bound
  simp only [List.mem_cons, List.not_mem_nil, or_false] at inside
  rcases inside with rfl | rfl <;> omega

private theorem size_query (find : List Term) (body : List Pattern) (part : Value)
    (inside : part ∈ find.flatMap Term.components ++ body.flatMap Pattern.places) :
    sizeOf part < sizeOf (Query.mk find body) := by
  simp only [Query.mk.sizeOf_spec]
  rcases List.mem_append.mp inside with inside | inside
  · obtain ⟨term, member, inside⟩ := List.mem_flatMap.mp inside
    have bound := List.sizeOf_lt_of_mem member
    have smaller := size_term term part inside
    omega
  · obtain ⟨pattern, member, inside⟩ := List.mem_flatMap.mp inside
    have bound := List.sizeOf_lt_of_mem member
    have smaller := size_pattern pattern part inside
    omega

private theorem size_components (value part : Value) (inside : part ∈ value.components) :
    sizeOf part < sizeOf value := by
  cases value with
  | list items | tuple items =>
    have bound : sizeOf part < sizeOf items := List.sizeOf_lt_of_mem inside
    simp
    omega
  | dict entries | bindings entries =>
    have bound := size_entries entries part inside
    simp
    omega
  | term term =>
    have bound := size_term term part inside
    simp
    omega
  | pattern pattern =>
    have bound := size_pattern pattern part inside
    simp
    omega
  | query query =>
    obtain ⟨find, body⟩ := query
    have bound := size_query find body part inside
    simp only [query.sizeOf_spec]
    omega
  | null | bool value | int value | float value | text value | bytes value | settings value =>
    simp [components] at inside

theorem components_of_mapping (value : Value) (entries : Entries) (mapping : value.mapping? = some entries) :
    value.components = entries.flatMap fun entry => [entry.1, entry.2] := by
  cases value with
  | dict | bindings =>
    cases mapping
    rfl
  | _ => cases mapping

theorem mem_components_of_entry (value : Value) (entries : Entries) (mapping : value.mapping? = some entries)
    (entry : Value × Value) (member : entry ∈ entries) :
    entry.1 ∈ value.components ∧ entry.2 ∈ value.components := by
  rw [components_of_mapping value entries mapping]
  exact ⟨List.mem_flatMap.mpr ⟨entry, member, by simp⟩, List.mem_flatMap.mpr ⟨entry, member, by simp⟩⟩

theorem entry_of_mem_components (value : Value) (entries : Entries) (mapping : value.mapping? = some entries)
    (part : Value) (inside : part ∈ value.components) : ∃ entry ∈ entries, part = entry.1 ∨ part = entry.2 := by
  rw [components_of_mapping value entries mapping] at inside
  obtain ⟨entry, member, inside⟩ := List.mem_flatMap.mp inside
  exact ⟨entry, member, by simpa using inside⟩

/-- What holds of a value whenever it holds of all values directly inside holds of every value. -/
@[elab_as_elim]
theorem components_induction {motive : Value → Prop}
    (step : ∀ value, (∀ part ∈ value.components, motive part) → motive value) (value : Value) :
    motive value :=
  step value fun part _ => components_induction step part
termination_by sizeOf value
decreasing_by exact size_components value part ‹_›

/-- Holds of a value and of all values inside it, at any depth. -/
inductive Everywhere (holds : Value → Prop) : Value → Prop
  | intro (value : Value) (here : holds value) (inside : ∀ part ∈ value.components, Everywhere holds part) :
    Everywhere holds value

theorem Everywhere.here {holds : Value → Prop} {value : Value} (all : value.Everywhere holds) : holds value := by
  cases all with
  | intro _ here _ => exact here

theorem Everywhere.mono {holds holds' : Value → Prop} {value : Value} (all : value.Everywhere holds)
    (weaker : ∀ part, holds part → holds' part) : value.Everywhere holds' := by
  induction all with
  | intro value here _ ih => exact .intro value (weaker value here) ih

section Inside

variable (holds : Value → Prop)

theorem everywhere_iff (value : Value) :
    value.Everywhere holds ↔ holds value ∧ ∀ part ∈ value.components, part.Everywhere holds :=
  ⟨fun ⟨_, here, inside⟩ => ⟨here, inside⟩, fun ⟨here, inside⟩ => .intro value here inside⟩

theorem everywhere_of_isScalar (value : Value) (scalar : value.isScalar = true) :
    value.Everywhere holds ↔ holds value := by
  rw [everywhere_iff]
  refine and_iff_left fun part inside => ?_
  cases value with
  | null | bool | int | float | text => simp [components] at inside
  | _ => cases scalar

theorem everywhere_list (items : List Value) (here : holds (.list items)) :
    (list items).Everywhere holds ↔ ∀ item ∈ items, item.Everywhere holds := by
  rw [everywhere_iff, and_iff_right here]
  rfl

theorem everywhere_dict (entries : Entries) (here : holds (.dict entries)) :
    (dict entries).Everywhere holds ↔ ∀ entry ∈ entries, entry.1.Everywhere holds ∧ entry.2.Everywhere holds := by
  rw [everywhere_iff, and_iff_right here, components, List.forall_mem_flatMap]
  simp only [List.forall_mem_cons, List.not_mem_nil, false_implies, implies_true, and_true]

end Inside

def KeysApart (value : Value) : Prop := ∀ entries, value.mapping? = some entries → Entries.Apart entries

/-- No mapping at any depth holds a key twice. -/
abbrev WellFormed (value : Value) : Prop := value.Everywhere KeysApart

theorem wellFormed_of_isScalar (value : Value) (scalar : value.isScalar = true) : value.WellFormed := by
  refine (everywhere_of_isScalar KeysApart value scalar).mpr fun entries mapping => ?_
  cases value with
  | dict | bindings => cases scalar
  | _ => cases mapping

end Value

end TripleQuery
