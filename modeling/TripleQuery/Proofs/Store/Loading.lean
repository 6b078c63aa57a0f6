import TripleQuery.Pattern
import TripleQuery.Store.Basic
import TripleQuery.Proofs.Except
import TripleQuery.Proofs.Value.Components
import Mathlib.Data.List.Perm.Basic

/-!
Well-formed values stay so when they are taken apart: what a store is loaded from is what its facts consist of,
and what a pattern is read from is what its literals are.
-/

namespace TripleQuery

namespace Value

private theorem wellFormed_of_item (value item : Value) (items : List Value) (formed : value.WellFormed)
    (listed : value.items? = some items) (member : item ∈ items) : item.WellFormed := by
  obtain ⟨_, _, inside⟩ := formed
  cases value with
  | list | tuple | pattern =>
    cases listed
    exact inside item member
  | dict entries | bindings entries =>
    cases listed
    obtain ⟨entry, member', rfl⟩ := List.mem_map.mp member
    exact inside entry.1 (List.mem_flatMap.mpr ⟨entry, member', by simp⟩)
  | text | bytes =>
    cases listed
    obtain ⟨part, _, rfl⟩ := List.mem_map.mp member
    exact wellFormed_of_isScalar _ rfl
  | null | bool | int | float | term | query | settings => cases listed

end Value

namespace Fact

def WellFormed (fact : Fact) : Prop := ∀ field, (fact.get field).WellFormed

private theorem fields_of_ofFields (row : Nat) (entity attr value : Value) (fact : Fact)
    (made : ofFields row entity attr value = .ok fact) : fact.fields = [entity, attr, value] := by
  unfold ofFields at made
  split at made
  · split at made
    · split at made
      · cases made
        rfl
      · contradiction
    · contradiction
  · contradiction

private theorem fields_of_ofRow (row : Nat) (raw : Value) (fact : Fact) (made : ofRow row raw = .ok fact) :
    raw.items? = some fact.fields := by
  unfold ofRow at made
  split at made
  · contradiction
  · split at made
    · contradiction
    next entity attr value listed => rw [listed, fields_of_ofFields row entity attr value fact made]
    · contradiction

theorem ofRow_eq_ok (row : Nat) (raw : Value) (fact : Fact) :
    ofRow row raw = .ok fact ↔ raw.isString = false ∧ raw.items? = some fact.fields := by
  constructor
  · intro made
    refine ⟨?_, fields_of_ofRow row raw fact made⟩
    cases string : raw.isString with
    | false => rfl
    | true => simp [ofRow, string] at made
  · rintro ⟨plain, listed⟩
    obtain ⟨entity, attr, value, entityKey, attrKey, valueKey⟩ := fact
    simp [ofRow, plain, listed, fields, ofFields, entityKey, attrKey, valueKey]

theorem ofRows_eq_ok (row : Nat) (rows : List Value) (facts : List Fact) :
    ofRows row rows = .ok facts ↔
      List.Forall₂ (fun raw fact => raw.isString = false ∧ raw.items? = some fact.fields) rows facts := by
  induction rows generalizing row facts with
  | nil =>
    rw [ofRows, List.forall₂_nil_left_iff, Except.ok.injEq]
    exact eq_comm
  | cons raw rest ih =>
    simp only [ofRows, bind_eq_ok, ofRow_eq_ok, ih, Except.ok.injEq]
    constructor
    · rintro ⟨fact, here, others, there, rfl⟩
      exact .cons here there
    · intro read
      cases read with
      | @cons _ fact _ others here there => exact ⟨fact, here, others, there, rfl⟩

theorem ofRows_reordered (row : Nat) (rows other : List Value) (facts : List Fact) (permuted : rows.Perm other)
    (made : ofRows row rows = .ok facts) : ∃ facts', ofRows row other = .ok facts' ∧ facts.Perm facts' := by
  rw [ofRows_eq_ok] at made
  obtain ⟨facts', read, moved⟩ := List.perm_comp_forall₂ permuted.symm made
  exact ⟨facts', (ofRows_eq_ok row other facts').mpr read, moved.symm⟩

private theorem get_mem_fields (fact : Fact) (field : Field) : fact.get field ∈ fact.fields := by
  cases field <;> simp [get, fields]

theorem ofRows_wellFormed (row : Nat) (rows : List Value) (facts : List Fact)
    (formed : ∀ raw ∈ rows, raw.WellFormed) (made : ofRows row rows = .ok facts) :
    ∀ fact ∈ facts, fact.WellFormed := by
  intro fact member field
  obtain ⟨raw, inside, _, listed⟩ := forall₂_right_mem ((ofRows_eq_ok row rows facts).mp made) fact member
  exact raw.wellFormed_of_item _ _ (formed raw inside) listed (fact.get_mem_fields field)

end Fact

namespace Store

def WellFormed (store : Store) : Prop := ∀ fact ∈ store.facts, fact.WellFormed

theorem ofRows_eq_ok (rows : List Value) (store : Store) :
    ofRows rows = .ok store ↔ ∃ facts, Fact.ofRows 0 rows = .ok facts ∧ ofFacts facts = store := by
  cases read : Fact.ofRows 0 rows <;> simp [ofRows, read, Except.map]

theorem ofRows_wellFormed (rows : List Value) (store : Store) (formed : ∀ raw ∈ rows, raw.WellFormed)
    (made : ofRows rows = .ok store) : store.WellFormed := by
  obtain ⟨facts, read, rfl⟩ := (ofRows_eq_ok rows store).mp made
  exact Fact.ofRows_wellFormed 0 rows facts formed read

theorem ofRows_reordered (rows other : List Value) (store : Store) (permuted : rows.Perm other)
    (made : ofRows rows = .ok store) : ∃ store', ofRows other = .ok store' ∧ store.facts.Perm store'.facts := by
  obtain ⟨facts, read, rfl⟩ := (ofRows_eq_ok rows store).mp made
  obtain ⟨facts', read', moved⟩ := Fact.ofRows_reordered 0 rows other facts permuted read
  exact ⟨ofFacts facts', (ofRows_eq_ok other _).mpr ⟨facts', read', rfl⟩, moved⟩

end Store

theorem Term.ofValue_wellFormed (part literal : Value) (formed : part.WellFormed)
    (read : Term.ofValue part = .ok (.const literal)) : literal.WellFormed := by
  cases part with
  | term term =>
    cases read
    obtain ⟨_, _, inside⟩ := formed
    exact inside literal (by simp [Value.components, Term.components])
  | text text =>
    simp only [Term.ofValue] at read
    split at read
    · cases named : Variable.ofValue (.text text) <;> simp [named, Except.map] at read
    · cases read
      exact formed
  | _ =>
    cases read
    exact formed

namespace Pattern

def WellFormed (pattern : Pattern) : Prop :=
  ∀ field literal, pattern.literal? field = some literal → literal.WellFormed

/-- What a pattern is read from is a pattern already, or has three items, each read as the term in its place. -/
theorem ofValue_read (given : Value) (pattern : Pattern) (read : ofValue given = .ok pattern) :
    given = .pattern pattern ∨
      ∃ parts terms, given.items? = some parts ∧ parts.length = 3 ∧
        List.Forall₂ (fun part term => Term.ofValue part = .ok term) parts terms ∧
        pattern.places = terms.map Value.term := by
  unfold ofValue at read
  split at read
  · cases read
    exact .inl rfl
  · split at read
    · cases read
    · split at read
      · cases read
      next entity attr value listed =>
        simp only [bind_eq_ok, Except.ok.injEq] at read
        obtain ⟨entity', first, attr', second, value', third, rfl⟩ := read
        exact .inr ⟨_, [entity', attr', value'], listed, rfl, .cons first (.cons second (.cons third .nil)), rfl⟩
      · cases read

theorem ofValue_wellFormed (given : Value) (pattern : Pattern) (formed : given.WellFormed)
    (read : ofValue given = .ok pattern) : pattern.WellFormed := by
  intro field literal holds
  have placed := pattern.place_mem_places field
  rw [(pattern.literal?_eq_some field literal).mp holds] at placed
  rcases ofValue_read given pattern read with rfl | ⟨parts, terms, listed, _, each, places⟩
  · obtain ⟨_, _, inside⟩ := formed
    exact Term.ofValue_wellFormed _ literal (inside _ placed) rfl
  · rw [places] at placed
    obtain ⟨term, member, same⟩ := List.mem_map.mp placed
    cases same
    obtain ⟨part, given', read'⟩ := forall₂_right_mem each _ member
    exact Term.ofValue_wellFormed part literal (given.wellFormed_of_item part parts formed listed given') read'

end Pattern

end TripleQuery
