import TripleQuery.Proofs.Domain
import TripleQuery.Proofs.Unification

/-!
Carrying a context through a search is the same as putting it into the pattern. A search from a context finds the
entries of the context and, after them, what a search from nothing finds for the pattern in which every variable
that the context binds is replaced by its value. The replaced variables are new literals, so the two searches read
other buckets; neither misses a match.
-/

namespace TripleQuery

namespace Bindings

/-- A variable that the context binds becomes the literal it is bound to; other terms stay. -/
def substitute (context : Bindings) : Term → Term
  | .var name =>
    match context.value? name with
    | some held => .const held
    | none => .var name
  | .const value => .const value

def followedBy (context added : Bindings) : Bindings := ⟨context.entries ++ added.entries⟩

private theorem followedBy_empty (context : Bindings) : context.followedBy .empty = context := by
  simp [followedBy, empty]

private theorem value?_followedBy (context added : Bindings) (name : Variable) :
    (context.followedBy added).value? name = (context.value? name).or (added.value? name) := by
  simp only [followedBy, value?, get?, Entries.get?, List.find?_append, Option.map_or]

private theorem bind_followedBy (context added : Bindings) (name : Variable) (value : Value) :
    (context.followedBy added).bind name value = context.followedBy (added.bind name value) := by
  simp only [followedBy, bind, List.append_assoc]

variable (context : Bindings)

private theorem matchValue_substitute (term : Term) (value : Value) (added : Bindings) :
    term.matchValue value (context.followedBy added) =
      ((context.substitute term).matchValue value added).map context.followedBy := by
  cases term with
  | const literal =>
    simp only [substitute, Term.matchValue]
    split <;> rfl
  | var name =>
    cases known : context.value? name with
    | some held =>
      simp only [substitute, Term.matchValue, value?_followedBy, known, Option.some_or]
      split <;> rfl
    | none =>
      simp only [substitute, Term.matchValue, value?_followedBy, known, Option.none_or]
      cases added.value? name with
      | some held =>
        dsimp only
        split <;> rfl
      | none => simp [bind_followedBy]

private theorem meet_substitute (meetings : List Meeting) (added : Bindings) :
    (context.followedBy added).meet meetings =
      (added.meet (meetings.map fun meeting => (context.substitute meeting.1, meeting.2))).map
        context.followedBy := by
  induction meetings generalizing added with
  | nil => rfl
  | cons meeting rest ih =>
    obtain ⟨term, value⟩ := meeting
    rw [List.map_cons, meet_cons, meet_cons, matchValue_substitute]
    cases (context.substitute term).matchValue value added with
    | none => rfl
    | some next => exact ih next

end Bindings

namespace Pattern

variable (pattern : Pattern) (context : Bindings)

def substitute : Pattern := pattern.mapTerms context.substitute

private theorem matched_substitute (fact : Fact) :
    pattern.matched (some context) fact =
      ((pattern.substitute context).matched (some .empty) fact).map context.followedBy := by
  have split := context.meet_substitute (pattern.meetings fact) .empty
  rw [context.followedBy_empty, ← pattern.meetings_mapTerms] at split
  exact split

private theorem literal_of_substitute (field : Field) (literal : Value)
    (holds : (pattern.substitute context).literal? field = some literal) :
    pattern.literal? field = some literal ∨ ∃ name, context.value? name = some literal := by
  rw [literal?_eq_some, substitute, place_mapTerms] at holds
  cases place : pattern.place field with
  | term term =>
    rw [place] at holds
    cases term with
    | const value =>
      cases holds
      exact .inl ((pattern.literal?_eq_some field literal).mpr place)
    | var name =>
      cases known : context.value? name with
      | some held =>
        simp only [mapPlace, Bindings.substitute, known] at holds
        cases holds
        exact .inr ⟨name, known⟩
      | none => simp [mapPlace, Bindings.substitute, known] at holds
  | _ => simp [place, mapPlace] at holds

private theorem unbound_of_substitute (name : Variable) (member : name ∈ (pattern.substitute context).vars) :
    context.value? name = none := by
  rw [vars_eq, List.mem_eraseDups, substitute, terms_mapTerms, List.filterMap_map] at member
  obtain ⟨term, _, named⟩ := List.mem_filterMap.mp member
  cases term with
  | const value => cases named
  | var other =>
    cases known : context.value? other with
    | some held => simp [Bindings.substitute, known, Term.name?] at named
    | none =>
      simp only [Function.comp_apply, Bindings.substitute, known, Term.name?, Option.some.injEq] at named
      exact named ▸ known

end Pattern

/-- Searching from a context is searching for the pattern with the context put into it: the same matches in the
same order, each with the entries of the context first and then what the match binds, none of which the context
binds already. The two searches may go by different policies. -/
theorem Store.search_substitute (store : Store) (pattern : Pattern) (formed : pattern.Formed)
    (literals : ∀ field literal, pattern.literal? field = some literal →
      literal.hashable = true ∧ literal.WellFormed)
    (context : Bindings)
    (held : ∀ name value, context.value? name = some value → value.hashable = true ∧ value.WellFormed)
    (policy policy' : IndexPolicy) (verbose verbose' : Bool) :
    ∃ found : List Bindings,
      (store.search verbose' policy' (pattern.substitute context) (some .empty)).result = .ok found ∧
      (store.search verbose policy pattern (some context)).result = .ok (found.map context.followedBy) ∧
      ∀ added ∈ found, ∀ entry ∈ added.entries, context.binds entry.1 = false := by
  have formed' : (pattern.substitute context).Formed := pattern.formed_mapTerms context.substitute formed
  have literals' (field : Field) (literal : Value)
      (holds : (pattern.substitute context).literal? field = some literal) :
      literal.hashable = true ∧ literal.WellFormed := by
    rcases pattern.literal_of_substitute context field literal holds with own | ⟨name, known⟩
    · exact literals field literal own
    · exact held name literal known
  have readable := pattern.readable_of_hashable policy fun field literal holds => (literals field literal holds).1
  have readable' := (pattern.substitute context).readable_of_hashable policy' fun field literal holds =>
    (literals' field literal holds).1
  refine ⟨store.facts.filterMap ((pattern.substitute context).matched (some .empty)), ?_, ?_, ?_⟩
  · rw [search_result store policy' _ verbose' formed' fun field literal holds => (literals' field literal holds).2,
      if_pos readable']
  · rw [search_result store policy pattern verbose formed fun field literal holds => (literals field literal holds).2,
      if_pos readable, List.map_filterMap]
    simp only [← pattern.matched_substitute context]
  · intro added member entry inside
    obtain ⟨fact, _, goes⟩ := List.mem_filterMap.mp member
    have binds := Bindings.binds_empty.matched (pattern.substitute context) fact goes
    obtain ⟨name, left, key⟩ := (binds entry.1).mp (List.mem_map_of_mem inside)
    rw [key]
    exact context.binds_unbound name (pattern.unbound_of_substitute context name (by simpa using left))

def Bindings.one : Bindings := ⟨[(.text "?other", .int 1)]⟩

theorem Store.search_substitute_ones :
    Pattern.ofAnything.Formed ∧
      ∃ found : List Bindings,
        (Store.ones.search false .selective (Pattern.ofAnything.substitute .one) (some .empty)).result = .ok found ∧
        (Store.ones.search true .fixed .ofAnything (some .one)).result = .ok (found.map Bindings.one.followedBy) ∧
        found = [⟨[(.text "?what", .text "one")]⟩, ⟨[(.text "?what", .text "one")]⟩] := by
  have formed : Pattern.ofAnything.Formed := Pattern.ofTerms_formed _ _ _
  have held : ∀ name value, Bindings.one.value? name = some value → value.hashable = true ∧ value.WellFormed := by
    intro name value known
    obtain ⟨entry, found, rfl⟩ := Option.map_eq_some_iff.mp known
    obtain rfl := List.mem_singleton.mp (List.mem_of_find?_eq_some found)
    exact ⟨rfl, Value.wellFormed_of_isScalar _ rfl⟩
  obtain ⟨found, substituted, carried, _⟩ := search_substitute Store.ones .ofAnything formed
    (Pattern.ofAnything.literal_of_scalars (by decide)) .one held .fixed .selective true false
  exact ⟨formed, found, substituted, carried, Except.ok.inj (substituted.symm.trans rfl)⟩

end TripleQuery
