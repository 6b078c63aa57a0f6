import TripleQuery.Proofs.Meeting

/-!
Matching of patterns whose places all hold terms. Such a pattern is never at fault: laid over a fact, its terms
meet the fields of the fact from the context given.
-/

namespace TripleQuery

namespace Pattern

/-- The terms of a pattern over the fields of a fact, field by field. -/
def meetings (pattern : Pattern) (fact : Fact) : List Meeting :=
  Field.all.filterMap fun field => (pattern.place field).term?.map fun term => (term, fact.get field)

def terms (pattern : Pattern) : List Term := pattern.places.filterMap Value.term?

theorem vars_eq (pattern : Pattern) : pattern.vars = (pattern.terms.filterMap Term.name?).eraseDups := by
  rw [terms, List.filterMap_filterMap]
  rfl

theorem terms_of_meetings (pattern : Pattern) (fact : Fact) : (pattern.meetings fact).map Prod.fst = pattern.terms := by
  have places : pattern.places = Field.all.map pattern.place := rfl
  rw [meetings, terms, places, List.map_filterMap, List.filterMap_map]
  simp only [Option.map_map, Function.comp_def, Option.map_id']

theorem mem_vars (pattern : Pattern) (fact : Fact) (name : Variable) :
    name ∈ pattern.vars ↔ name ∈ (pattern.meetings fact).filterMap fun meeting => meeting.1.name? := by
  rw [vars_eq, List.mem_eraseDups, ← pattern.terms_of_meetings fact, List.filterMap_map]
  rfl

def matched (pattern : Pattern) (context : Option Bindings) (fact : Fact) : Option Bindings :=
  context.bind fun context => context.meet (pattern.meetings fact)

theorem ofTerms_formed (entity attr value : Term) : (ofTerms entity attr value).Formed := by
  intro field
  cases field <;> rfl

theorem formed_iff (pattern : Pattern) :
    pattern.Formed ↔ ∃ entity attr value, pattern = ofTerms entity attr value := by
  have holds_term (place : Value) (holds : place.term?.isSome = true) : ∃ term, place = .term term := by
    cases place <;> simp_all [Value.term?]
  constructor
  · intro formed
    obtain ⟨entity, isEntity⟩ := holds_term pattern.entity (formed .entity)
    obtain ⟨attr, isAttr⟩ := holds_term pattern.attr (formed .attr)
    obtain ⟨value, isValue⟩ := holds_term pattern.value (formed .value)
    cases pattern
    exact ⟨entity, attr, value, by simp_all [ofTerms]⟩
  · rintro ⟨entity, attr, value, rfl⟩
    exact ofTerms_formed entity attr value

def mapPlace (change : Term → Term) : Value → Value
  | .term term => .term (change term)
  | place => place

/-- The pattern with every term changed, and nothing where a place holds none. -/
def mapTerms (change : Term → Term) (pattern : Pattern) : Pattern :=
  ⟨mapPlace change pattern.entity, mapPlace change pattern.attr, mapPlace change pattern.value⟩

theorem place_mapTerms (change : Term → Term) (pattern : Pattern) (field : Field) :
    (pattern.mapTerms change).place field = mapPlace change (pattern.place field) := by
  cases field <;> rfl

private theorem term?_mapPlace (change : Term → Term) (place : Value) :
    (mapPlace change place).term? = place.term?.map change := by
  cases place <;> rfl

theorem formed_mapTerms (change : Term → Term) (pattern : Pattern) (formed : pattern.Formed) :
    (pattern.mapTerms change).Formed := by
  intro field
  rw [place_mapTerms, term?_mapPlace, Option.isSome_map]
  exact formed field

theorem meetings_mapTerms (change : Term → Term) (pattern : Pattern) (fact : Fact) :
    (pattern.mapTerms change).meetings fact =
      (pattern.meetings fact).map fun meeting => (change meeting.1, meeting.2) := by
  simp only [meetings, place_mapTerms, term?_mapPlace, List.map_filterMap, Option.map_map, Function.comp_def]

theorem terms_mapTerms (change : Term → Term) (pattern : Pattern) :
    (pattern.mapTerms change).terms = pattern.terms.map change := by
  have places : (pattern.mapTerms change).places = pattern.places.map (mapPlace change) := rfl
  rw [terms, terms, places, List.filterMap_map, List.map_filterMap]
  simp only [Function.comp_def, term?_mapPlace]

theorem matchPart_term (term : Term) (value : Value) (context : Option Bindings) :
    matchPart (.term term) value context = .ok (context.bind (term.matchValue value)) := by
  cases context <;> rfl

theorem matchFact_eq (pattern : Pattern) (formed : pattern.Formed) (context : Option Bindings) (fact : Fact) :
    pattern.matchFact fact context = .ok (pattern.matched context fact) := by
  obtain ⟨entity, attr, value, rfl⟩ := (formed_iff pattern).mp formed
  have laid : (ofTerms entity attr value).meetings fact =
      [(entity, fact.entity), (attr, fact.attr), (value, fact.value)] := rfl
  simp only [matchFact, places, ofTerms, Fact.fields, matchParts, matchPart_term, matched]
  rw [← ofTerms, laid]
  simp only [Bindings.meet_cons, Bindings.meet_nil, bind, Except.bind, Option.bind_assoc, Option.bind_fun_some]

theorem matchFacts_eq (pattern : Pattern) (formed : pattern.Formed) (context : Option Bindings)
    (facts : List Fact) :
    pattern.matchFacts context facts = .ok (facts.filterMap (pattern.matched context)) := by
  induction facts with
  | nil => rfl
  | cons fact rest ih =>
    rw [matchFacts, matchFact_eq pattern formed, ih]
    cases found : pattern.matched context fact <;> simp [bind, Except.bind, found]

theorem parts_eq (pattern : Pattern) (formed : pattern.Formed) : ∃ parts, pattern.parts = .ok parts := by
  obtain ⟨entity, attr, value, rfl⟩ := (formed_iff pattern).mp formed
  exact ⟨[entity.part, attr.part, value.part], rfl⟩

theorem mem_literals (pattern : Pattern) (field : Field) (literal : Value) :
    (field, literal) ∈ pattern.literals ↔ pattern.literal? field = some literal := by
  simp only [literals, List.mem_filterMap, Option.map_eq_some_iff, Prod.mk.injEq]
  constructor
  · rintro ⟨field, _, literal, holds, rfl, rfl⟩
    exact holds
  · intro holds
    exact ⟨field, by cases field <;> simp [Field.all], literal, holds, rfl, rfl⟩

private theorem mem_meetings_of_literal (pattern : Pattern) (fact : Fact) (field : Field) (literal : Value)
    (holds : pattern.literal? field = some literal) : (.const literal, fact.get field) ∈ pattern.meetings fact := by
  refine List.mem_filterMap.mpr ⟨field, by cases field <;> simp [Field.all], ?_⟩
  rw [(pattern.literal?_eq_some field literal).mp holds]
  rfl

theorem same_of_matched (pattern : Pattern) (context : Option Bindings) (fact : Fact)
    (goes : (pattern.matched context fact).isSome = true) (field : Field) (literal : Value)
    (holds : pattern.literal? field = some literal) : literal.same (fact.get field) = true := by
  cases context with
  | none => simp [matched] at goes
  | some context =>
    rw [matched, Option.bind_some, Bindings.meet_eq] at goes
    split at goes
    next agrees => exact agrees.1 _ (mem_meetings_of_literal pattern fact field literal holds) literal rfl
    next => contradiction

end Pattern

end TripleQuery
