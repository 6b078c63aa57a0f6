import TripleQuery.Proofs.Matching
import TripleQuery.Proofs.Store.Loading

/-!
Matching a pattern with any three values, from any context. It never fails, and it goes through exactly when the
values agree with the literals, with what the context binds, and with each other wherever a new variable stands
more than once. The context then grows by the new variables alone, each bound to the first value it stands over
and none of them bound before. Shorthand matches as the pattern that it is read as.
-/

namespace TripleQuery

def Value.Uniform : List Value → Prop
  | [] => True
  | first :: later => ∀ value ∈ later, first.same value = true

namespace Occurrence

def valuesOf (occurrences : List Occurrence) (name : Variable) : List Value :=
  occurrences.filterMap fun occurrence => if occurrence.1 = name then some occurrence.2 else none

private theorem valuesOf_cons (bound : Variable) (value : Value) (rest : List Occurrence) (name : Variable) :
    valuesOf ((bound, value) :: rest) name =
      if bound = name then value :: valuesOf rest name else valuesOf rest name := by
  by_cases same : bound = name <;> simp [valuesOf, same]

end Occurrence

namespace Bindings

/-- What lets terms over values go through from a context: a literal is the same as its value; what the context
binds is the same as every value that its variable stands over; and a variable that the context does not bind
stands over values of which the first is the same as the later ones. -/
structure Admits (context : Bindings) (meetings : List Meeting) : Prop where
  literals : ∀ literal value, (Term.const literal, value) ∈ meetings → literal.same value = true
  bound : ∀ name held, context.value? name = some held →
    ∀ value ∈ Occurrence.valuesOf (Meeting.occurrences meetings) name, held.same value = true
  repeated : ∀ name, context.value? name = none →
    Value.Uniform (Occurrence.valuesOf (Meeting.occurrences meetings) name)

private theorem repeatsAgree_iff_uniform (context : Bindings) (occurrences : List Occurrence) :
    context.RepeatsAgree occurrences ↔
      ∀ name, Value.Uniform ((context.value? name).toList ++ Occurrence.valuesOf occurrences name) := by
  induction occurrences generalizing context with
  | nil =>
    refine ⟨fun _ name => ?_, fun _ position inside => by simp at inside⟩
    cases context.value? name <;> simp [Value.Uniform, Occurrence.valuesOf]
  | cons occurrence rest ih =>
    obtain ⟨bound, value⟩ := occurrence
    cases known : context.value? bound with
    | some held =>
      rw [repeatsAgree_bound context bound held value rest known, ih]
      constructor
      · rintro ⟨here, others⟩ name
        by_cases same : bound = name
        · subst same
          have later := others bound
          simp only [known, Option.toList_some, List.singleton_append, Value.Uniform] at later
          simpa [known, Occurrence.valuesOf_cons, Value.Uniform] using ⟨here, later⟩
        · simpa [Occurrence.valuesOf_cons, same] using others name
      · intro uniform
        have own := uniform bound
        simp only [known, Option.toList_some, List.singleton_append, Occurrence.valuesOf_cons, if_true,
          Value.Uniform, List.forall_mem_cons] at own
        refine ⟨own.1, fun name => ?_⟩
        by_cases same : bound = name
        · subst same
          simpa [known, Value.Uniform] using own.2
        · simpa [Occurrence.valuesOf_cons, same] using uniform name
    | none =>
      -- The occurrence moves from the head of the values to what the grown context holds.
      have moved (name : Variable) : ((context.bind bound value).value? name).toList ++
          Occurrence.valuesOf rest name =
          (context.value? name).toList ++ Occurrence.valuesOf ((bound, value) :: rest) name := by
        rw [value?_bind, Occurrence.valuesOf_cons]
        by_cases same : bound = name
        · subst same
          simp [known]
        · simp [same, Ne.symm same]
      simp only [repeatsAgree_unbound context bound value rest known, ih, moved]

private theorem agrees_iff_admits (context : Bindings) (meetings : List Meeting) :
    context.Agrees meetings ↔ context.Admits meetings := by
  have literals : Meeting.LiteralsAgree meetings ↔
      ∀ literal value, (Term.const literal, value) ∈ meetings → literal.same value = true := by
    constructor
    · intro agree literal value member
      exact agree _ member literal rfl
    · rintro agree ⟨term, value⟩ member literal holds
      cases term with
      | var name => cases holds
      | const held =>
        cases holds
        exact agree literal value member
  rw [Agrees, repeatsAgree_iff_uniform, literals]
  constructor
  · rintro ⟨same, uniform⟩
    refine ⟨same, fun name held known => ?_, fun name unknown => ?_⟩
    · simpa [known, Value.Uniform] using uniform name
    · simpa [unknown] using uniform name
  · rintro ⟨same, bound, repeated⟩
    refine ⟨same, fun name => ?_⟩
    cases known : context.value? name with
    | some held => simpa [Value.Uniform] using bound name held known
    | none => simpa using repeated name known

private theorem eraseDups_filter {α : Type} [BEq α] [LawfulBEq α] (keep : α → Bool) (items : List α) :
    (items.filter keep).eraseDups = items.eraseDups.filter keep := by
  match items with
  | [] => rfl
  | first :: rest =>
    have others := eraseDups_filter keep (rest.filter fun item => !item == first)
    rw [List.eraseDups_cons]
    by_cases kept : keep first = true
    · rw [List.filter_cons_of_pos kept, List.filter_cons_of_pos kept, List.eraseDups_cons, ← others,
        List.filter_filter, List.filter_filter]
      simp only [Bool.and_comm]
    · have passed : rest.filter keep = (rest.filter fun item => !item == first).filter keep := by
        rw [List.filter_filter]
        apply List.filter_congr
        intro item _
        by_cases same : item = first
        · simp [same, kept]
        · simp [same]
      rw [List.filter_cons_of_neg kept, List.filter_cons_of_neg kept, ← others, passed]
termination_by items.length
decreasing_by exact Nat.lt_succ_of_le (List.length_filter_le _ _)

private theorem fresh_names (context : Bindings) (occurrences : List Occurrence) :
    (context.fresh occurrences).map Prod.fst =
      (occurrences.map Prod.fst).eraseDups.filter fun name => (context.value? name).isNone := by
  induction occurrences generalizing context with
  | nil => rfl
  | cons occurrence rest ih =>
    obtain ⟨bound, value⟩ := occurrence
    rw [List.map_cons, List.eraseDups_cons, eraseDups_filter]
    cases known : context.value? bound with
    | some held =>
      rw [fresh_bound context bound held value rest known, ih, List.filter_cons_of_neg (by simp [known]),
        List.filter_filter]
      apply List.filter_congr
      intro name _
      by_cases same : name = bound
      · simp [same, known]
      · simp [same]
    | none =>
      rw [fresh_unbound context bound value rest known, List.map_cons, ih,
        List.filter_cons_of_pos (by simp [known]), List.filter_filter]
      congr 1
      apply List.filter_congr
      intro name _
      rw [value?_bind]
      by_cases same : name = bound
      · simp [same]
      · simp [same]

private theorem fresh_first (context : Bindings) (occurrences : List Occurrence) (added : Occurrence)
    (member : added ∈ context.fresh occurrences) :
    context.value? added.1 = none ∧ (Occurrence.valuesOf occurrences added.1).head? = some added.2 := by
  induction occurrences generalizing context with
  | nil => simp [fresh] at member
  | cons occurrence rest ih =>
    obtain ⟨bound, value⟩ := occurrence
    rw [Occurrence.valuesOf_cons]
    cases known : context.value? bound with
    | some held =>
      rw [fresh_bound context bound held value rest known] at member
      obtain ⟨unknown, first⟩ := ih context member
      have other : bound ≠ added.1 := fun same => by simp [← same, known] at unknown
      exact ⟨unknown, by rw [if_neg other, first]⟩
    | none =>
      rw [fresh_unbound context bound value rest known] at member
      rcases List.mem_cons.mp member with rfl | member
      · exact ⟨known, by simp⟩
      · obtain ⟨unknown, first⟩ := ih (context.bind bound value) member
        rw [value?_bind, Option.or_eq_none_iff] at unknown
        have other : bound ≠ added.1 := fun same => by simp [same] at unknown
        exact ⟨unknown.1, by rw [if_neg other, first]⟩

/-- The context after one extension for each of some variables, each of which must be new by then. -/
def extendAll (context : Bindings) (added : List Occurrence) : Except Error Bindings :=
  added.foldlM (fun context occurrence => context.extend (.text occurrence.1.name) occurrence.2) context

theorem binds_unbound (context : Bindings) (name : Variable) (unknown : context.value? name = none) :
    context.binds (.text name.name) = false := by
  simpa [value?, get?, Entries.get?, binds, Entries.hasKey] using unknown

private theorem extend_unbound (context : Bindings) (name : Variable) (value : Value)
    (unknown : context.value? name = none) :
    context.extend (.text name.name) value = .ok (context.bind name value) := by
  simp [extend, Value.hashable, binds_unbound context name unknown, bind]

private theorem extendAll_fresh (context : Bindings) (occurrences : List Occurrence) :
    context.extendAll (context.fresh occurrences) = .ok (context.completed occurrences) := by
  induction occurrences generalizing context with
  | nil => simp [extendAll, fresh, completed, pure, Except.pure]
  | cons occurrence rest ih =>
    obtain ⟨bound, value⟩ := occurrence
    cases known : context.value? bound with
    | some held =>
      rw [fresh_bound context bound held value rest known, completed_bound context bound held value rest known, ih]
    | none =>
      rw [fresh_unbound context bound value rest known, completed_unbound context bound value rest known,
        extendAll, List.foldlM_cons, extend_unbound context bound value known]
      exact ih (context.bind bound value)

end Bindings

namespace Pattern

private theorem places_eq (pattern : Pattern) (formed : pattern.Formed) :
    pattern.places = pattern.terms.map Value.term ∧ pattern.terms.length = 3 := by
  obtain ⟨entity, attr, value, rfl⟩ := (formed_iff pattern).mp formed
  exact ⟨rfl, rfl⟩

private theorem names_of_zip (terms : List Term) (values : List Value) (size : terms.length = values.length) :
    (Meeting.occurrences (terms.zip values)).map Prod.fst = terms.filterMap Term.name? := by
  have firsts : (terms.zip values).map Prod.fst = terms := List.map_fst_zip (Nat.le_of_eq size)
  conv_rhs => rw [← firsts]
  rw [Meeting.occurrences, List.map_filterMap, List.filterMap_map]
  congr 1
  funext meeting
  simp [Option.map_map, Function.comp_def]

private theorem matchParts_terms (terms : List Term) (values : List Value) (context : Option Bindings) :
    matchParts (terms.map Value.term) values context =
      .ok (context.bind fun context => context.meet (terms.zip values)) := by
  induction terms generalizing values context with
  | nil => cases context <;> rfl
  | cons term rest ih =>
    cases values with
    | nil => cases context <;> rfl
    | cons value values =>
      simp only [List.map_cons, matchParts, matchPart_term, bind, Except.bind, ih, Option.bind_assoc]
      rfl

private theorem matchParts_read (parts : List Value) (terms : List Term)
    (read : List.Forall₂ (fun part term => Term.ofValue part = .ok term) parts terms) (values : List Value)
    (context : Option Bindings) :
    matchParts parts values context = matchParts (terms.map Value.term) values context := by
  induction read generalizing values context with
  | nil => rfl
  | @cons part term parts terms here _ ih =>
    cases values with
    | nil => rfl
    | cons value values =>
      have same : matchPart part value context = matchPart (.term term) value context := by
        cases context with
        | none => rfl
        | some context =>
          rw [matchPart, here]
          rfl
      simp only [List.map_cons, matchParts, same, ih]

private theorem matchShorthand_eq (given triple context : Value) (parts values : List Value)
    (taken : given.items? = some parts) (three : parts.length = 3) (listed : triple.items? = some values)
    (three' : values.length = 3) :
    matchShorthand given triple context =
      ((Bindings.ofValue context).mapError Error.fault).bind fun context =>
        (matchParts parts values context).mapError QueryError.raised := by
  simp [matchShorthand, taken, listed, three, three', bind]

section Triples

variable (triple : Value) (values : List Value) (listed : triple.items? = some values)
  (three : values.length = 3)

include listed three

private theorem matchShorthand_terms (pattern : Pattern) (formed : pattern.Formed) (context : Bindings) :
    matchShorthand (.pattern pattern) triple context.toValue =
      .ok (context.meet (pattern.terms.zip values)) := by
  have taken : Bindings.ofValue context.toValue = .ok (some context) := rfl
  rw [matchShorthand_eq (.pattern pattern) triple context.toValue pattern.places values rfl rfl listed three,
    (places_eq pattern formed).1]
  simp [taken, matchParts_terms, Except.mapError, Except.bind]

private theorem matchShorthand_read (given : Value) (pattern : Pattern) (read : ofValue given = .ok pattern)
    (context : Value) :
    matchShorthand given triple context = matchShorthand (.pattern pattern) triple context := by
  rcases ofValue_read given pattern read with rfl | ⟨parts, terms, taken, three', each, placed⟩
  · rfl
  · rw [matchShorthand_eq given triple context parts values taken three' listed three,
      matchShorthand_eq (.pattern pattern) triple context pattern.places values rfl rfl listed three, placed]
    simp only [matchParts_read parts terms each]

/-- Matching a pattern of terms with three values is exact. It never fails, and goes through exactly when the
context admits the terms over the values. The context is then extended by the variables of the pattern that it
does not bind, in order, each with the first value that it stands over. Shorthand matches as the pattern that it is
read as. -/
theorem matchShorthand_exact (pattern : Pattern) (formed : pattern.Formed) :
    (∀ context : Bindings, ∃ result,
      matchShorthand (.pattern pattern) triple context.toValue = .ok result ∧
      (result.isSome = true ↔ context.Admits (pattern.terms.zip values)) ∧
      ∀ extended ∈ result, ∃ added : List Occurrence,
        extended.entries = context.entries ++ added.map (fun new => (.text new.1.name, new.2)) ∧
        added.map Prod.fst = pattern.vars.filter (fun name => (context.value? name).isNone) ∧
        (∀ new ∈ added, (Occurrence.valuesOf (Meeting.occurrences (pattern.terms.zip values)) new.1).head? =
          some new.2) ∧
        context.extendAll added = .ok extended) ∧
    ∀ (given : Value) (read : Pattern), ofValue given = .ok read →
      ∀ context : Value, matchShorthand given triple context = matchShorthand (.pattern read) triple context := by
  refine ⟨fun context => ?_, matchShorthand_read triple values listed three⟩
  refine ⟨_, matchShorthand_terms triple values listed three pattern formed context, ?_, ?_⟩
  · rw [Bindings.meet_eq, ← Bindings.agrees_iff_admits]
    split <;> simp_all
  · intro extended goes
    rw [Bindings.meet_eq, Option.mem_def, Option.ite_none_right_eq_some, Option.some.injEq] at goes
    obtain ⟨_, rfl⟩ := goes
    have size : pattern.terms.length = values.length := (places_eq pattern formed).2.trans three.symm
    refine ⟨context.fresh (Meeting.occurrences (pattern.terms.zip values)), rfl, ?_, ?_, ?_⟩
    · rw [Bindings.fresh_names, names_of_zip _ _ size, vars_eq]
    · exact fun new member => (Bindings.fresh_first context _ new member).2
    · exact Bindings.extendAll_fresh context _

end Triples

def mirrored : Pattern :=
  .ofTerms (.var ⟨"?guest", by decide, by decide⟩) (.var ⟨"?host", by decide, by decide⟩)
    (.var ⟨"?guest", by decide, by decide⟩)

end Pattern

/-- A context that binds a variable to the name of another; bound text is not read as a variable. -/
def Bindings.marked : Bindings := ⟨[(.text "?host", .text "?guest")]⟩

theorem Pattern.matchShorthand_exact_mirrored :
    mirrored.Formed ∧
      (Value.tuple [.int 1, .text "?guest", .int 1]).items? = some [.int 1, .text "?guest", .int 1] ∧
      Bindings.marked.Admits (mirrored.terms.zip [.int 1, .text "?guest", .int 1]) ∧
      matchShorthand (.list [.text "?guest", .text "?host", .text "?guest"])
          (.tuple [.int 1, .text "?guest", .int 1]) Bindings.marked.toValue =
        .ok (some ⟨[(.text "?host", .text "?guest"), (.text "?guest", .int 1)]⟩) := by
  have formed : mirrored.Formed := ofTerms_formed _ _ _
  obtain ⟨each, shorthand⟩ :=
    matchShorthand_exact (.tuple [.int 1, .text "?guest", .int 1]) _ rfl rfl mirrored formed
  obtain ⟨result, matched, exact, _⟩ := each .marked
  have found : result = some ⟨[(.text "?host", .text "?guest"), (.text "?guest", .int 1)]⟩ :=
    Except.ok.inj (matched.symm.trans rfl)
  refine ⟨formed, rfl, exact.mp (by simp [found]), ?_⟩
  rw [shorthand (.list [.text "?guest", .text "?host", .text "?guest"]) mirrored rfl, matched, found]

end TripleQuery
