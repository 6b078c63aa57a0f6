import TripleQuery.Proofs.Value.Components
import TripleQuery.Value.Render

/-!
A value has a text exactly when no integer inside it, at any depth, has too many digits. Nothing else stands in the
way of writing one, and the fault is always the same.
-/

namespace TripleQuery

namespace Value

/-- No integer with more digits than integers are written with. -/
def IsWritable (value : Value) : Prop :=
  ∀ n, value = .int n → (Nat.toDigits 10 n.natAbs).length ≤ Text.mostDigits

end Value

/-- Written under this condition, and else not for the length of an integer. -/
def WrittenIf {α : Type} (condition : Prop) (result : Except Fault α) : Prop :=
  (condition → ∃ value, result = .ok value) ∧ (¬condition → result = .error .numeralTooLong)

namespace WrittenIf

variable {α β : Type} {condition condition' : Prop}

theorem congr {result : Except Fault α} (written : WrittenIf condition result) (same : condition' ↔ condition) :
    WrittenIf condition' result := by
  rwa [same]

theorem always (value : α) (holds : condition) : WrittenIf condition (.ok value : Except Fault α) :=
  ⟨fun _ => ⟨value, rfl⟩, fun fails => absurd holds fails⟩

theorem map {result : Except Fault α} (written : WrittenIf condition result) (change : α → β) :
    WrittenIf condition (result.map change) := by
  refine ⟨fun holds => ?_, fun fails => ?_⟩
  · obtain ⟨value, made⟩ := written.1 holds
    exact ⟨change value, by rw [made]; rfl⟩
  · rw [written.2 fails]
    rfl

theorem bind {first : Except Fault α} {next : α → Except Fault β} (written : WrittenIf condition first)
    (later : ∀ value, WrittenIf condition' (next value)) : WrittenIf (condition ∧ condition') (first >>= next) := by
  by_cases holds : condition
  · obtain ⟨value, made⟩ := written.1 holds
    rw [made]
    exact (later value).congr (and_iff_right holds)
  · refine ⟨fun both => absurd both.1 holds, fun _ => ?_⟩
    rw [written.2 holds]
    rfl

theorem mapM {holds : α → Prop} {next : α → Except Fault β} (items : List α)
    (each : ∀ item ∈ items, WrittenIf (holds item) (next item)) :
    WrittenIf (∀ item ∈ items, holds item) (items.mapM next) := by
  induction items with
  | nil => exact always [] nofun
  | cons item rest ih =>
    rw [List.mapM_cons]
    refine ((each item (by simp)).bind fun first => ?_).congr List.forall_mem_cons
    exact (ih fun other member => each other (by simp [member])).map (first :: ·)

end WrittenIf

theorem intChars_written (n : Int) :
    WrittenIf ((Nat.toDigits 10 n.natAbs).length ≤ Text.mostDigits) (intChars n) := by
  unfold intChars
  split
  next long => exact ⟨fun short => absurd short (Nat.not_le.mpr long), fun _ => rfl⟩
  next short => exact .always _ (Nat.not_lt.mp short)

theorem intChars_eq_ok (n : Int) (chars : List Char) :
    intChars n = .ok chars ↔ (Nat.toDigits 10 n.natAbs).length ≤ Text.mostDigits ∧ chars = Text.ofInt n := by
  unfold intChars
  split
  next long => exact ⟨nofun, fun both => absurd both.1 (Nat.not_le.mpr long)⟩
  next short => simp [Nat.not_lt.mp short, eq_comm]

section Lists

private theorem renderItems_eq (items : List Value) : renderItems items = items.mapM Value.render := by
  induction items with
  | nil => rfl
  | cons item rest ih =>
    rw [renderItems, ih, List.mapM_cons]
    rfl

private theorem renderTerms_eq (terms : List Term) : renderTerms terms = terms.mapM Term.render := by
  induction terms with
  | nil => rfl
  | cons term rest ih =>
    rw [renderTerms, ih, List.mapM_cons]
    rfl

private theorem renderPatterns_eq (patterns : List Pattern) :
    renderPatterns patterns = patterns.mapM Pattern.render := by
  induction patterns with
  | nil => rfl
  | cons pattern rest ih =>
    rw [renderPatterns, ih, List.mapM_cons]
    rfl

variable {holds : Value → Prop}

private theorem renderEntries_written (entries : Entries)
    (each : ∀ part ∈ entries.flatMap fun entry => [entry.1, entry.2], WrittenIf (holds part) part.render) :
    WrittenIf (∀ part ∈ entries.flatMap fun entry => [entry.1, entry.2], holds part) (renderEntries entries) := by
  induction entries with
  | nil => exact .always [] nofun
  | cons entry rest ih =>
    obtain ⟨key, value⟩ := entry
    rw [List.flatMap_cons, List.forall_mem_append] at each
    obtain ⟨here, others⟩ := each
    simp only [List.forall_mem_cons, List.not_mem_nil, false_implies, implies_true, and_true] at here
    have written := here.1.bind fun key => here.2.bind fun value => (ih others).map ((key ++ ": " ++ value) :: ·)
    refine written.congr ?_
    simp [or_imp, forall_and]

private theorem termRender_written (term : Term) (each : ∀ part ∈ term.components, WrittenIf (holds part) part.render) :
    WrittenIf (∀ part ∈ term.components, holds part) term.render := by
  cases term with
  | var name => exact .always _ nofun
  | const value =>
    exact ((each value (List.mem_singleton_self value)).map _).congr List.forall_mem_singleton

private theorem patternRender_written (pattern : Pattern)
    (each : ∀ part ∈ pattern.places, WrittenIf (holds part) part.render) :
    WrittenIf (∀ part ∈ pattern.places, holds part) pattern.render := by
  obtain ⟨entity, attr, value⟩ := pattern
  simp only [Pattern.places, List.forall_mem_cons, List.not_mem_nil, false_implies, implies_true, and_true]
    at each ⊢
  obtain ⟨entity, attr, value⟩ := each
  exact entity.bind fun _ => attr.bind fun _ => value.map _

private theorem queryRender_written (query : Query)
    (each : ∀ part ∈ query.find.flatMap Term.components ++ query.body.flatMap Pattern.places,
      WrittenIf (holds part) part.render) :
    WrittenIf (∀ part ∈ query.find.flatMap Term.components ++ query.body.flatMap Pattern.places, holds part)
      query.render := by
  obtain ⟨find, body⟩ := query
  simp only [List.forall_mem_append, List.forall_mem_flatMap] at each ⊢
  obtain ⟨inFind, inBody⟩ := each
  simp only [Query.render, renderTerms_eq, renderPatterns_eq]
  have terms := WrittenIf.mapM find fun term member => termRender_written term (inFind term member)
  have patterns := WrittenIf.mapM body fun pattern member => patternRender_written pattern (inBody pattern member)
  exact terms.bind fun _ => patterns.map _

end Lists

namespace Value

def isInt : Value → Bool
  | int _ => true
  | _ => false

theorem isWritable_of_other (value : Value) (other : value.isInt = false) : value.IsWritable := by
  rintro n rfl
  cases other

private theorem render_inside {holds : Value → Prop} (value : Value) (other : value.isInt = false)
    (each : ∀ part ∈ value.components, WrittenIf (holds part) part.render) :
    WrittenIf (∀ part ∈ value.components, holds part) value.render := by
  cases value with
  | int => cases other
  | list items | tuple items =>
    rw [render, renderItems_eq]
    exact (WrittenIf.mapM items each).map _
  | dict entries | bindings entries => exact (renderEntries_written entries each).map _
  | term term => exact termRender_written term each
  | pattern pattern => exact patternRender_written pattern each
  | query query => exact queryRender_written query each
  | null | bool | float | text | bytes | settings => exact .always _ nofun

/-- A value is written exactly when every integer inside it is. -/
theorem render_written (value : Value) : WrittenIf (value.Everywhere IsWritable) value.render := by
  induction value using components_induction with
  | step value ih =>
    refine WrittenIf.congr ?_ (everywhere_iff IsWritable value)
    cases number : value.isInt with
    | false => exact (render_inside value number ih).congr (and_iff_right (value.isWritable_of_other number))
    | true =>
      cases value with
      | int n =>
        refine ((intChars_written n).map String.ofList).congr ⟨fun both => both.1 n rfl, fun short => ⟨?_, nofun⟩⟩
        rintro _ ⟨⟩
        exact short
      | _ => cases number

end Value

end TripleQuery
