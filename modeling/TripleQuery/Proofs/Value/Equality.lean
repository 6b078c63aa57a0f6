import TripleQuery.Proofs.Value.Components
import Mathlib.Data.List.Forall2

/-!
What equality of values looks at: where a number stands, the entries of a mapping in any order, and of every
other value its outline and the values inside, place by place.
-/

namespace TripleQuery

namespace Number

/-- Where a number stands: at one of the infinities, or so many units from zero. NaN stands nowhere. -/
def place? : Number → Option (Bool ⊕ Int)
  | int value => some (.inr (value * Binary64.unitsPerOne))
  | float .nan => none
  | float (.infinite negative) => some (.inl negative)
  | float (.finite negative significand scale _) => some (.inr (Binary64.units negative significand scale))

private theorem units_positive : 0 < Binary64.unitsPerOne := by
  unfold Binary64.unitsPerOne
  generalize 1074 = exponent
  exact Nat.two_pow_pos exponent

private theorem units_cancel (left right : Int) :
    left * Binary64.unitsPerOne = right * Binary64.unitsPerOne ↔ left = right :=
  Int.mul_eq_mul_right_iff (Int.natCast_ne_zero.mpr (Nat.pos_iff_ne_zero.mp units_positive))

theorem equals_iff (left right : Number) :
    left.equals right = true ↔ left.place?.isSome = true ∧ left.place? = right.place? := by
  cases left with
  | int left =>
    cases right with
    | int right =>
      simp only [equals, place?, beq_iff_eq, Option.isSome_some, Option.some.injEq, Sum.inr.injEq,
        units_cancel, true_and]
    | float right =>
      cases right with
      | nan | infinite negative =>
        simp only [equals, place?, Binary64.equalsInt, Bool.false_eq_true, reduceCtorEq, Option.some.injEq,
          and_false]
      | finite negative significand scale canonical =>
        simp only [equals, place?, Binary64.equalsInt, beq_iff_eq, Option.isSome_some, Option.some.injEq,
          Sum.inr.injEq, true_and]
        exact eq_comm
  | float left =>
    cases right with
    | int right =>
      cases left with
      | nan | infinite negative =>
        simp only [equals, place?, Binary64.equalsInt, Bool.false_eq_true, reduceCtorEq, Option.some.injEq,
          and_false]
      | finite negative significand scale canonical =>
        simp only [equals, place?, Binary64.equalsInt, beq_iff_eq, Option.isSome_some, Option.some.injEq,
          Sum.inr.injEq, true_and]
    | float right => cases left <;> cases right <;> simp [equals, place?, Binary64.equals]

theorem equals_symm (left right : Number) (equal : left.equals right = true) : right.equals left = true := by
  obtain ⟨stands, same⟩ := (equals_iff left right).mp equal
  exact (equals_iff right left).mpr ⟨same ▸ stands, same.symm⟩

theorem equals_trans (left middle right : Number) (first : left.equals middle = true)
    (second : middle.equals right = true) : left.equals right = true := by
  obtain ⟨stands, same⟩ := (equals_iff left middle).mp first
  obtain ⟨_, same'⟩ := (equals_iff middle right).mp second
  exact (equals_iff left right).mpr ⟨stands, same.trans same'⟩

end Number

def Term.outline : Term → Term
  | .var name => .var name
  | .const _ => .const .null

def Pattern.outline (_ : Pattern) : Pattern := ⟨.null, .null, .null⟩

namespace Value

def outline : Value → Value
  | list items => list (items.map fun _ => null)
  | tuple items => tuple (items.map fun _ => null)
  | term value => term value.outline
  | pattern value => pattern value.outline
  | query value => query ⟨value.find.map Term.outline, value.body.map Pattern.outline⟩
  | value => value

end Value

section Pairs

variable {α β γ : Type}

private theorem forall₂_of_step (test : α → β → Bool) (inStep : List α → List β → Bool)
    (done : inStep [] [] = true) (short : ∀ right rights, inStep [] (right :: rights) = false)
    (long : ∀ left lefts, inStep (left :: lefts) [] = false)
    (step : ∀ left lefts right rights,
      inStep (left :: lefts) (right :: rights) = (test left right && inStep lefts rights))
    (lefts : List α) (rights : List β) :
    inStep lefts rights = true ↔ List.Forall₂ (fun left right => test left right = true) lefts rights := by
  induction lefts generalizing rights with
  | nil => cases rights <;> simp [done, short]
  | cons left lefts ih => cases rights <;> simp [long, step, ih]

private theorem forall₂_append_iff (holds : α → β → Prop) (first second : List α)
    (first' second' : List β) (size : first.length = first'.length) :
    List.Forall₂ holds (first ++ second) (first' ++ second') ↔
      List.Forall₂ holds first first' ∧ List.Forall₂ holds second second' := by
  induction first generalizing first' with
  | nil => cases first' <;> simp_all
  | cons item rest ih =>
    cases first' with
    | nil => simp at size
    | cons other others => simp [ih others (by simpa using size), and_assoc]

private theorem forall₂_outline_iff (related : α → α → Prop) (outline : α → γ) (inside : α → List β)
    (holds : β → β → Prop)
    (size : ∀ left right, outline left = outline right → (inside left).length = (inside right).length)
    (item : ∀ left right, related left right ↔
      outline left = outline right ∧ List.Forall₂ holds (inside left) (inside right))
    (lefts rights : List α) :
    List.Forall₂ related lefts rights ↔ lefts.map outline = rights.map outline ∧
      List.Forall₂ holds (lefts.flatMap inside) (rights.flatMap inside) := by
  induction lefts generalizing rights with
  | nil => cases rights <;> simp
  | cons left lefts ih =>
    cases rights with
    | nil => simp
    | cons right rights =>
      simp only [List.forall₂_cons, item, ih, List.map_cons, List.cons.injEq, List.flatMap_cons]
      constructor
      · rintro ⟨⟨same, here⟩, rest, there⟩
        exact ⟨⟨same, rest⟩, (forall₂_append_iff holds _ _ _ _ (size left right same)).mpr ⟨here, there⟩⟩
      · rintro ⟨⟨same, rest⟩, both⟩
        obtain ⟨here, there⟩ := (forall₂_append_iff holds _ _ _ _ (size left right same)).mp both
        exact ⟨⟨same, here⟩, rest, there⟩

private theorem size_of_outlines (outline : α → γ) (inside : α → List β)
    (size : ∀ left right, outline left = outline right → (inside left).length = (inside right).length)
    (lefts rights : List α) (same : lefts.map outline = rights.map outline) :
    (lefts.flatMap inside).length = (rights.flatMap inside).length := by
  induction lefts generalizing rights with
  | nil => simp_all
  | cons left lefts ih =>
    cases rights with
    | nil => simp at same
    | cons right rights =>
      simp only [List.map_cons, List.cons.injEq] at same
      simp only [List.flatMap_cons, List.length_append, size left right same.1, ih rights same.2]

end Pairs

abbrev EqualInPlace (lefts rights : List Value) : Prop :=
  List.Forall₂ (fun left right => left.equals right = true) lefts rights

private theorem equalItems_iff (lefts rights : List Value) :
    equalItems lefts rights = true ↔ EqualInPlace lefts rights :=
  forall₂_of_step Value.equals equalItems rfl (fun _ _ => rfl) (fun _ _ => rfl) (fun _ _ _ _ => rfl)
    lefts rights

private theorem equalTerms_iff (lefts rights : List Term) :
    equalTerms lefts rights = true ↔ List.Forall₂ (fun left right => left.equals right = true) lefts rights :=
  forall₂_of_step Term.equals equalTerms rfl (fun _ _ => rfl) (fun _ _ => rfl) (fun _ _ _ _ => rfl)
    lefts rights

private theorem equalPatterns_iff (lefts rights : List Pattern) :
    equalPatterns lefts rights = true ↔
      List.Forall₂ (fun left right => left.equals right = true) lefts rights :=
  forall₂_of_step Pattern.equals equalPatterns rfl (fun _ _ => rfl) (fun _ _ => rfl) (fun _ _ _ _ => rfl)
    lefts rights

private theorem entriesWithin_iff (lefts rights : Entries) :
    entriesWithin lefts rights = true ↔ ∀ entry ∈ lefts, ∃ other ∈ rights,
      entry.1.equals other.1 = true ∧ entry.2.equals other.2 = true := by
  induction lefts with
  | nil => simp [entriesWithin]
  | cons entry lefts ih => simp [entriesWithin, ih]

theorem Term.equals_iff (left right : Term) : left.equals right = true ↔ left.outline = right.outline ∧
    EqualInPlace left.components right.components := by
  cases left <;> cases right <;> simp [Term.equals, Term.outline, Term.components]

private theorem Term.components_of_outline (left right : Term) (same : left.outline = right.outline) :
    left.components.length = right.components.length := by
  cases left <;> cases right <;> simp_all [Term.outline, Term.components]

theorem Pattern.equals_iff (left right : Pattern) : left.equals right = true ↔ left.outline = right.outline ∧
    EqualInPlace left.places right.places := by
  cases left
  cases right
  simp [Pattern.equals, Pattern.outline, Pattern.places, and_assoc]

theorem Query.equals_iff (left right : Query) : left.equals right = true ↔
    (left.find.map Term.outline = right.find.map Term.outline ∧
      left.body.map Pattern.outline = right.body.map Pattern.outline) ∧
    EqualInPlace (Value.query left).components (Value.query right).components := by
  obtain ⟨find, body⟩ := left
  have terms := forall₂_outline_iff _ Term.outline Term.components _ Term.components_of_outline
    Term.equals_iff find right.find
  have patterns := forall₂_outline_iff _ Pattern.outline Pattern.places _ (fun _ _ _ => rfl)
    Pattern.equals_iff body right.body
  simp only [Query.equals, Bool.and_eq_true, equalTerms_iff, equalPatterns_iff, terms, patterns,
    Value.components]
  constructor
  · rintro ⟨⟨sameTerms, inTerms⟩, samePatterns, inPatterns⟩
    exact ⟨⟨sameTerms, samePatterns⟩, List.rel_append inTerms inPatterns⟩
  · rintro ⟨⟨sameTerms, samePatterns⟩, inside⟩
    have size := size_of_outlines _ _ Term.components_of_outline _ _ sameTerms
    obtain ⟨inTerms, inPatterns⟩ := (forall₂_append_iff _ _ _ _ _ size).mp inside
    exact ⟨⟨sameTerms, inTerms⟩, samePatterns, inPatterns⟩

namespace Value

theorem equals_of_number (left right : Value) (number : Number) (worth : left.number? = some number) :
    left.equals right = true ↔ ∃ other, right.number? = some other ∧ number.equals other = true := by
  have opened : left.equals right = number.isWorth right := by
    cases left with
    | bool | int | float =>
      cases worth
      rfl
    | _ => cases worth
  rw [opened, Number.isWorth]
  cases right.number? <;> simp

theorem equals_of_mapping (left right : Value) (lefts : Entries) (mapping : left.mapping? = some lefts) :
    left.equals right = true ↔ ∃ rights, right.mapping? = some rights ∧ lefts.length = rights.length ∧
      ∀ entry ∈ lefts, ∃ other ∈ rights, entry.1.equals other.1 = true ∧ entry.2.equals other.2 = true := by
  have opened : left.equals right =
      right.mapping?.any fun rights => lefts.length == rights.length && entriesWithin lefts rights := by
    cases left with
    | dict | bindings =>
      cases mapping
      cases right <;> rfl
    | _ => cases mapping
  rw [opened]
  cases right.mapping? <;> simp [entriesWithin_iff]

/-- Values that are neither numbers nor mappings are equal when they have one outline and what is inside is
equal place by place. -/
theorem equals_of_outline (left right : Value) (number : left.number? = none) (mapping : left.mapping? = none) :
    left.equals right = true ↔ left.outline = right.outline ∧
      EqualInPlace left.components right.components := by
  cases left with
  | bool | int | float => simp [number?] at number
  | dict | bindings => simp [mapping?] at mapping
  | null | text | bytes | settings => cases right <;> simp [equals, outline, components]
  | list items | tuple items =>
    cases right <;> simp [equals, outline, components, equalItems_iff]
    exact List.Forall₂.length_eq
  | term left => cases right <;> simp [equals, outline, components, Term.equals_iff]
  | pattern left => cases right <;> simp [equals, outline, components, Pattern.equals_iff]
  | query left => cases right <;> simp [equals, outline, Query.equals_iff, components]

theorem number?_of_outline (left right : Value) (same : left.outline = right.outline) :
    left.number? = right.number? := by
  have kept (value : Value) : value.outline.number? = value.number? := by cases value <;> rfl
  rw [← kept left, same, kept right]

theorem mapping?_of_outline (left right : Value) (same : left.outline = right.outline) :
    left.mapping? = right.mapping? := by
  have kept (value : Value) : value.outline.mapping? = value.mapping? := by cases value <;> rfl
  rw [← kept left, same, kept right]

theorem equals_text (value : Value) (text : String) :
    value.equals (.text text) = true ↔ value = .text text := by
  cases value <;> simp [equals, Number.isWorth, number?]

end Value

end TripleQuery
