import Mathlib.Data.List.Forall2

/-!
Steps that may fail, one after the other. They go well when each of them does, and what they give is then related
place by place to what they were given; they fail with the first of them that fails.
-/

namespace TripleQuery

variable {ε α β : Type}

theorem bind_eq_ok (first : Except ε α) (next : α → Except ε β) (result : β) :
    (first >>= next) = .ok result ↔ ∃ value, first = .ok value ∧ next value = .ok result := by
  cases first with
  | error error => simp [bind, Except.bind]
  | ok value => simp [bind, Except.bind]

theorem bind_eq_error (first : Except ε α) (next : α → Except ε β) (error : ε) :
    (first >>= next) = .error error ↔
      first = .error error ∨ ∃ value, first = .ok value ∧ next value = .error error := by
  cases first with
  | error cause => simp [bind, Except.bind]
  | ok value => simp [bind, Except.bind]

theorem map_eq_ok (first : Except ε α) (change : α → β) (result : β) :
    first.map change = .ok result ↔ ∃ value, first = .ok value ∧ change value = result := by
  cases first <;> simp [Except.map]

theorem mapError_eq_ok {ε' : Type} (first : Except ε α) (change : ε → ε') (result : α) :
    first.mapError change = .ok result ↔ first = .ok result := by
  cases first <;> simp [Except.mapError]

theorem mapM_eq_ok (next : α → Except ε β) (items : List α) (results : List β) :
    items.mapM next = .ok results ↔ List.Forall₂ (fun item result => next item = .ok result) items results := by
  induction items generalizing results with
  | nil => cases results <;> simp [pure, Except.pure]
  | cons item rest ih =>
    simp only [List.mapM_cons, bind_eq_ok, ih, pure, Except.pure, Except.ok.injEq]
    constructor
    · rintro ⟨first, here, others, there, rfl⟩
      exact .cons here there
    · intro related
      cases related with
      | @cons _ first _ others here there => exact ⟨first, here, others, there, rfl⟩

private theorem exists_forall₂ {related : α → β → Prop} (items : List α)
    (each : ∀ item ∈ items, ∃ result, related item result) : ∃ results, List.Forall₂ related items results := by
  induction items with
  | nil => exact ⟨[], .nil⟩
  | cons item rest ih =>
    obtain ⟨result, here⟩ := each item (by simp)
    obtain ⟨results, others⟩ := ih fun other member => each other (by simp [member])
    exact ⟨result :: results, .cons here others⟩

theorem mapM_isOk (next : α → Except ε β) (items : List α)
    (each : ∀ item ∈ items, ∃ result, next item = .ok result) : ∃ results, items.mapM next = .ok results := by
  simp only [mapM_eq_ok]
  exact exists_forall₂ items each

theorem mapM_congr_forall₂ {γ : Type} (first : α → Except ε γ) (second : β → Except ε γ) (lefts : List α)
    (rights : List β) (same : List.Forall₂ (fun left right => first left = second right) lefts rights) :
    lefts.mapM first = rights.mapM second := by
  induction same with
  | nil => rfl
  | cons here _ ih => rw [List.mapM_cons, List.mapM_cons, here, ih]

theorem forall₂_imp_left {related related' : α → β → Prop} {lefts : List α} {rights : List β}
    (pairs : List.Forall₂ related lefts rights)
    (weaker : ∀ left ∈ lefts, ∀ right, related left right → related' left right) :
    List.Forall₂ related' lefts rights := by
  induction pairs with
  | nil => exact .nil
  | @cons left right _ _ here _ ih =>
    exact .cons (weaker left (by simp) right here) (ih fun other member => weaker other (by simp [member]))

theorem forall₂_congr_left {related related' : α → β → Prop} (lefts : List α) (rights : List β)
    (same : ∀ left ∈ lefts, ∀ right, related left right ↔ related' left right) :
    List.Forall₂ related lefts rights ↔ List.Forall₂ related' lefts rights :=
  ⟨fun pairs => forall₂_imp_left pairs fun left member right => (same left member right).mp,
    fun pairs => forall₂_imp_left pairs fun left member right => (same left member right).mpr⟩

theorem forall₂_left_mem {related : α → β → Prop} {lefts : List α} {rights : List β}
    (pairs : List.Forall₂ related lefts rights) (left : α) (member : left ∈ lefts) :
    ∃ right ∈ rights, related left right := by
  induction pairs with
  | nil => simp at member
  | @cons first second lefts rights here rest ih =>
    rcases List.mem_cons.mp member with rfl | member
    · exact ⟨second, by simp, here⟩
    · obtain ⟨right, inside, there⟩ := ih member
      exact ⟨right, by simp [inside], there⟩

theorem forall₂_right_mem {related : α → β → Prop} {lefts : List α} {rights : List β}
    (pairs : List.Forall₂ related lefts rights) (right : β) (member : right ∈ rights) :
    ∃ left ∈ lefts, related left right := by
  have flipped : List.Forall₂ (fun right left => related left right) rights lefts := pairs.flip
  exact forall₂_left_mem flipped right member

end TripleQuery
