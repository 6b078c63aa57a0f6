import TripleQuery.Proofs.Value.Equality

/-!
Equality of values is transitive on all values, and symmetric from every well-formed one. It is not reflexive,
because NaN equals nothing. `Value.same` has the same two laws.
-/

namespace TripleQuery

private theorem partner_of_right {α β : Type} (partner : α → β → Prop) (lefts : List α) (rights : List β)
    (size : rights.length ≤ lefts.length)
    (total : ∀ left ∈ lefts, ∃ right ∈ rights, partner left right)
    (apart : lefts.Pairwise fun left left' =>
      ∀ right ∈ rights, partner left right → ¬ partner left' right) :
    ∀ right ∈ rights, ∃ left ∈ lefts, partner left right := by
  induction lefts generalizing rights with
  | nil =>
    intro right member
    have empty : rights = [] := List.length_eq_zero_iff.mp (Nat.le_zero.mp size)
    simp [empty] at member
  | cons left lefts ih =>
    obtain ⟨chosen, member, partners⟩ := total left (by simp)
    obtain ⟨before, after, rfl⟩ := List.append_of_mem member
    obtain ⟨alone, apart⟩ := List.pairwise_cons.mp apart
    -- The partner just chosen is taken out on the right, so that the lengths still fit on both sides.
    have others : ∀ right ∈ before ++ after, ∃ left ∈ lefts, partner left right := by
      apply ih
      · simp only [List.length_append, List.length_cons] at size ⊢
        omega
      · intro left' member'
        obtain ⟨right, inside, partners'⟩ := total left' (by simp [member'])
        refine ⟨right, ?_, partners'⟩
        have different : right ≠ chosen := fun same =>
          alone left' member' chosen (by simp) partners (same ▸ partners')
        simpa [different] using inside
      · exact apart.imp fun separate right inside => separate right (by
          rcases List.mem_append.mp inside with inside | inside <;> simp [inside])
    intro right inside
    by_cases same : right = chosen
    · exact ⟨left, by simp, same ▸ partners⟩
    · obtain ⟨left', member', partners'⟩ := others right (by simpa [same] using inside)
      exact ⟨left', by simp [member'], partners'⟩

namespace Value

private theorem forall₂_trans_of_mem {lefts middles rights : List Value}
    (step : ∀ left ∈ lefts, ∀ middle right, left.equals middle = true → middle.equals right = true →
      left.equals right = true)
    (first : EqualInPlace lefts middles) (second : EqualInPlace middles rights) :
    EqualInPlace lefts rights := by
  induction first generalizing rights with
  | nil => exact second
  | @cons left middle lefts middles here rest ih =>
    cases second with
    | @cons _ right _ rights there others =>
      exact .cons (step left (by simp) middle right here there)
        (ih (fun left member => step left (by simp [member])) others)

private theorem forall₂_symm_of_mem {lefts rights : List Value}
    (step : ∀ left ∈ lefts, ∀ right, left.equals right = true → right.equals left = true)
    (equal : EqualInPlace lefts rights) : EqualInPlace rights lefts := by
  induction equal with
  | nil => exact .nil
  | @cons left right lefts rights here rest ih =>
    exact .cons (step left (by simp) right here) (ih fun left member => step left (by simp [member]))

theorem equals_trans (left middle right : Value) (first : left.equals middle = true)
    (second : middle.equals right = true) : left.equals right = true := by
  induction left using components_induction generalizing middle right with
  | step left inside =>
    cases number : left.number? with
    | some worth =>
      obtain ⟨between, here, near⟩ := (equals_of_number left middle worth number).mp first
      obtain ⟨far, there, next⟩ := (equals_of_number middle right between here).mp second
      exact (equals_of_number left right worth number).mpr
        ⟨far, there, Number.equals_trans worth between far near next⟩
    | none =>
      cases mapping : left.mapping? with
      | some lefts =>
        obtain ⟨middles, here, size, near⟩ := (equals_of_mapping left middle lefts mapping).mp first
        obtain ⟨rights, there, size', next⟩ := (equals_of_mapping middle right middles here).mp second
        refine (equals_of_mapping left right lefts mapping).mpr ⟨rights, there, size.trans size', ?_⟩
        intro entry member
        obtain ⟨between, member', key, value⟩ := near entry member
        obtain ⟨far, member'', key', value'⟩ := next between member'
        obtain ⟨insideKey, insideValue⟩ := mem_components_of_entry left lefts mapping entry member
        have keys := inside entry.1 insideKey between.1 far.1 key key'
        have values := inside entry.2 insideValue between.2 far.2 value value'
        exact ⟨far, member'', keys, values⟩
      | none =>
        obtain ⟨same, near⟩ := (equals_of_outline left middle number mapping).mp first
        have number' := (number?_of_outline left middle same).symm.trans number
        have mapping' := (mapping?_of_outline left middle same).symm.trans mapping
        obtain ⟨same', next⟩ := (equals_of_outline middle right number' mapping').mp second
        exact (equals_of_outline left right number mapping).mpr
          ⟨same.trans same', forall₂_trans_of_mem inside near next⟩

/-- Equality is symmetric from a well-formed value: its keys are apart, so no two of its entries can equal one
entry of the other side. -/
theorem equals_symm (left right : Value) (formed : left.WellFormed) (equal : left.equals right = true) :
    right.equals left = true := by
  induction formed generalizing right with
  | intro left here _ inside =>
    cases number : left.number? with
    | some worth =>
      obtain ⟨other, there, same⟩ := (equals_of_number left right worth number).mp equal
      exact (equals_of_number right left other there).mpr ⟨worth, number, Number.equals_symm worth other same⟩
    | none =>
      cases mapping : left.mapping? with
      | some lefts =>
        obtain ⟨rights, there, size, near⟩ := (equals_of_mapping left right lefts mapping).mp equal
        have parts := mem_components_of_entry left lefts mapping
        -- Two entries that equal one entry of the right side would have equal keys on the left.
        have apart : lefts.Pairwise fun entry entry' => ∀ other ∈ rights,
            entry.1.equals other.1 = true ∧ entry.2.equals other.2 = true →
            ¬ (entry'.1.equals other.1 = true ∧ entry'.2.equals other.2 = true) := by
          apply List.Pairwise.imp_of_mem _ (here lefts mapping)
          intro entry entry' _ member' separate other _ ⟨first, _⟩ ⟨second, _⟩
          have back := inside entry'.1 (parts entry' member').1 other.1 second
          simp [equals_trans entry.1 other.1 entry'.1 first back] at separate
        refine (equals_of_mapping right left rights there).mpr ⟨lefts, mapping, size.symm, ?_⟩
        intro other member
        obtain ⟨entry, member', key, value⟩ :=
          partner_of_right _ lefts rights (Nat.le_of_eq size.symm) near apart other member
        have keyBack := inside entry.1 (parts entry member').1 other.1 key
        have valueBack := inside entry.2 (parts entry member').2 other.2 value
        exact ⟨entry, member', keyBack, valueBack⟩
      | none =>
        obtain ⟨same, near⟩ := (equals_of_outline left right number mapping).mp equal
        have number' := (number?_of_outline left right same).symm.trans number
        have mapping' := (mapping?_of_outline left right same).symm.trans mapping
        exact (equals_of_outline right left number' mapping').mpr
          ⟨same.symm, forall₂_symm_of_mem inside near⟩

theorem same_iff (left right : Value) :
    left.same right = true ↔ left.isBool = right.isBool ∧ left.equals right = true := by
  simp [same]

theorem equals_of_same (left right : Value) (same : left.same right = true) : left.equals right = true :=
  ((same_iff left right).mp same).2

theorem same_symm (left right : Value) (formed : left.WellFormed) (same : left.same right = true) :
    right.same left = true := by
  obtain ⟨kind, equal⟩ := (same_iff left right).mp same
  exact (same_iff right left).mpr ⟨kind.symm, equals_symm left right formed equal⟩

theorem same_trans (left middle right : Value) (first : left.same middle = true)
    (second : middle.same right = true) : left.same right = true := by
  obtain ⟨kind, equal⟩ := (same_iff left middle).mp first
  obtain ⟨kind', equal'⟩ := (same_iff middle right).mp second
  exact (same_iff left right).mpr ⟨kind.trans kind', equals_trans left middle right equal equal'⟩

end Value

end TripleQuery
