import TripleQuery.Proofs.Except
import TripleQuery.Proofs.Value.Equivalence

/-!
Sameness of values as a partial equivalence. A value is the same as itself exactly when no NaN is in it, at any
depth. The order in which a mapping was filled shows nowhere: values that differ in it alone, whatever holds the
mappings, are equal to the same values.
-/

namespace TripleQuery

namespace Value

/-- No NaN, here or inside. -/
abbrev NaNFree (value : Value) : Prop := value.Everywhere (· ≠ .float .nan)

private theorem place?_isSome_of_number (value : Value) (number : Number) (worth : value.number? = some number) :
    number.place?.isSome = true ↔ value ≠ .float .nan := by
  cases value with
  | bool | int =>
    cases worth
    exact iff_of_true rfl nofun
  | float value =>
    cases worth
    cases value with
    | nan => exact iff_of_false nofun fun other => other rfl
    | infinite | finite => exact iff_of_true rfl nofun
  | _ => cases worth

private theorem components_of_number (value : Value) (number : Number) (worth : value.number? = some number) :
    value.components = [] := by
  cases value with
  | bool | int | float => rfl
  | _ => cases worth

private theorem number?_of_mapping (value : Value) (entries : Entries) (mapping : value.mapping? = some entries) :
    value.number? = none := by
  cases value with
  | dict | bindings => rfl
  | _ => cases mapping

private theorem nanFree_of_equals (left right : Value) (equal : left.equals right = true) : left.NaNFree := by
  -- What is inside the left value equals something in the right one, so the right one may be any in the induction.
  induction left using components_induction generalizing right with
  | step left inside =>
    cases number : left.number? with
    | some worth =>
      obtain ⟨other, _, near⟩ := (equals_of_number left right worth number).mp equal
      have stands := ((Number.equals_iff worth other).mp near).1
      refine .intro left ((place?_isSome_of_number left worth number).mp stands) ?_
      simp [components_of_number left worth number]
    | none =>
      have here : left ≠ .float .nan := by
        rintro rfl
        cases number
      refine .intro left here fun part member => ?_
      cases mapping : left.mapping? with
      | some lefts =>
        obtain ⟨rights, _, _, near⟩ := (equals_of_mapping left right lefts mapping).mp equal
        obtain ⟨entry, listed, among⟩ := entry_of_mem_components left lefts mapping part member
        obtain ⟨other, _, key, value⟩ := near entry listed
        rcases among with rfl | rfl
        · exact inside entry.1 member other.1 key
        · exact inside entry.2 member other.2 value
      | none =>
        obtain ⟨_, near⟩ := (equals_of_outline left right number mapping).mp equal
        obtain ⟨other, _, equal⟩ := forall₂_left_mem near part member
        exact inside part member other equal

private theorem equals_self_of_nanFree (value : Value) (free : value.NaNFree) : value.equals value = true := by
  induction free with
  | intro value here _ inside =>
    cases number : value.number? with
    | some worth =>
      have stands := (place?_isSome_of_number value worth number).mpr here
      exact (equals_of_number value value worth number).mpr
        ⟨worth, number, (Number.equals_iff worth worth).mpr ⟨stands, rfl⟩⟩
    | none =>
      cases mapping : value.mapping? with
      | some entries =>
        refine (equals_of_mapping value value entries mapping).mpr ⟨entries, mapping, rfl, fun entry member => ?_⟩
        obtain ⟨key, held⟩ := mem_components_of_entry value entries mapping entry member
        exact ⟨entry, member, inside entry.1 key, inside entry.2 held⟩
      | none => exact (equals_of_outline value value number mapping).mpr ⟨rfl, List.forall₂_same.mpr inside⟩

private theorem same_self_iff (value : Value) : value.same value = true ↔ value.NaNFree := by
  rw [same_iff]
  exact ⟨fun same => nanFree_of_equals value value same.2, fun free => ⟨rfl, equals_self_of_nanFree value free⟩⟩

def frame : Value → Value
  | dict entries => dict (entries.map fun _ => (null, null))
  | bindings entries => bindings (entries.map fun _ => (null, null))
  | value => value.outline

/-- Values that differ only in the order of entries, of any of the mappings in them, and in the kind of those
mappings. -/
inductive Reordered : Value → Value → Prop
  | entries (left right : Value) (lefts rights : Entries) (mapping : left.mapping? = some lefts)
    (mapping' : right.mapping? = some rights) (permuted : lefts.Perm rights) : Reordered left right
  | inside (left right : Value) (framed : left.frame = right.frame)
    (size : left.components.length = right.components.length)
    (each : ∀ pair ∈ left.components.zip right.components, Reordered pair.1 pair.2) : Reordered left right
  | trans (left middle right : Value) (first : Reordered left middle) (second : Reordered middle right) :
    Reordered left right

/-- Equal to the same values, on either side of them. -/
def Congruent (left right : Value) : Prop :=
  ∀ other, left.equals other = right.equals other ∧ other.equals left = other.equals right

theorem Congruent.refl (value : Value) : value.Congruent value := fun _ => ⟨rfl, rfl⟩

theorem Congruent.symm (left right : Value) (congruent : left.Congruent right) : right.Congruent left :=
  fun other => ⟨(congruent other).1.symm, (congruent other).2.symm⟩

theorem Congruent.trans (left middle right : Value) (first : left.Congruent middle) (second : middle.Congruent right) :
    left.Congruent right :=
  fun other => ⟨(first other).1.trans (second other).1, (first other).2.trans (second other).2⟩

def Passes (left right : Value) : Prop :=
  ∀ other, (left.equals other = true → right.equals other = true) ∧
    (other.equals left = true → other.equals right = true)

private theorem congruent_of_passes (left right : Value) (forward : left.Passes right) (backward : right.Passes left) :
    left.Congruent right :=
  fun other => ⟨Bool.eq_iff_iff.mpr ⟨(forward other).1, (backward other).1⟩,
    Bool.eq_iff_iff.mpr ⟨(forward other).2, (backward other).2⟩⟩

private theorem mapping_of_equals (left right : Value) (rights : Entries) (mapping : right.mapping? = some rights)
    (equal : left.equals right = true) : ∃ lefts, left.mapping? = some lefts := by
  cases number : left.number? with
  | some worth =>
    obtain ⟨other, there, _⟩ := (equals_of_number left right worth number).mp equal
    rw [number?_of_mapping right rights mapping] at there
    cases there
  | none =>
    cases none : left.mapping? with
    | some lefts => exact ⟨lefts, rfl⟩
    | none =>
      have same := ((equals_of_outline left right number none).mp equal).1
      rw [mapping?_of_outline left right same, mapping] at none
      cases none

section Mappings

def Covered (lefts rights : Entries) : Prop :=
  ∀ entry ∈ lefts, ∃ other ∈ rights, entry.1.Congruent other.1 ∧ entry.2.Congruent other.2

def MappingsCongruent (left right : Value) : Prop :=
  ∃ lefts rights, left.mapping? = some lefts ∧ right.mapping? = some rights ∧ lefts.length = rights.length ∧
    Covered lefts rights ∧ Covered rights lefts

theorem MappingsCongruent.symm (left right : Value) (holds : MappingsCongruent left right) :
    MappingsCongruent right left := by
  obtain ⟨lefts, rights, mapping, mapping', size, into, onto⟩ := holds
  exact ⟨rights, lefts, mapping', mapping, size.symm, onto, into⟩

private theorem MappingsCongruent.passes (left right : Value) (holds : MappingsCongruent left right) :
    left.Passes right := by
  obtain ⟨lefts, rights, mapping, mapping', size, into, onto⟩ := holds
  intro other
  constructor
  · intro equal
    obtain ⟨others, there, size', near⟩ := (equals_of_mapping left other lefts mapping).mp equal
    refine (equals_of_mapping right other rights mapping').mpr ⟨others, there, size.symm.trans size', ?_⟩
    intro entry member
    obtain ⟨entry', member', key, value⟩ := onto entry member
    obtain ⟨far, listed, nearKey, nearValue⟩ := near entry' member'
    exact ⟨far, listed, (key far.1).1.trans nearKey, (value far.2).1.trans nearValue⟩
  -- Equality looks for the entries of its left side, so here the cover of the other direction is needed.
  · intro equal
    obtain ⟨others, there⟩ := mapping_of_equals other left lefts mapping equal
    obtain ⟨_, same, size', near⟩ := (equals_of_mapping other left others there).mp equal
    cases mapping.symm.trans same
    refine (equals_of_mapping other right others there).mpr ⟨rights, mapping', size'.trans size, ?_⟩
    intro far member
    obtain ⟨entry, listed, nearKey, nearValue⟩ := near far member
    obtain ⟨entry', listed', key, value⟩ := into entry listed
    exact ⟨entry', listed', (key far.1).2.symm.trans nearKey, (value far.2).2.symm.trans nearValue⟩

private theorem MappingsCongruent.congruent (left right : Value) (holds : MappingsCongruent left right) :
    left.Congruent right :=
  congruent_of_passes left right (passes left right holds) (passes right left (symm left right holds))

end Mappings

section Places

private theorem equalInPlace_left {lefts rights others : List Value} (congruent : List.Forall₂ Congruent lefts rights)
    (equal : EqualInPlace lefts others) : EqualInPlace rights others := by
  induction congruent generalizing others with
  | nil => exact equal
  | @cons left right lefts rights here _ ih =>
    cases equal with
    | @cons _ other _ others near rest => exact .cons ((here other).1.symm.trans near) (ih rest)

private theorem equalInPlace_right {lefts rights others : List Value} (congruent : List.Forall₂ Congruent lefts rights)
    (equal : EqualInPlace others lefts) : EqualInPlace others rights := by
  induction congruent generalizing others with
  | nil => exact equal
  | @cons left right lefts rights here _ ih =>
    cases equal with
    | @cons other _ others _ near rest => exact .cons ((here other).2.symm.trans near) (ih rest)

def PlacesCongruent (left right : Value) : Prop :=
  left.mapping? = none ∧ left.outline = right.outline ∧ List.Forall₂ Congruent left.components right.components

theorem PlacesCongruent.symm (left right : Value) (holds : PlacesCongruent left right) :
    PlacesCongruent right left := by
  obtain ⟨mapping, same, inside⟩ := holds
  refine ⟨mapping?_of_outline left right same ▸ mapping, same.symm, ?_⟩
  exact (inside.imp Congruent.symm).flip

private theorem PlacesCongruent.passes (left right : Value) (holds : PlacesCongruent left right) :
    left.Passes right := by
  obtain ⟨mapping, same, inside⟩ := holds
  have numbers := number?_of_outline left right same
  have mappings := mapping?_of_outline left right same
  intro other
  constructor
  · intro equal
    cases number : left.number? with
    | some worth =>
      have near := (equals_of_number left other worth number).mp equal
      exact (equals_of_number right other worth (numbers ▸ number)).mpr near
    | none =>
      obtain ⟨same', near⟩ := (equals_of_outline left other number mapping).mp equal
      exact (equals_of_outline right other (numbers ▸ number) (mappings ▸ mapping)).mpr
        ⟨same.symm.trans same', equalInPlace_left inside near⟩
  · intro equal
    cases number : other.number? with
    | some worth =>
      have near := (equals_of_number other left worth number).mp equal
      exact (equals_of_number other right worth number).mpr (numbers ▸ near)
    | none =>
      cases held : other.mapping? with
      | some others =>
        obtain ⟨lefts, there, _⟩ := (equals_of_mapping other left others held).mp equal
        rw [mapping] at there
        cases there
      | none =>
        obtain ⟨same', near⟩ := (equals_of_outline other left number held).mp equal
        exact (equals_of_outline other right number held).mpr
          ⟨same'.trans same, equalInPlace_right inside near⟩

private theorem PlacesCongruent.congruent (left right : Value) (holds : PlacesCongruent left right) :
    left.Congruent right :=
  congruent_of_passes left right (passes left right holds) (passes right left (symm left right holds))

end Places

private theorem outline_or_mapping_of_frame (left right : Value) (framed : left.frame = right.frame) :
    (left.mapping? = none ∧ left.outline = right.outline) ∨
      ∃ lefts rights, left.mapping? = some lefts ∧ right.mapping? = some rights ∧ lefts.length = rights.length := by
  have kept (value : Value) : value.frame.mapping?.map List.length = value.mapping?.map List.length := by
    cases value <;> simp [frame, outline, mapping?]
  have plain (value : Value) (none : value.mapping? = none) : value.frame = value.outline := by
    cases value with
    | dict | bindings => cases none
    | _ => rfl
  have sizes := kept left
  rw [framed, kept right] at sizes
  cases mapping : left.mapping? with
  | none =>
    cases mapping' : right.mapping? with
    | none => exact .inl ⟨rfl, by rw [← plain left mapping, framed, plain right mapping']⟩
    | some rights => simp [mapping, mapping'] at sizes
  | some lefts =>
    cases mapping' : right.mapping? with
    | none => simp [mapping, mapping'] at sizes
    | some rights => exact .inr ⟨lefts, rights, rfl, rfl, by simpa [mapping, mapping'] using sizes.symm⟩

private theorem forall₂_entries (holds : Value → Value → Prop) (lefts rights : Entries)
    (size : lefts.length = rights.length)
    (each : List.Forall₂ holds (lefts.flatMap fun entry => [entry.1, entry.2])
      (rights.flatMap fun entry => [entry.1, entry.2])) :
    List.Forall₂ (fun left right => holds left.1 right.1 ∧ holds left.2 right.2) lefts rights := by
  induction lefts generalizing rights with
  | nil => cases rights <;> simp_all
  | cons left lefts ih =>
    cases rights with
    | nil => simp at size
    | cons right rights =>
      simp only [List.flatMap_cons, List.cons_append, List.nil_append, List.forall₂_cons] at each
      exact .cons ⟨each.1, each.2.1⟩ (ih rights (by simpa using size) each.2.2)

private theorem congruent_of_frame (left right : Value) (framed : left.frame = right.frame)
    (inside : List.Forall₂ Congruent left.components right.components) : left.Congruent right := by
  rcases outline_or_mapping_of_frame left right framed with ⟨mapping, same⟩ | ⟨lefts, rights, mapping, mapping', size⟩
  · exact PlacesCongruent.congruent left right ⟨mapping, same, inside⟩
  · rw [components_of_mapping left lefts mapping, components_of_mapping right rights mapping'] at inside
    have each := forall₂_entries Congruent lefts rights size inside
    refine MappingsCongruent.congruent left right ⟨lefts, rights, mapping, mapping', size, ?_, ?_⟩
    · exact fun entry member => forall₂_left_mem each entry member
    · intro entry member
      obtain ⟨other, listed, key, value⟩ := forall₂_right_mem each entry member
      exact ⟨other, listed, key.symm, value.symm⟩

theorem Reordered.refl (value : Value) : value.Reordered value := by
  induction value using components_induction with
  | step value inside =>
    have each := List.forall₂_iff_zip.mp (List.forall₂_same.mpr inside)
    exact .inside value value rfl rfl fun (part, other) member => each.2 member

/-- A reordered value is equal to what it was equal to. -/
theorem Reordered.congruent (left right : Value) (reordered : left.Reordered right) : left.Congruent right := by
  induction reordered with
  | entries left right lefts rights mapping mapping' permuted =>
    have covered (lefts rights : Entries) (permuted : lefts.Perm rights) : Covered lefts rights :=
      fun entry member => ⟨entry, permuted.mem_iff.mp member, .refl _, .refl _⟩
    exact MappingsCongruent.congruent left right
      ⟨lefts, rights, mapping, mapping', permuted.length_eq, covered _ _ permuted, covered _ _ permuted.symm⟩
  | inside left right framed size _ ih =>
    have inside : List.Forall₂ Congruent left.components right.components :=
      List.forall₂_iff_zip.mpr ⟨size, fun {part other} member => ih (part, other) member⟩
    exact congruent_of_frame left right framed inside
  | trans left middle right _ _ first second => exact Congruent.trans left middle right first second

theorem Reordered.isBool (left right : Value) (reordered : left.Reordered right) : left.isBool = right.isBool := by
  have mapped (value : Value) (entries : Entries) (mapping : value.mapping? = some entries) : value.isBool = false := by
    cases value with
    | dict | bindings => rfl
    | _ => cases mapping
  have kept (value : Value) : value.frame.isBool = value.isBool := by cases value <;> rfl
  induction reordered with
  | entries left right lefts rights mapping mapping' => rw [mapped left lefts mapping, mapped right rights mapping']
  | inside left right framed => rw [← kept left, framed, kept right]
  | trans left middle right _ _ first second => exact first.trans second

/-- Sameness is a partial equivalence: it is symmetric and transitive, and a value is the same as itself exactly when
no NaN is in it. Equality does not see the order in which a mapping was filled, wherever in a value it stands. -/
theorem same_partial_equivalence :
    (∀ left right : Value, left.WellFormed → right.WellFormed → left.same right = right.same left) ∧
    (∀ left middle right : Value, left.same middle = true → middle.same right = true → left.same right = true) ∧
    (∀ value : Value, value.same value = true ↔ value.NaNFree) ∧
    ∀ left left' right right' : Value, left.Reordered left' → right.Reordered right' →
      left.equals right = left'.equals right' ∧ left.same right = left'.same right' := by
  refine ⟨fun left right formed formed' => ?_, same_trans, same_self_iff, ?_⟩
  · exact Bool.eq_iff_iff.mpr ⟨same_symm left right formed, same_symm right left formed'⟩
  · intro left left' right right' first second
    have equal : left.equals right = left'.equals right' :=
      (Reordered.congruent left left' first right).1.trans (Reordered.congruent right right' second left').2
    refine ⟨equal, ?_⟩
    rw [same, same, equal, Reordered.isBool left left' first, Reordered.isBool right right' second]

def kept : Value := .dict [(.text "name", .int 1), (.null, .bool true)]

def keptOtherwise : Value := .bindings [(.null, .bool true), (.text "name", .int 1)]

theorem same_partial_equivalence_kept :
    kept.WellFormed ∧ keptOtherwise.WellFormed ∧ kept.same keptOtherwise = keptOtherwise.same kept ∧
      kept.same kept = true ∧ kept.NaNFree ∧
      (const (tuple [kept])).Reordered (const (tuple [keptOtherwise])) ∧
      (const (tuple [kept])).same (const (tuple [keptOtherwise])) = true := by
  have flat (value : Value) (entries : Entries) (mapping : value.mapping? = some entries)
      (apart : Entries.Apart entries) (scalars : ∀ part ∈ value.components, part.isScalar = true) :
      value.WellFormed := by
    refine .intro value (fun entries' mapping' => ?_) fun part inside => ?_
    · cases mapping.symm.trans mapping'
      exact apart
    · exact part.wellFormed_of_isScalar (scalars part inside)
  have formed : kept.WellFormed := flat kept _ rfl (List.pairwise_pair.mpr rfl) (by decide)
  have formed' : keptOtherwise.WellFormed := flat keptOtherwise _ rfl (List.pairwise_pair.mpr rfl) (by decide)
  have moved : kept.Reordered keptOtherwise := .entries _ _ _ _ rfl rfl (.swap _ _ _)
  have within : (tuple [kept]).Reordered (tuple [keptOtherwise]) :=
    .inside _ _ rfl rfl (List.forall_mem_singleton.mpr moved)
  have wrapped : (const (tuple [kept])).Reordered (const (tuple [keptOtherwise])) :=
    .inside _ _ rfl rfl (List.forall_mem_singleton.mpr within)
  obtain ⟨symmetric, transitive, reflexive, unordered⟩ := same_partial_equivalence
  have same : kept.same kept = true := transitive kept keptOtherwise kept rfl rfl
  have unseen := (unordered _ _ _ _ (.refl (const (tuple [kept]))) wrapped).2
  exact ⟨formed, formed', symmetric _ _ formed formed', same, (reflexive kept).mp same, wrapped, unseen.symm.trans rfl⟩

end Value

end TripleQuery
