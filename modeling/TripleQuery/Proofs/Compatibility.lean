import TripleQuery.Proofs.Join
import Mathlib.Data.List.Pairwise

/-!
Whether a choice fits does not depend on the order of its patterns. Over well-formed facts, comparing each
occurrence of a variable with the first one is the same as comparing all of them with each other, and two orders
of one choice answer every variable with the same value, though one may answer `1` where the other has `1.0`.
-/

namespace TripleQuery

namespace Occurrence

def Compatible (left right : Occurrence) : Prop :=
  left.1 = right.1 → left.2.same right.2 = true ∧ right.2.same left.2 = true

instance : Std.Symm Compatible := ⟨fun _ _ both same => (both same.symm).symm⟩

end Occurrence

namespace Value

/-- Identical, or the same for matching; only the latter leaves NaN out. -/
def Alike (left right : Value) : Prop := left = right ∨ left.same right = true

end Value

namespace Bindings

private theorem same_of_repeatsAgree (context : Bindings) (occurrences : List Occurrence)
    (agree : context.RepeatsAgree occurrences) (occurrence : Occurrence) (member : occurrence ∈ occurrences)
    (held : Value) (known : context.value? occurrence.1 = some held) : held.same occurrence.2 = true := by
  obtain ⟨position, inside, rfl⟩ := List.mem_iff_getElem.mp member
  exact agree position inside held (by simp [standing, known])

private theorem pairwise_of_repeatsAgree (context : Bindings) (occurrences : List Occurrence)
    (contextSound : ∀ name held, context.value? name = some held → held.WellFormed)
    (sound : ∀ occurrence ∈ occurrences, occurrence.2.WellFormed) (agree : context.RepeatsAgree occurrences) :
    occurrences.Pairwise Occurrence.Compatible := by
  induction occurrences generalizing context with
  | nil => exact .nil
  | cons occurrence rest ih =>
    obtain ⟨name, value⟩ := occurrence
    have valueSound : value.WellFormed := sound (name, value) (by simp)
    have restSound : ∀ other ∈ rest, other.2.WellFormed := fun other member => sound other (by simp [member])
    -- What stands for a variable is the value held at its start, so later occurrences compare through that.
    cases known : context.value? name with
    | some held =>
      obtain ⟨here, others⟩ := (repeatsAgree_bound context name held value rest known).mp agree
      refine .cons ?_ (ih context contextSound restSound others)
      intro other member same
      have there := same_of_repeatsAgree context rest others other member held (same ▸ known)
      have heldSound := contextSound name held known
      exact ⟨Value.same_trans _ _ _ (Value.same_symm _ _ heldSound here) there,
        Value.same_trans _ _ _ (Value.same_symm _ _ heldSound there) here⟩
    | none =>
      have others := (repeatsAgree_unbound context name value rest known).mp agree
      refine .cons ?_ (ih (context.bind name value) ?_ restSound others)
      · intro other member same
        have there := same_of_repeatsAgree (context.bind name value) rest others other member value
          (by rw [value?_bind, ← same]; simp [known])
        exact ⟨there, Value.same_symm _ _ valueSound there⟩
      · intro bound held found
        rw [value?_bind] at found
        cases before : context.value? bound with
        | some earlier => exact contextSound bound held (by simpa [before] using found)
        | none =>
          rw [before, Option.none_or] at found
          split at found
          · exact Option.some.inj found ▸ valueSound
          · contradiction

private theorem repeatsAgree_of_pairwise (occurrences : List Occurrence)
    (pairwise : occurrences.Pairwise Occurrence.Compatible) : Bindings.empty.RepeatsAgree occurrences := by
  intro position inside value first
  obtain ⟨before, after, split, _⟩ := List.lookup_eq_some_iff.mp first
  have earlier : (occurrences[position].1, value) ∈ occurrences.take position := by simp [split]
  have later : occurrences[position] ∈ occurrences.drop position := by
    rw [List.drop_eq_getElem_cons inside]
    exact List.mem_cons_self
  rw [← List.take_append_drop position occurrences] at pairwise
  exact ((List.pairwise_append.mp pairwise).2.2 _ earlier _ later rfl).1

end Bindings

namespace Choice

def WellFormed (choice : Choice) : Prop := ∀ chosen ∈ choice, chosen.2.WellFormed

private theorem wellFormed_occurrence (choice : Choice) (sound : choice.WellFormed) (occurrence : Occurrence)
    (member : occurrence ∈ choice.occurrences) : occurrence.2.WellFormed := by
  obtain ⟨meeting, member, named⟩ := List.mem_filterMap.mp member
  obtain ⟨chosen, inside, member⟩ := List.mem_flatMap.mp member
  obtain ⟨field, _, placed⟩ := List.mem_filterMap.mp member
  obtain ⟨name, _, rfl⟩ := Option.map_eq_some_iff.mp named
  obtain ⟨term, _, rfl⟩ := Option.map_eq_some_iff.mp placed
  exact sound chosen inside field

/-- Fitting without an order: literals are the same as their fields, and occurrences of one variable are the
same value among each other. -/
theorem fits_iff_compatible (choice : Choice) (sound : choice.WellFormed) :
    choice.Fits ↔
      Meeting.LiteralsAgree choice.meetings ∧ choice.occurrences.Pairwise Occurrence.Compatible := by
  rw [fits_iff, Bindings.Agrees]
  refine and_congr_right fun _ => ⟨?_, Bindings.repeatsAgree_of_pairwise choice.occurrences⟩
  exact Bindings.pairwise_of_repeatsAgree .empty choice.occurrences (fun _ _ known => by cases known)
    (choice.wellFormed_occurrence sound)

variable (choice other : Choice)

theorem WellFormed.perm (permuted : choice.Perm other) (sound : choice.WellFormed) : other.WellFormed :=
  fun chosen member => sound chosen (permuted.mem_iff.mpr member)

private theorem meetings_perm (permuted : choice.Perm other) : choice.meetings.Perm other.meetings :=
  permuted.flatMap_right _

private theorem occurrences_perm (permuted : choice.Perm other) : choice.occurrences.Perm other.occurrences :=
  (meetings_perm choice other permuted).filterMap _

theorem fits_perm (permuted : choice.Perm other) (sound : choice.WellFormed) : choice.Fits ↔ other.Fits := by
  rw [choice.fits_iff_compatible sound, other.fits_iff_compatible (sound.perm choice other permuted)]
  refine and_congr ?_ ((occurrences_perm choice other permuted).pairwise_iff fun both => symm both)
  have moved (meeting : Meeting) : meeting ∈ choice.meetings ↔ meeting ∈ other.meetings :=
    (meetings_perm choice other permuted).mem_iff
  simp only [Meeting.LiteralsAgree, moved]

theorem answer_perm (permuted : choice.Perm other) (sound : choice.WellFormed) (fits : choice.Fits)
    (name : Variable) : Option.Rel Value.Alike (choice.answer.value? name) (other.answer.value? name) := by
  have pairwise := ((choice.fits_iff_compatible sound).mp fits).2
  have moved (occurrence : Occurrence) : occurrence ∈ choice.occurrences ↔ occurrence ∈ other.occurrences :=
    (occurrences_perm choice other permuted).mem_iff
  have found (occurrences : List Occurrence) (value : Value) (first : occurrences.lookup name = some value) :
      (name, value) ∈ occurrences := by
    obtain ⟨before, after, split, _⟩ := List.lookup_eq_some_iff.mp first
    simp [split]
  have missed (occurrences : List Occurrence) (value : Value) (none : occurrences.lookup name = none) :
      (name, value) ∉ occurrences := by
    intro member
    simpa using List.lookup_eq_none_iff.mp none _ member
  rw [answer_value?, answer_value?]
  cases here : choice.occurrences.lookup name with
  | none =>
    cases there : other.occurrences.lookup name with
    | none => exact .none
    | some value => exact absurd ((moved _).mpr (found _ _ there)) (missed _ value here)
  | some value =>
    cases there : other.occurrences.lookup name with
    | none => exact absurd ((moved _).mp (found _ _ here)) (missed _ value there)
    | some value' =>
      refine .some ?_
      by_cases same : value = value'
      · exact .inl same
      · exact .inr (pairwise.forall (found _ _ here) ((moved _).mpr (found _ _ there)) (by simp [same]) rfl).1

end Choice

end TripleQuery
