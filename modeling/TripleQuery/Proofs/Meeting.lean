import TripleQuery.Matching
import Mathlib.Data.List.Basic

/-!
Matching as meetings of terms with the fields they stand over. A run of meetings goes through from a context
exactly when every literal meets the same value and every variable meets the same value as what it stands for by
then; the context it leaves holds the old entries and, after them, the first occurrence of each new variable.
-/

namespace TripleQuery

abbrev Meeting := Term × Value

abbrev Occurrence := Variable × Value

namespace Term

def literal? : Term → Option Value
  | var _ => none
  | const value => some value

end Term

namespace Meeting

def occurrences (meetings : List Meeting) : List Occurrence :=
  meetings.filterMap fun meeting => meeting.1.name?.map fun name => (name, meeting.2)

def LiteralsAgree (meetings : List Meeting) : Prop :=
  ∀ meeting ∈ meetings, ∀ literal ∈ meeting.1.literal?, literal.same meeting.2 = true

instance (meetings : List Meeting) : Decidable (LiteralsAgree meetings) :=
  inferInstanceAs (Decidable (∀ _ ∈ _, _))

end Meeting

namespace Bindings

def meet (context : Bindings) (meetings : List Meeting) : Option Bindings :=
  meetings.foldlM (fun context meeting => meeting.1.matchValue meeting.2 context) context

@[simp] theorem meet_nil (context : Bindings) : context.meet [] = some context := rfl

theorem meet_cons (context : Bindings) (term : Term) (value : Value) (rest : List Meeting) :
    context.meet ((term, value) :: rest) =
      (term.matchValue value context).bind fun next => next.meet rest := rfl

theorem meet_append (context : Bindings) (first second : List Meeting) :
    context.meet (first ++ second) = (context.meet first).bind fun next => next.meet second := by
  simp only [meet, List.foldlM_append]
  rfl

/-- What a variable stands for after a context and some occurrences: its value in the context, or else in its
first occurrence. -/
def standing (context : Bindings) (earlier : List Occurrence) (name : Variable) : Option Value :=
  (context.value? name).or (earlier.lookup name)

/-- Every occurrence of a variable is the same value as what the variable stands for by then. -/
def RepeatsAgree (context : Bindings) (occurrences : List Occurrence) : Prop :=
  ∀ (position : Nat) (inside : position < occurrences.length),
    ∀ value ∈ context.standing (occurrences.take position) occurrences[position].1,
      value.same occurrences[position].2 = true

def Agrees (context : Bindings) (meetings : List Meeting) : Prop :=
  Meeting.LiteralsAgree meetings ∧ context.RepeatsAgree (Meeting.occurrences meetings)

instance (context : Bindings) (occurrences : List Occurrence) : Decidable (context.RepeatsAgree occurrences) :=
  inferInstanceAs (Decidable (∀ _ _, _))

instance (context : Bindings) (meetings : List Meeting) : Decidable (context.Agrees meetings) :=
  inferInstanceAs (Decidable (_ ∧ _))

def fresh (context : Bindings) (occurrences : List Occurrence) : List Occurrence :=
  (occurrences.filter fun occurrence => (context.value? occurrence.1).isNone).eraseDupsBy
    fun left right => left.1 == right.1

def completed (context : Bindings) (occurrences : List Occurrence) : Bindings :=
  ⟨context.entries ++ (context.fresh occurrences).map fun occurrence => (.text occurrence.1.name, occurrence.2)⟩

theorem value?_bind (context : Bindings) (bound : Variable) (value : Value) (name : Variable) :
    (context.bind bound value).value? name =
      (context.value? name).or (if name = bound then some value else none) := by
  have equal : (Value.text bound.name).equals (.text name.name) = decide (name = bound) := by
    by_cases same : name = bound
    · subst same
      simp [Value.equals]
    · have different : bound.name ≠ name.name := fun equal => same (Variable.ext_name equal.symm)
      simp [Value.equals, same, different]
  simp only [value?, bind, get?, Entries.get?, List.find?_append, Option.map_or]
  congr 1
  by_cases same : name = bound
  · rw [if_pos same, List.find?_cons_of_pos (by rw [equal]; exact decide_eq_true same)]
    rfl
  · rw [if_neg same, List.find?_cons_of_neg (by rw [equal]; simpa using same)]
    rfl

private theorem standing_bound (context : Bindings) (bound : Variable) (value : Value) (earlier : List Occurrence)
    (name : Variable) (known : (context.value? bound).isSome = true) :
    context.standing ((bound, value) :: earlier) name = context.standing earlier name := by
  by_cases same : name = bound
  · subst same
    simp [standing, Option.or_of_isSome known]
  · have other : (name == bound) = false := by simpa using same
    simp [standing, List.lookup_cons, other]

private theorem standing_bind (context : Bindings) (bound : Variable) (value : Value) (earlier : List Occurrence)
    (name : Variable) :
    (context.bind bound value).standing earlier name = context.standing ((bound, value) :: earlier) name := by
  rw [standing, standing, value?_bind, Option.or_assoc, List.lookup_cons]
  by_cases same : name = bound
  · simp [same]
  · have other : (name == bound) = false := by simpa using same
    simp [same, other]

private theorem repeatsAgree_cons (context : Bindings) (name : Variable) (value : Value) (rest : List Occurrence) :
    context.RepeatsAgree ((name, value) :: rest) ↔
      (∀ held ∈ context.value? name, held.same value = true) ∧
        ∀ (position : Nat) (inside : position < rest.length),
          ∀ held ∈ context.standing ((name, value) :: rest.take position) rest[position].1,
            held.same rest[position].2 = true := by
  constructor
  · intro agree
    refine ⟨fun held known => agree 0 (Nat.succ_pos _) held ?_,
      fun position inside => agree (position + 1) (Nat.succ_lt_succ inside)⟩
    simpa [standing] using known
  · rintro ⟨first, others⟩ position inside
    cases position with
    | zero => simpa [standing] using first
    | succ position => exact others position (Nat.lt_of_succ_lt_succ inside)

theorem repeatsAgree_bound (context : Bindings) (name : Variable) (held value : Value) (rest : List Occurrence)
    (known : context.value? name = some held) :
    context.RepeatsAgree ((name, value) :: rest) ↔ held.same value = true ∧ context.RepeatsAgree rest := by
  have unchanged := fun earlier other => standing_bound context name value earlier other (by simp [known])
  rw [repeatsAgree_cons]
  simp only [known, Option.mem_some_iff, forall_eq', unchanged, RepeatsAgree]

theorem repeatsAgree_unbound (context : Bindings) (name : Variable) (value : Value) (rest : List Occurrence)
    (unknown : context.value? name = none) :
    context.RepeatsAgree ((name, value) :: rest) ↔ (context.bind name value).RepeatsAgree rest := by
  rw [repeatsAgree_cons]
  simp [unknown, RepeatsAgree, standing_bind]

theorem fresh_bound (context : Bindings) (name : Variable) (held value : Value) (rest : List Occurrence)
    (known : context.value? name = some held) : context.fresh ((name, value) :: rest) = context.fresh rest := by
  simp [fresh, known]

theorem fresh_unbound (context : Bindings) (name : Variable) (value : Value) (rest : List Occurrence)
    (unknown : context.value? name = none) :
    context.fresh ((name, value) :: rest) = (name, value) :: (context.bind name value).fresh rest := by
  have narrowed : ∀ occurrence : Occurrence,
      (decide ((occurrence.1 == name) = false) && (context.value? occurrence.1).isNone) =
        ((context.bind name value).value? occurrence.1).isNone := by
    intro occurrence
    rw [value?_bind]
    by_cases same : occurrence.1 = name <;> simp [same]
  simp only [fresh, List.filter_cons, unknown, Option.isNone_none, if_true, List.eraseDupsBy_cons,
    List.filter_filter, narrowed]

theorem completed_bound (context : Bindings) (name : Variable) (held value : Value) (rest : List Occurrence)
    (known : context.value? name = some held) :
    context.completed ((name, value) :: rest) = context.completed rest := by
  rw [completed, completed, fresh_bound context name held value rest known]

theorem completed_unbound (context : Bindings) (name : Variable) (value : Value) (rest : List Occurrence)
    (unknown : context.value? name = none) :
    context.completed ((name, value) :: rest) = (context.bind name value).completed rest := by
  simp [completed, fresh_unbound context name value rest unknown, bind]

theorem value?_completed (context : Bindings) (occurrences : List Occurrence) (name : Variable) :
    (context.completed occurrences).value? name = context.standing occurrences name := by
  induction occurrences generalizing context with
  | nil => simp [completed, fresh, standing]
  | cons occurrence rest ih =>
    obtain ⟨bound, value⟩ := occurrence
    cases known : context.value? bound with
    | some held =>
      rw [completed_bound context bound held value rest known, ih,
        standing_bound context bound value rest name (by simp [known])]
    | none => rw [completed_unbound context bound value rest known, ih, standing_bind]

/-- A run of meetings goes through exactly when it agrees, and then completes the context. -/
theorem meet_eq (context : Bindings) (meetings : List Meeting) :
    context.meet meetings =
      if context.Agrees meetings then some (context.completed (Meeting.occurrences meetings)) else none := by
  induction meetings generalizing context with
  | nil => simp [Agrees, Meeting.LiteralsAgree, RepeatsAgree, completed, fresh, Meeting.occurrences]
  | cons meeting rest ih =>
    obtain ⟨term, value⟩ := meeting
    rw [meet_cons]
    cases term with
    | const literal =>
      have opened : context.Agrees ((.const literal, value) :: rest) ↔
          literal.same value = true ∧ context.Agrees rest := by
        simp [Agrees, Meeting.LiteralsAgree, Term.literal?, Meeting.occurrences, Term.name?, and_assoc]
      have kept : Meeting.occurrences ((.const literal, value) :: rest) = Meeting.occurrences rest := rfl
      by_cases same : literal.same value = true
      · rw [Term.matchValue, if_pos same, Option.bind_some, ih, kept]
        simp only [opened, same, true_and]
      · rw [Term.matchValue, if_neg same, Option.bind_none, if_neg fun agree => same (opened.mp agree).1]
    | var name =>
      have grown : Meeting.occurrences ((.var name, value) :: rest) =
          (name, value) :: Meeting.occurrences rest := rfl
      have literals : Meeting.LiteralsAgree ((.var name, value) :: rest) ↔ Meeting.LiteralsAgree rest := by
        simp [Meeting.LiteralsAgree, Term.literal?]
      -- A bound variable is compared and leaves the context alone; an unbound one moves into the context.
      cases known : context.value? name with
      | some held =>
        have opened := repeatsAgree_bound context name held value (Meeting.occurrences rest) known
        by_cases same : held.same value = true
        · have agree : context.Agrees ((.var name, value) :: rest) ↔ context.Agrees rest := by
            simp only [Agrees, grown, literals, opened, same, true_and]
          rw [grown, completed_bound context name held value _ known]
          simp only [Term.matchValue, known, same, if_true, Option.bind_some, ih, agree]
        · simp [Term.matchValue, known, same, Agrees, grown, opened]
      | none =>
        have agree : context.Agrees ((.var name, value) :: rest) ↔ (context.bind name value).Agrees rest := by
          simp only [Agrees, grown, literals, repeatsAgree_unbound context name value _ known]
        rw [grown, completed_unbound context name value _ known]
        simp only [Term.matchValue, known, Option.bind_some, ih, agree]

end Bindings

end TripleQuery
