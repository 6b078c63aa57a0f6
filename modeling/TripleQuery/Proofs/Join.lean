import TripleQuery.Proofs.Search

/-!
Joins as nested loops. A choice gives each pattern a fact. A join finds, in lexicographic order, the choices
that fit, and answers each with the first occurrence of every variable; no context is dropped early that
could still have led to an answer.
-/

namespace TripleQuery

abbrev Choice := List (Pattern × Fact)

namespace Choice

def meetings (choice : Choice) : List Meeting := choice.flatMap fun chosen => chosen.1.meetings chosen.2

def occurrences (choice : Choice) : List Occurrence := Meeting.occurrences choice.meetings

/-- Every literal is the same value as its field, and every later occurrence of a variable has the same value
as the first one. -/
def Fits (choice : Choice) : Prop :=
  Meeting.LiteralsAgree choice.meetings ∧
  ∀ (position : Nat) (inside : position < choice.occurrences.length),
    ∀ first ∈ (choice.occurrences.take position).lookup choice.occurrences[position].1,
      first.same choice.occurrences[position].2 = true

instance (choice : Choice) : Decidable choice.Fits := inferInstanceAs (Decidable (_ ∧ ∀ _ _, _))

/-- The context of every variable with the field at its first occurrence, in the order of first occurrence. -/
def answer (choice : Choice) : Bindings :=
  ⟨(choice.occurrences.eraseDupsBy fun left right => left.1 == right.1).map fun occurrence =>
    (.text occurrence.1.name, occurrence.2)⟩

def reached (context : Bindings) (choice : Choice) : Option Bindings := context.meet choice.meetings

private theorem reached_nil (context : Bindings) : reached context [] = some context := rfl

private theorem reached_cons (context : Bindings) (pattern : Pattern) (fact : Fact) (rest : Choice) :
    reached context ((pattern, fact) :: rest) =
      (pattern.matched (some context) fact).bind fun next => reached next rest :=
  Bindings.meet_append context (pattern.meetings fact) (meetings rest)

theorem fits_iff (choice : Choice) : choice.Fits ↔ Bindings.empty.Agrees choice.meetings := by
  have unbound (name : Variable) : Bindings.empty.value? name = none := rfl
  simp only [Bindings.Agrees, Bindings.RepeatsAgree, Bindings.standing, unbound, Option.none_or, Fits,
    occurrences]

private theorem answer_eq (choice : Choice) : choice.answer = Bindings.empty.completed choice.occurrences := by
  have unbound (name : Variable) : Bindings.empty.value? name = none := rfl
  simp only [Bindings.completed, Bindings.fresh, unbound, Option.isNone_none, List.filter_true]
  rfl

theorem reached_empty (choice : Choice) :
    reached .empty choice = if choice.Fits then some choice.answer else none := by
  rw [reached, Bindings.meet_eq, answer_eq]
  simp only [fits_iff, occurrences]

theorem answer_value? (choice : Choice) (name : Variable) :
    choice.answer.value? name = choice.occurrences.lookup name := by
  rw [answer_eq, Bindings.value?_completed]
  rfl

end Choice

namespace Store

variable (store : Store) (policy : IndexPolicy) (verbose : Bool)

/-- All choices of stored facts for patterns, in lexicographic order. -/
def choices (store : Store) : List Pattern → List Choice
  | [] => [[]]
  | pattern :: rest => store.facts.flatMap fun fact => (store.choices rest).map ((pattern, fact) :: ·)

def answers (store : Store) (body : List Pattern) : List Bindings :=
  ((store.choices body).filter fun choice => choice.Fits).map Choice.answer

def advance (pattern : Pattern) (contexts : List Bindings) : List Bindings :=
  contexts.flatMap fun context => (store.candidates policy pattern).filterMap (pattern.matched (some context))

def advanceAll (body : List Pattern) (contexts : List Bindings) : List Bindings :=
  body.foldl (fun contexts pattern => store.advance policy pattern contexts) contexts

theorem advanceAll_cons (pattern : Pattern) (rest : List Pattern) (contexts : List Bindings) :
    store.advanceAll policy (pattern :: rest) contexts =
      store.advanceAll policy rest (store.advance policy pattern contexts) := rfl

theorem advanceAll_concat (body : List Pattern) (pattern : Pattern) (contexts : List Bindings) :
    store.advanceAll policy (body ++ [pattern]) contexts =
      store.advance policy pattern (store.advanceAll policy body contexts) :=
  List.foldl_append

private theorem advanceAll_idle (body : List Pattern) : store.advanceAll policy body [] = [] := by
  induction body with
  | nil => rfl
  | cons pattern rest ih => exact ih

private theorem advance_eq (pattern : Pattern) (sound : pattern.WellFormed) (contexts : List Bindings) :
    store.advance policy pattern contexts = if pattern.readable policy = true then
      contexts.flatMap fun context => store.facts.filterMap (pattern.matched (some context)) else [] := by
  rw [advance]
  by_cases readable : pattern.readable policy = true
  · simp only [if_pos readable, filterMap_candidates store policy pattern readable sound]
  · simp [readable, candidates_of_unreadable store policy pattern (by simpa using readable)]

theorem searchAll_found (pattern : Pattern) (formed : pattern.Formed) (contexts : List Bindings) :
    (store.searchAll verbose policy pattern contexts).result = .ok (store.advance policy pattern contexts) := by
  induction contexts with
  | nil => rfl
  | cons context rest ih =>
    simp only [searchAll, Outcome.result_bind, store.search_found policy pattern verbose formed, ih]
    rfl

private theorem searchAll_result (pattern : Pattern) (formed : pattern.Formed) (sound : pattern.WellFormed)
    (contexts : List Bindings) :
    (store.searchAll verbose policy pattern contexts).result =
      .ok (if pattern.readable policy = true then
        contexts.flatMap fun context => store.facts.filterMap (pattern.matched (some context)) else []) := by
  rw [searchAll_found store policy verbose pattern formed, advance_eq store policy pattern sound]

private theorem reached_choices_cons (pattern : Pattern) (rest : List Pattern) (context : Bindings) :
    (store.choices (pattern :: rest)).filterMap (Choice.reached context) =
      (store.facts.filterMap (pattern.matched (some context))).flatMap fun next =>
        (store.choices rest).filterMap (Choice.reached next) := by
  rw [choices, List.filterMap_flatMap]
  simp only [List.filterMap_map]
  induction store.facts with
  | nil => rfl
  | cons fact facts ih =>
    rw [List.flatMap_cons, ih, List.filterMap_cons]
    simp only [Function.comp_def, Choice.reached_cons]
    cases pattern.matched (some context) fact <;> simp

theorem joinFrom_cons (pattern : Pattern) (formed : pattern.Formed) (rest : List Pattern) (step : Nat)
    (contexts next : List Bindings)
    (found : (store.searchAll verbose policy pattern contexts).result = .ok next) :
    (store.joinFrom verbose policy step (pattern :: rest) contexts).result =
      if next.isEmpty = true then .ok [] else (store.joinFrom verbose policy (step + 1) rest next).result := by
  obtain ⟨parts, written⟩ := pattern.parts_eq formed
  simp only [joinFrom, Outcome.result_bind, found, written]
  change (if next.isEmpty = true then pure [] else store.joinFrom verbose policy (step + 1) rest next :
    Outcome (List Bindings)).result = _
  split <;> rfl

/-- Where a join ends early, the patterns that are left would have found nothing. -/
theorem joinFrom_found (body : List Pattern) (formed : ∀ pattern ∈ body, pattern.Formed) (step : Nat)
    (contexts : List Bindings) :
    (store.joinFrom verbose policy step body contexts).result = .ok (store.advanceAll policy body contexts) := by
  induction body generalizing step contexts with
  | nil => rfl
  | cons pattern rest ih =>
    have found := store.searchAll_found policy verbose pattern (formed pattern (by simp)) contexts
    rw [joinFrom_cons store policy verbose pattern (formed pattern (by simp)) rest step contexts _ found,
      advanceAll_cons]
    split
    next ended => rw [List.isEmpty_iff.mp ended, advanceAll_idle]
    next => exact ih (fun other member => formed other (by simp [member])) (step + 1) _

/-- What every match keeps holds of all contexts of a join. It may speak of the patterns that have been matched. -/
theorem join_invariant (holds : List Pattern → Bindings → Prop) (start : holds [] .empty)
    (kept : ∀ earlier pattern context fact next, holds earlier context → fact ∈ store.candidates policy pattern →
      pattern.matched (some context) fact = some next → holds (earlier ++ [pattern]) next)
    (body : List Pattern) (formed : ∀ pattern ∈ body, pattern.Formed) :
    ∃ contexts, (store.join verbose policy body).result = .ok contexts ∧
      ∀ context ∈ contexts, holds body context := by
  have run (earlier : List Pattern) (contexts : List Bindings) (before : ∀ context ∈ contexts, holds earlier context) :
      ∀ context ∈ store.advanceAll policy body contexts, holds (earlier ++ body) context := by
    clear formed
    induction body generalizing earlier contexts with
    | nil => simpa [advanceAll] using before
    | cons pattern rest ih =>
      rw [advanceAll_cons, List.append_cons]
      apply ih
      intro next member
      obtain ⟨context, inside, member⟩ := List.mem_flatMap.mp member
      obtain ⟨fact, candidate, goes⟩ := List.mem_filterMap.mp member
      exact kept earlier pattern context fact next (before context inside) candidate goes
  exact ⟨_, joinFrom_found store policy verbose body formed 0 [.empty],
    run [] [.empty] (List.forall_mem_singleton.mpr start)⟩

private theorem advanceAll_eq (body : List Pattern) (sound : ∀ pattern ∈ body, pattern.WellFormed)
    (contexts : List Bindings) :
    store.advanceAll policy body contexts =
      if body.all (fun pattern => pattern.readable policy) = true then
        contexts.flatMap fun context => (store.choices body).filterMap (Choice.reached context) else [] := by
  induction body generalizing contexts with
  | nil => simp [advanceAll, choices, Choice.reached_nil]
  | cons pattern rest ih =>
    rw [advanceAll_cons, ih fun other member => sound other (by simp [member]),
      advance_eq store policy pattern (sound pattern (by simp)), List.all_cons]
    simp only [reached_choices_cons, ← List.flatMap_assoc]
    by_cases readable : pattern.readable policy = true <;> simp [readable]

private theorem joinFrom_result (body : List Pattern) (formed : ∀ pattern ∈ body, pattern.Formed)
    (sound : ∀ pattern ∈ body, pattern.WellFormed) (step : Nat) (contexts : List Bindings) :
    (store.joinFrom verbose policy step body contexts).result =
      .ok (if body.all (fun pattern => pattern.readable policy) = true then
        contexts.flatMap fun context => (store.choices body).filterMap (Choice.reached context) else []) := by
  rw [joinFrom_found store policy verbose body formed, advanceAll_eq store policy body sound]

theorem answers_eq (body : List Pattern) :
    store.answers body = (store.choices body).filterMap (Choice.reached .empty) := by
  rw [answers]
  induction store.choices body with
  | nil => rfl
  | cons choice rest ih =>
    by_cases fits : choice.Fits <;> simp [Choice.reached_empty, fits, ih]

theorem join_result (body : List Pattern) (formed : ∀ pattern ∈ body, pattern.Formed)
    (sound : ∀ pattern ∈ body, pattern.WellFormed) :
    (store.join verbose policy body).result =
      .ok (if body.all (fun pattern => pattern.readable policy) = true then store.answers body else []) := by
  rw [join, joinFrom_result store policy verbose body formed sound, answers_eq, List.flatMap_singleton]

private theorem joinFrom_eq_foldlM (body : List Pattern) (formed : ∀ pattern ∈ body, pattern.Formed)
    (sound : ∀ pattern ∈ body, pattern.WellFormed) (step : Nat) (contexts : List Bindings) :
    (store.joinFrom verbose policy step body contexts).result =
      body.foldlM (fun contexts pattern => (store.searchAll verbose policy pattern contexts).result)
        contexts := by
  have idle (rest : List Pattern) :
      rest.foldlM (fun contexts pattern => (store.searchAll verbose policy pattern contexts).result) [] =
        .ok [] := by
    induction rest with
    | nil => rfl
    | cons pattern rest ih => exact ih
  induction body generalizing step contexts with
  | nil => rfl
  | cons pattern rest ih =>
    have others := ih (fun other member => formed other (by simp [member]))
      (fun other member => sound other (by simp [member]))
    obtain ⟨next, found⟩ : ∃ next, (store.searchAll verbose policy pattern contexts).result = .ok next :=
      ⟨_, store.searchAll_result policy verbose pattern (formed pattern (by simp)) (sound pattern (by simp))
        contexts⟩
    rw [joinFrom_cons store policy verbose pattern (formed pattern (by simp)) rest step contexts next found,
      others, List.foldlM_cons, found]
    change _ = List.foldlM _ next rest
    cases next with
    | nil => exact (idle rest).symm
    | cons => rfl

/-- A join of patterns whose literals can all be keys is the nested loop over all choices of facts: it keeps
those that fit, in lexicographic order, and answers each with the first occurrences of its variables. The early
end changes nothing. -/
theorem join_eq_nested_loops (body : List Pattern) (formed : ∀ pattern ∈ body, pattern.Formed)
    (literals : ∀ pattern ∈ body, ∀ field literal, pattern.literal? field = some literal →
      literal.hashable = true ∧ literal.WellFormed) :
    (store.join verbose policy body).result =
        .ok (((store.choices body).filter fun choice => choice.Fits).map Choice.answer) ∧
      (store.join verbose policy body).result =
        body.foldlM (fun contexts pattern => (store.searchAll verbose policy pattern contexts).result)
          [.empty] := by
  have sound : ∀ pattern ∈ body, pattern.WellFormed :=
    fun pattern member field literal holds => (literals pattern member field literal holds).2
  have readable : body.all (fun pattern => pattern.readable policy) = true :=
    List.all_eq_true.mpr fun pattern member => pattern.readable_of_hashable policy
      fun field literal holds => (literals pattern member field literal holds).1
  refine ⟨?_, joinFrom_eq_foldlM store policy verbose body formed sound 0 [.empty]⟩
  rw [join_result store policy verbose body formed sound, if_pos readable, answers]

end Store

def Variable.other : Variable := ⟨"?other", by decide, by decide⟩

def Pattern.ofAnything : Pattern := .ofTerms (.var .other) (.const (.text "is")) (.var .what)

theorem Pattern.ofAnything_formed : ∀ pattern ∈ [ofAnything], pattern.Formed :=
  List.forall_mem_singleton.mpr (ofTerms_formed _ _ _)

def Query.oneBody : List Pattern := [.ofOne, .ofAnything]

theorem Query.oneBody_formed : ∀ pattern ∈ oneBody, pattern.Formed := by
  simp [oneBody, Pattern.ofOne, Pattern.ofAnything, Pattern.ofTerms_formed]

theorem Query.oneBody_scalars :
    ∀ pattern ∈ oneBody, (pattern.literals.all fun literal => literal.2.isScalar) = true := by
  decide

theorem Store.join_eq_nested_loops_ones :
    (Store.ones.join true .fixed Query.oneBody).result =
        .ok (((Store.ones.choices Query.oneBody).filter fun choice => choice.Fits).map Choice.answer) ∧
      ((Store.ones.choices Query.oneBody).filter fun choice => choice.Fits).map Choice.answer =
        List.replicate 4 ⟨[(.text "?what", .text "one"), (.text "?other", .int 1)]⟩ := by
  have nested := join_eq_nested_loops Store.ones .fixed true Query.oneBody Query.oneBody_formed
    fun pattern member => pattern.literal_of_scalars (Query.oneBody_scalars pattern member)
  exact ⟨nested.1, rfl⟩

end TripleQuery
