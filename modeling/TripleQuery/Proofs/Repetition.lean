import TripleQuery.Proofs.Join
import TripleQuery.Proofs.Store.Retrieval

/-!
Repeated patterns. A context that a join leaves still matches, for every pattern of the join, the fact that was
chosen for it: what was bound is never lost, and a bound variable stands for the same value. So a pattern that is
given once more adds nothing to a context, and only repeats it for each candidate that matches under it.
-/

namespace TripleQuery

namespace Bindings

/-- Everything that one context binds is bound to the same value in the other. -/
def Within (context next : Bindings) : Prop :=
  ∀ name held, context.value? name = some held → next.value? name = some held

def denoted? (context : Bindings) : Term → Option Value
  | .const value => some value
  | .var name => context.value? name

def Settles (context : Bindings) (meetings : List Meeting) : Prop :=
  ∀ meeting ∈ meetings, ∃ held, context.denoted? meeting.1 = some held ∧ held.same meeting.2 = true

theorem Within.trans {first second third : Bindings} (before : first.Within second) (after : second.Within third) :
    first.Within third :=
  fun name held known => after name held (before name held known)

private theorem Within.denoted? {context next : Bindings} (within : context.Within next) (term : Term) (held : Value)
    (known : context.denoted? term = some held) : next.denoted? term = some held := by
  cases term with
  | const value => exact known
  | var name => exact within name held known

theorem Settles.within {context next : Bindings} (meetings : List Meeting) (settles : context.Settles meetings)
    (within : context.Within next) : next.Settles meetings := by
  intro meeting member
  obtain ⟨held, known, same⟩ := settles meeting member
  exact ⟨held, within.denoted? meeting.1 held known, same⟩

variable (context next : Bindings)

private theorem matchValue_denoted (term : Term) (value held : Value) (known : context.denoted? term = some held) :
    term.matchValue value context = if held.same value = true then some context else none := by
  cases term with
  | const literal =>
    cases known
    rfl
  | var name =>
    have known : context.value? name = some held := known
    simp only [Term.matchValue, known]

/-- After a term has met a value it stands for something that is the same, provided that the value is the same as
itself: a variable may just have been bound to it. -/
theorem matchValue_settles (term : Term) (value : Value) (reflexive : value.same value = true)
    (goes : term.matchValue value context = some next) :
    context.Within next ∧ ∃ held, next.denoted? term = some held ∧ held.same value = true := by
  cases known : context.denoted? term with
  | some held =>
    rw [matchValue_denoted context term value held known, Option.ite_none_right_eq_some, Option.some.injEq] at goes
    obtain ⟨same, rfl⟩ := goes
    exact ⟨fun _ _ found => found, held, known, same⟩
  | none =>
    cases term with
    | const literal => cases known
    | var name =>
      have unknown : context.value? name = none := known
      simp only [Term.matchValue, unknown, Option.some.injEq] at goes
      subst goes
      refine ⟨fun other held found => ?_, value, ?_, reflexive⟩
      · rw [value?_bind, found, Option.some_or]
      · simp [denoted?, value?_bind, unknown]

private theorem meet_settles (meetings : List Meeting)
    (reflexive : ∀ meeting ∈ meetings, meeting.2.same meeting.2 = true)
    (goes : context.meet meetings = some next) : context.Within next ∧ next.Settles meetings := by
  induction meetings generalizing context with
  | nil =>
    cases goes
    exact ⟨fun _ _ found => found, by simp [Settles]⟩
  | cons meeting rest ih =>
    obtain ⟨term, value⟩ := meeting
    rw [meet_cons, Option.bind_eq_some_iff] at goes
    obtain ⟨middle, first, others⟩ := goes
    obtain ⟨before, held, known, same⟩ :=
      matchValue_settles context middle term value (reflexive _ List.mem_cons_self) first
    obtain ⟨after, settled⟩ := ih middle (fun meeting member => reflexive meeting (by simp [member])) others
    refine ⟨before.trans after, ?_⟩
    rintro meeting member
    rcases List.mem_cons.mp member with rfl | member
    · exact ⟨held, after.denoted? term held known, same⟩
    · exact settled meeting member

private theorem meet_denoted (meetings : List Meeting)
    (known : ∀ term ∈ meetings.map Prod.fst, (context.denoted? term).isSome = true)
    (goes : context.meet meetings = some next) : next = context := by
  induction meetings with
  | nil => exact (Option.some.inj goes).symm
  | cons meeting rest ih =>
    obtain ⟨term, value⟩ := meeting
    obtain ⟨here, others⟩ := List.forall_mem_cons.mp known
    obtain ⟨held, here⟩ := Option.isSome_iff_exists.mp here
    rw [meet_cons, matchValue_denoted context term value held here] at goes
    by_cases same : held.same value = true
    · rw [if_pos same, Option.bind_some] at goes
      exact ih others goes
    · simp [same] at goes

private theorem meet_of_settles (meetings : List Meeting) (settles : context.Settles meetings) :
    context.meet meetings = some context := by
  induction meetings with
  | nil => rfl
  | cons meeting rest ih =>
    obtain ⟨term, value⟩ := meeting
    obtain ⟨held, known, same⟩ := settles (term, value) List.mem_cons_self
    rw [meet_cons, matchValue_denoted context term value held known, if_pos same, Option.bind_some]
    exact ih fun meeting member => settles meeting (by simp [member])

theorem Settles.known (meetings : List Meeting) (settles : context.Settles meetings) :
    ∀ term ∈ meetings.map Prod.fst, (context.denoted? term).isSome = true := by
  simp only [List.forall_mem_map]
  intro meeting member
  obtain ⟨held, known, _⟩ := settles meeting member
  simp [known]

end Bindings

namespace Pattern

variable (pattern : Pattern)

def accepts (context : Bindings) (fact : Fact) : Bool :=
  match pattern.matchFact fact (some context) with
  | .ok found => found.isSome
  | .error _ => false

private theorem accepts_eq (formed : pattern.Formed) (context : Bindings) (fact : Fact) :
    pattern.accepts context fact = (pattern.matched (some context) fact).isSome := by
  rw [accepts, pattern.matchFact_eq formed]

private theorem same_of_meetings (fact : Fact) (reflexive : ∀ field, (fact.get field).equals (fact.get field) = true) :
    ∀ meeting ∈ pattern.meetings fact, meeting.2.same meeting.2 = true := by
  intro meeting member
  obtain ⟨field, _, placed⟩ := List.mem_filterMap.mp member
  obtain ⟨term, _, rfl⟩ := Option.map_eq_some_iff.mp placed
  simp [Value.same, reflexive field]

end Pattern

namespace Store

variable (store : Store) (policy : IndexPolicy) (pattern : Pattern) (context : Bindings)

private theorem mem_facts_of_candidates (fact : Fact) (member : fact ∈ store.candidates policy pattern) :
    fact ∈ store.facts := by
  unfold candidates at member
  split at member
  · exact member
  · rw [bucket, index_eq] at member
    exact Index.mem_of_mem_lookup _ _ store.facts fact member

/-- How many candidates of a pattern match under a context. -/
def matchCount : Nat := (store.candidates policy pattern).countP (pattern.accepts context)

def Settled : Prop := ∃ fact ∈ store.candidates policy pattern, context.Settles (pattern.meetings fact)

theorem Settled.within {store : Store} {policy : IndexPolicy} {pattern : Pattern} {context next : Bindings}
    (settled : store.Settled policy pattern context) (within : context.Within next) :
    store.Settled policy pattern next := by
  obtain ⟨fact, candidate, settles⟩ := settled
  exact ⟨fact, candidate, settles.within _ within⟩

section Settled

variable (formed : pattern.Formed) (settled : store.Settled policy pattern context)

include formed settled

private theorem matchCount_pos : 1 ≤ store.matchCount policy pattern context := by
  obtain ⟨fact, candidate, settles⟩ := settled
  have goes : pattern.matched (some context) fact = some context :=
    Bindings.meet_of_settles context _ settles
  exact List.countP_pos_iff.mpr ⟨fact, candidate, by rw [pattern.accepts_eq formed, goes, Option.isSome_some]⟩

private theorem found_settled :
    (store.candidates policy pattern).filterMap (pattern.matched (some context)) =
      List.replicate (store.matchCount policy pattern context) context := by
  refine List.eq_replicate_iff.mpr ⟨?_, ?_⟩
  · rw [List.length_filterMap_eq_countP, matchCount, funext (pattern.accepts_eq formed context)]
  · intro next member
    obtain ⟨fact, _, goes⟩ := List.mem_filterMap.mp member
    obtain ⟨chosen, _, settles⟩ := settled
    -- Which terms stand for something does not depend on the fact that they meet.
    have known := settles.known context _
    rw [pattern.terms_of_meetings, ← pattern.terms_of_meetings fact] at known
    exact Bindings.meet_denoted context next _ known goes

end Settled

section Reflexive

variable (reflexive : ∀ fact ∈ store.facts, ∀ field, (fact.get field).equals (fact.get field) = true)

include reflexive

private theorem settled_matched (fact : Fact) (candidate : fact ∈ store.candidates policy pattern) (next : Bindings)
    (goes : pattern.matched (some context) fact = some next) :
    context.Within next ∧ store.Settled policy pattern next := by
  have stored := mem_facts_of_candidates store policy pattern fact candidate
  obtain ⟨within, settles⟩ := Bindings.meet_settles context next _
    (pattern.same_of_meetings fact (reflexive fact stored)) goes
  exact ⟨within, fact, candidate, settles⟩

private theorem join_settled (verbose : Bool) (body : List Pattern) (formed : ∀ pattern ∈ body, pattern.Formed) :
    ∃ contexts, (store.join verbose policy body).result = .ok contexts ∧
      ∀ context ∈ contexts, ∀ pattern ∈ body, store.Settled policy pattern context := by
  refine join_invariant store policy verbose
    (fun earlier context => ∀ pattern ∈ earlier, store.Settled policy pattern context) (by simp) ?_ body formed
  intro earlier pattern context fact next before candidate goes other member
  obtain ⟨within, settled⟩ := settled_matched store policy pattern context reflexive fact candidate next goes
  rcases List.mem_append.mp member with member | member
  · exact (before other member).within within
  · exact List.mem_singleton.mp member ▸ settled

/-- Where every stored field equals itself, a pattern that is given once more only repeats the contexts of a join:
each stays as it is, and stands once for each candidate of the pattern that matches under it, of which there is at
least one. -/
theorem join_repeated (body : List Pattern) (formed : ∀ pattern ∈ body, pattern.Formed) (member : pattern ∈ body)
    (verbose : Bool) :
    ∃ contexts : List Bindings, (store.join verbose policy body).result = .ok contexts ∧
      (store.join verbose policy (body ++ [pattern])).result =
        .ok (contexts.flatMap fun context =>
          List.replicate (store.matchCount policy pattern context) context) ∧
      ∀ context ∈ contexts, 1 ≤ store.matchCount policy pattern context := by
  obtain ⟨contexts, joined, settled⟩ := join_settled store policy reflexive verbose body formed
  have formed' : ∀ other ∈ body ++ [pattern], other.Formed :=
    List.forall_mem_append.mpr ⟨formed, List.forall_mem_singleton.mpr (formed pattern member)⟩
  refine ⟨contexts, joined, ?_, fun context inside =>
    matchCount_pos store policy pattern context (formed pattern member) (settled context inside pattern member)⟩
  rw [join, joinFrom_found store policy verbose body formed, Except.ok.injEq] at joined
  rw [join, joinFrom_found store policy verbose _ formed', advanceAll_concat, joined, advance,
    List.flatMap_congr fun context inside => found_settled store policy pattern context
      (formed pattern member) (settled context inside pattern member)]

end Reflexive

end Store

def Store.plainOnes : Store := .ofFacts (Store.ones.facts.filter fun fact => fact.entity.equals fact.entity)

private theorem Store.plainOnes_reflexive :
    ∀ fact ∈ Store.plainOnes.facts, ∀ field, (fact.get field).equals (fact.get field) = true := by
  have each : ∀ fact ∈ Store.plainOnes.facts, ∀ field ∈ Field.all,
      (fact.get field).equals (fact.get field) = true := by decide
  exact fun fact member field => each fact member field (by cases field <;> simp [Field.all])

theorem Store.join_repeated_ones :
    (∀ fact ∈ plainOnes.facts, ∀ field, (fact.get field).equals (fact.get field) = true) ∧
      ∃ contexts : List Bindings, (plainOnes.join false .selective [.ofAnything]).result = .ok contexts ∧
        (plainOnes.join false .selective [.ofAnything, .ofAnything]).result =
          .ok (contexts.flatMap fun context =>
            List.replicate (plainOnes.matchCount .selective .ofAnything context) context) ∧
        contexts.map (plainOnes.matchCount .selective .ofAnything) = [1, 2, 2] := by
  obtain ⟨contexts, joined, repeated, _⟩ := join_repeated plainOnes .selective .ofAnything plainOnes_reflexive
    [.ofAnything] Pattern.ofAnything_formed (List.mem_singleton_self _) false
  refine ⟨plainOnes_reflexive, contexts, joined, repeated, ?_⟩
  obtain rfl := Except.ok.inj (joined.symm.trans rfl)
  rfl

end TripleQuery
