import TripleQuery.Join
import TripleQuery.Proofs.Matching
import TripleQuery.Proofs.Store.Grouping

/-!
Search through an index. Whatever bucket the policy picks, a search finds what matching every fact of the store
finds, in stored order, as long as the literals it goes by can be keys; where they cannot, it finds nothing.
-/

namespace TripleQuery

namespace Pattern

/-- The literals that a policy goes by can all be keys. -/
def readable (pattern : Pattern) : IndexPolicy → Bool
  | .fixed => pattern.literals.head?.all fun literal => literal.2.hashable
  | .selective => pattern.literals.all fun literal => literal.2.hashable

theorem readable_of_hashable (pattern : Pattern) (policy : IndexPolicy)
    (hashable : ∀ field literal, pattern.literal? field = some literal → literal.hashable = true) :
    pattern.readable policy = true := by
  have each (literal : Field × Value) (member : literal ∈ pattern.literals) : literal.2.hashable = true :=
    hashable literal.1 literal.2 ((pattern.mem_literals _ _).mp member)
  cases policy with
  | fixed =>
    cases first : pattern.literals.head? with
    | none => simp [readable, first]
    | some literal => simp [readable, first, each literal (List.mem_of_head? first)]
  | selective => exact List.all_eq_true.mpr each

theorem literal_of_scalars (pattern : Pattern)
    (scalars : (pattern.literals.all fun literal => literal.2.isScalar) = true) (field : Field)
    (literal : Value) (holds : pattern.literal? field = some literal) :
    literal.hashable = true ∧ literal.WellFormed := by
  have scalar : literal.isScalar = true :=
    List.all_eq_true.mp scalars (field, literal) ((pattern.mem_literals field literal).mpr holds)
  refine ⟨?_, literal.wellFormed_of_isScalar scalar⟩
  cases literal <;> first | rfl | simp [Value.isScalar] at scalar

end Pattern

namespace Store

variable (store : Store) (policy : IndexPolicy) (pattern : Pattern)

private theorem foldl_least {α : Type} (size : α → Nat) (first : α) (rest : List α) :
    let least := rest.foldl (fun best next => if size next < size best then next else best) first
    least ∈ first :: rest ∧ ∀ item ∈ first :: rest, size least ≤ size item := by
  induction rest generalizing first with
  | nil => simp
  | cons next rest ih =>
    rw [List.foldl_cons]
    by_cases smaller : size next < size first
    · obtain ⟨member, least⟩ := ih next
      rw [if_pos smaller]
      refine ⟨List.mem_cons_of_mem first member, ?_⟩
      intro item inside
      rcases List.mem_cons.mp inside with rfl | inside
      · exact Nat.le_trans (least next (by simp)) (Nat.le_of_lt smaller)
      · exact least item inside
    · obtain ⟨member, least⟩ := ih first
      rw [if_neg smaller]
      refine ⟨?_, ?_⟩
      · rcases List.mem_cons.mp member with same | member
        · rw [same]
          exact List.mem_cons_self
        · simp [member]
      · intro item inside
        rcases List.mem_cons.mp inside with rfl | inside
        · exact least item (by simp)
        · rcases List.mem_cons.mp inside with rfl | inside
          · exact Nat.le_trans (least first (by simp)) (Nat.le_of_not_lt smaller)
          · exact least item (by simp [inside])

private theorem leastLiteral?_least (literals : List (Field × Value)) (least : Field × Value)
    (chosen : store.leastLiteral? literals = some least) :
    least ∈ literals ∧ ∀ literal ∈ literals,
      (store.bucket least.1 least.2).length ≤ (store.bucket literal.1 literal.2).length := by
  cases literals with
  | nil => simp [leastLiteral?] at chosen
  | cons first rest =>
    cases chosen
    exact foldl_least (fun literal => (store.bucket literal.1 literal.2).length) first rest

private theorem chosenLiteral?_mem (literal : Field × Value)
    (chosen : store.chosenLiteral? policy pattern = some literal) : literal ∈ pattern.literals := by
  cases policy with
  | fixed => exact List.mem_of_head? chosen
  | selective => exact (leastLiteral?_least store _ _ chosen).1

private theorem chosenLiteral?_isSome (literal : Field × Value) (member : literal ∈ pattern.literals) :
    (store.chosenLiteral? policy pattern).isSome = true := by
  unfold chosenLiteral?
  cases literals : pattern.literals with
  | nil => simp [literals] at member
  | cons first rest => cases policy <;> rfl

/-- A literal that cannot be a key leaves nothing to match: under the fixed policy when it is the first, and
under the selective one in any place, since no bucket is smaller than its empty one. -/
theorem candidates_of_unreadable (unreadable : pattern.readable policy = false) :
    store.candidates policy pattern = [] := by
  cases policy with
  | fixed =>
    cases first : pattern.literals.head? with
    | none => simp [Pattern.readable, first] at unreadable
    | some literal =>
      simp only [Pattern.readable, first, Option.all_some] at unreadable
      simp only [candidates, chosenLiteral?, first]
      exact bucket_of_unhashable store literal.1 literal.2 unreadable
  | selective =>
    obtain ⟨literal, member, unhashable⟩ := List.all_eq_false.mp unreadable
    have empty := bucket_of_unhashable store literal.1 literal.2 (by simpa using unhashable)
    obtain ⟨least, chosen⟩ := Option.isSome_iff_exists.mp
      (chosenLiteral?_isSome store .selective pattern literal member)
    have bound := (leastLiteral?_least store pattern.literals least chosen).2 literal member
    simp only [candidates, chosen]
    rw [empty] at bound
    exact List.length_eq_zero_iff.mp (Nat.le_zero.mp bound)

theorem filterMap_candidates (readable : pattern.readable policy = true) (sound : pattern.WellFormed)
    (context : Option Bindings) :
    (store.candidates policy pattern).filterMap (pattern.matched context) =
      store.facts.filterMap (pattern.matched context) := by
  unfold candidates
  cases chosen : store.chosenLiteral? policy pattern with
  | none => rfl
  | some literal =>
    obtain ⟨field, key⟩ := literal
    have member := chosenLiteral?_mem store policy pattern _ chosen
    have holds := (pattern.mem_literals field key).mp member
    have hashable : key.hashable = true := by
      cases policy with
      | fixed =>
        have first : pattern.literals.head? = some (field, key) := chosen
        simpa [Pattern.readable, first] using readable
      | selective => exact List.all_eq_true.mp readable _ member
    exact filterMap_bucket store field key _ hashable (sound field key holds) fun fact goes =>
      Value.equals_of_same _ _ (pattern.same_of_matched context fact goes field key holds)

theorem select_result (verbose : Bool) (formed : pattern.Formed) :
    (store.select verbose policy pattern).result = .ok (store.candidates policy pattern) := by
  obtain ⟨parts, written⟩ := pattern.parts_eq formed
  cases verbose with
  | false => rfl
  | true =>
    simp only [select, if_true, Outcome.result_bind, written]
    rfl

theorem search_found (verbose : Bool) (formed : pattern.Formed) (context : Option Bindings) :
    (store.search verbose policy pattern context).result =
      .ok ((store.candidates policy pattern).filterMap (pattern.matched context)) := by
  simp only [search, Outcome.result_bind, select_result store policy pattern verbose formed,
    pattern.matchFacts_eq formed]
  rfl

theorem search_result (verbose : Bool) (formed : pattern.Formed) (sound : pattern.WellFormed)
    (context : Option Bindings) :
    (store.search verbose policy pattern context).result =
      .ok (if pattern.readable policy = true then store.facts.filterMap (pattern.matched context) else []) := by
  rw [search_found store policy pattern verbose formed]
  by_cases readable : pattern.readable policy = true
  · rw [if_pos readable, filterMap_candidates store policy pattern readable sound]
  · rw [if_neg readable, candidates_of_unreadable store policy pattern (by simpa using readable),
      List.filterMap_nil]

/-- A search through an index is the plain scan of the store: the bucket drops no match, adds none and keeps
their order. Matching never fails on the way. -/
theorem search_eq_scan (verbose : Bool) (formed : pattern.Formed)
    (literals : ∀ field literal, pattern.literal? field = some literal →
      literal.hashable = true ∧ literal.WellFormed) (context : Option Bindings) :
    ∃ found : Fact → Option Bindings,
      (∀ fact, pattern.matchFact fact context = .ok (found fact)) ∧
        (store.search verbose policy pattern context).result = .ok (store.facts.filterMap found) := by
  have readable : pattern.readable policy = true :=
    pattern.readable_of_hashable policy fun field literal holds => (literals field literal holds).1
  have sound : pattern.WellFormed := fun field literal holds => (literals field literal holds).2
  refine ⟨pattern.matched context, pattern.matchFact_eq formed context, ?_⟩
  rw [search_result store policy pattern verbose formed sound, if_pos readable]

end Store

def Variable.what : Variable := ⟨"?what", by decide, by decide⟩

def Pattern.ofOne : Pattern := .ofTerms (.const (.int 1)) (.const (.text "is")) (.var .what)

theorem Store.search_eq_scan_ones :
    ∃ found : Fact → Option Bindings,
      (∀ fact, Pattern.ofOne.matchFact fact (some .empty) = .ok (found fact)) ∧
        (Store.ones.search true .selective Pattern.ofOne (some .empty)).result =
          .ok (Store.ones.facts.filterMap found) ∧
        (Store.ones.search true .selective Pattern.ofOne (some .empty)).result =
          .ok [⟨[(.text "?what", .text "one")]⟩, ⟨[(.text "?what", .text "one")]⟩] := by
  obtain ⟨found, matched, scanned⟩ := search_eq_scan Store.ones .selective Pattern.ofOne true
    (Pattern.ofTerms_formed _ _ _) (Pattern.ofOne.literal_of_scalars (by decide)) (some .empty)
  exact ⟨found, matched, scanned, rfl⟩

end TripleQuery
