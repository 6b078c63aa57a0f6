import TripleQuery.Proofs.Query
import Mathlib.Data.List.Flatten
import Mathlib.Data.List.Perm.Basic

/-!
What answers owe to the facts that are stored. Choices are made of the stored facts in their order, and each is
answered by itself. So a store with more facts, wherever they were put in, keeps the old answers in their order;
and facts that are loaded in another order lead to the same answers in another order.
-/

namespace TripleQuery

namespace Store

/-- What a join finds: all answers, or none where the policy goes by a literal that cannot be a key. Which of the
two is known from the patterns alone, so it is the same for every store. -/
def found (store : Store) (policy : IndexPolicy) (body : List Pattern) : List Bindings :=
  if body.all (fun pattern => pattern.readable policy) = true then store.answers body else []

private theorem choices_sublist (fewer more : Store) (within : fewer.facts.Sublist more.facts) (body : List Pattern) :
    (fewer.choices body).Sublist (more.choices body) := by
  induction body with
  | nil => exact .refl _
  | cons pattern rest ih =>
    have inner : (fewer.choices (pattern :: rest)).Sublist
        (fewer.facts.flatMap fun fact => (more.choices rest).map ((pattern, fact) :: ·)) :=
      .flatMap_right fewer.facts fun fact _ => ih.map _
    exact inner.trans (within.flatMap _)

private theorem found_sublist (fewer more : Store) (within : fewer.facts.Sublist more.facts) (policy : IndexPolicy)
    (body : List Pattern) : (fewer.found policy body).Sublist (more.found policy body) := by
  unfold found
  split
  · exact ((choices_sublist fewer more within body).filter _).map _
  · exact .refl _

private theorem choices_reordered (first second : Store) (permuted : first.facts.Perm second.facts)
    (body : List Pattern) : (first.choices body).Perm (second.choices body) := by
  induction body with
  | nil => exact .refl _
  | cons pattern rest ih => exact permuted.flatMap fun fact _ => ih.map _

private theorem found_reordered (first second : Store) (permuted : first.facts.Perm second.facts) (policy : IndexPolicy)
    (body : List Pattern) : (first.found policy body).Perm (second.found policy body) := by
  unfold found
  split
  · exact ((choices_reordered first second permuted body).filter _).map _
  · exact .refl _

end Store

namespace Query

variable (verbose : Bool) (policy : IndexPolicy) (body : List Pattern)
  (formed : ∀ pattern ∈ body, pattern.Formed) (sound : ∀ pattern ∈ body, pattern.WellFormed)

include formed sound

/-- More facts never take an answer away, change it or move it past another: the contexts of a join are among
those over the larger store, in the same order, and so are the rows of every query. -/
theorem run_sublist (fewer more : Store) (within : fewer.facts.Sublist more.facts) :
    ∃ contexts contexts' : List Bindings,
      (fewer.join verbose policy body).result = .ok contexts ∧
      (more.join verbose policy body).result = .ok contexts' ∧
      contexts.Sublist contexts' ∧
      ∀ find : List Term, ∃ rows rows' : List Row,
        (run verbose ⟨find, body⟩ fewer ⟨policy, .absent⟩).result = .ok rows ∧
        (run verbose ⟨find, body⟩ more ⟨policy, .absent⟩).result = .ok rows' ∧
        rows.Sublist rows' := by
  have kept := fewer.found_sublist more within policy body
  refine ⟨_, _, fewer.join_result policy verbose body formed sound,
    more.join_result policy verbose body formed sound, kept, fun find => ?_⟩
  exact ⟨_, _, run_absent verbose ⟨find, body⟩ fewer policy formed sound,
    run_absent verbose ⟨find, body⟩ more policy formed sound, kept.map _⟩

/-- The order in which facts are loaded does not change the answers: rows in another order make a store too, and
over it a join has the same contexts, each as often, and every query the same rows. -/
theorem run_reordered (facts other : List Value) (permuted : facts.Perm other) (store : Store)
    (loaded : Store.ofRows facts = .ok store) :
    ∃ (store' : Store) (contexts contexts' : List Bindings),
      Store.ofRows other = .ok store' ∧
      (store.join verbose policy body).result = .ok contexts ∧
      (store'.join verbose policy body).result = .ok contexts' ∧
      contexts.Perm contexts' ∧
      ∀ find : List Term, ∃ rows rows' : List Row,
        (run verbose ⟨find, body⟩ store ⟨policy, .absent⟩).result = .ok rows ∧
        (run verbose ⟨find, body⟩ store' ⟨policy, .absent⟩).result = .ok rows' ∧
        rows.Perm rows' := by
  obtain ⟨store', loaded', moved⟩ := Store.ofRows_reordered facts other store permuted loaded
  have kept := store.found_reordered store' moved policy body
  refine ⟨store', _, _, loaded', store.join_result policy verbose body formed sound,
    store'.join_result policy verbose body formed sound, kept, fun find => ?_⟩
  exact ⟨_, _, run_absent verbose ⟨find, body⟩ store policy formed sound,
    run_absent verbose ⟨find, body⟩ store' policy formed sound, kept.map _⟩

end Query

private theorem Pattern.ofAnything_wellFormed : ∀ pattern ∈ [ofAnything], pattern.WellFormed :=
  List.forall_mem_singleton.mpr fun field literal holds =>
    (ofAnything.literal_of_scalars (by decide) field literal holds).2

def Store.lastOnes : Store := .ofFacts (Store.ones.facts.drop 2)

theorem Query.run_sublist_ones :
    Store.lastOnes.facts.Sublist Store.ones.facts ∧
      (∃ contexts contexts' : List Bindings,
        (Store.lastOnes.join false .selective [.ofAnything]).result = .ok contexts ∧
        (Store.ones.join false .selective [.ofAnything]).result = .ok contexts' ∧
        contexts.Sublist contexts') ∧
      (run false ⟨[.var .what], [.ofAnything]⟩ .lastOnes ⟨.selective, .absent⟩).result =
        .ok [[.text "none"], [.text "one"]] ∧
      (run false ⟨[.var .what], [.ofAnything]⟩ .ones ⟨.selective, .absent⟩).result =
        .ok [[.text "so"], [.text "one"], [.text "none"], [.text "one"]] := by
  have within : Store.lastOnes.facts.Sublist Store.ones.facts := List.drop_sublist 2 _
  obtain ⟨contexts, contexts', joined, joined', kept, _⟩ := run_sublist false .selective [.ofAnything]
    Pattern.ofAnything_formed Pattern.ofAnything_wellFormed .lastOnes .ones within
  exact ⟨within, ⟨contexts, contexts', joined, joined', kept⟩, rfl, rfl⟩

def Store.sharedRows : List Value :=
  [.tuple [.bool true, .text "is", .text "so"], .list [.int 1, .text "is", .text "one"],
    .tuple [.int 1, .text "is", .text "one"]]

theorem Query.run_reordered_shared :
    Store.sharedRows.Perm Store.sharedRows.reverse ∧
      ∃ (store store' : Store) (contexts contexts' : List Bindings),
        Store.ofRows Store.sharedRows = .ok store ∧
        Store.ofRows Store.sharedRows.reverse = .ok store' ∧
        (store.join false .fixed [.ofAnything]).result = .ok contexts ∧
        (store'.join false .fixed [.ofAnything]).result = .ok contexts' ∧
        contexts.Perm contexts' := by
  have permuted := (List.reverse_perm Store.sharedRows).symm
  obtain ⟨store, loaded⟩ : ∃ store, Store.ofRows Store.sharedRows = .ok store := ⟨_, rfl⟩
  obtain ⟨store', contexts, contexts', loaded', joined, joined', moved, _⟩ := run_reordered false .fixed
    [.ofAnything] Pattern.ofAnything_formed Pattern.ofAnything_wellFormed _ _ permuted store loaded
  exact ⟨permuted, store, store', contexts, contexts', loaded, loaded', joined, joined', moved⟩

end TripleQuery
