import TripleQuery.Proofs.Store.Lookup
import TripleQuery.Proofs.Store.Loading
import Mathlib.Data.List.FinRange
import Mathlib.Data.List.Nodup
import Mathlib.Data.List.Pairwise

/-!
How an index divides the facts of its store. The first fact of a bucket takes in all later facts that its field
equals, so grouping needs no law of equality. Since equality is symmetric and transitive on well-formed values, the
buckets are then the classes of facts with equal fields; a field that does not equal itself is alone in its bucket.
-/

namespace TripleQuery

section Groups

variable {α β : Type} (alike : α → α → Bool)

def unlike (first : α) (items : List α) : List α := items.filter fun item => !alike first item

/-- Items in groups: the first item with all later ones that it is like, then the groups of the others. -/
def groups : List α → List (List α)
  | [] => []
  | first :: rest => (first :: rest.filter (alike first)) :: groups (unlike alike first rest)
termination_by items => items.length
decreasing_by exact Nat.lt_succ_of_le (List.length_filter_le _ _)

private theorem groups_map (place : β → α) (items : List β) :
    groups alike (items.map place) =
      (groups (fun left right => alike (place left) (place right)) items).map (List.map place) := by
  induction items using groups.induct fun left right => alike (place left) (place right) with
  | case1 => simp [groups]
  | case2 first rest ih =>
    rw [List.map_cons, groups, groups, List.map_cons, ← ih]
    simp [unlike, List.filter_map, Function.comp_def]

private theorem groups_perm (items : List α) : (groups alike items).flatten.Perm items := by
  induction items using groups.induct alike with
  | case1 => simp [groups]
  | case2 first rest ih =>
    rw [groups, List.flatten_cons, List.cons_append]
    exact ((ih.append_left _).trans (List.filter_append_perm (alike first) rest)).cons first

private theorem groups_sublist (items group : List α) (member : group ∈ groups alike items) : group.Sublist items := by
  induction items using groups.induct alike with
  | case1 => simp [groups] at member
  | case2 first rest ih =>
    rw [groups] at member
    rcases List.mem_cons.mp member with rfl | member
    · exact List.filter_sublist.cons_cons first
    · exact ((ih member).trans List.filter_sublist).cons first

private theorem groups_pairwise (before : α → α → Prop) (items : List α) (ordered : items.Pairwise before) :
    (groups alike items).Pairwise fun earlier later =>
      ∃ first ∈ earlier.head?, ∀ item ∈ later, before first item ∧ alike first item = false := by
  induction items using groups.induct alike with
  | case1 => simp [groups]
  | case2 first rest ih =>
    obtain ⟨leads, ordered⟩ := List.pairwise_cons.mp ordered
    rw [groups]
    refine .cons ?_ (ih (ordered.sublist List.filter_sublist))
    intro later member
    refine ⟨first, rfl, fun item inside => ?_⟩
    have left := (groups_sublist alike _ later member).subset inside
    obtain ⟨stored, apart⟩ := List.mem_filter.mp left
    exact ⟨leads item stored, by simpa using apart⟩

private theorem groups_led (items group : List α) (member : group ∈ groups alike items) :
    ∃ first rest, group = first :: rest ∧ ∀ item ∈ rest, alike first item = true := by
  induction items using groups.induct alike with
  | case1 => simp [groups] at member
  | case2 first rest ih =>
    rw [groups] at member
    rcases List.mem_cons.mp member with rfl | member
    · exact ⟨first, _, rfl, fun item inside => (List.mem_filter.mp inside).2⟩
    · exact ih member

def GroupsApart (group other : List α) : Prop :=
  ∀ left ∈ group, ∀ right ∈ other, alike left right = false ∧ alike right left = false

instance : Std.Symm (GroupsApart alike) :=
  ⟨fun _ _ apart left here right there => (apart right there left here).symm⟩

section Laws

variable (items : List α)
  (symmetric : ∀ left ∈ items, ∀ right, alike left right = true → alike right left = true)
  (transitive : ∀ left middle right, alike left middle = true → alike middle right = true →
    alike left right = true)

include symmetric transitive

private theorem groups_alike (group : List α) (member : group ∈ groups alike items) (left right : α)
    (leftInside : left ∈ group) (rightInside : right ∈ group) (different : left ≠ right) :
    alike left right = true := by
  obtain ⟨first, rest, rfl, reached⟩ := groups_led alike items group member
  have back (item : α) (inside : item ∈ rest) : alike item first = true :=
    symmetric first ((groups_sublist alike items _ member).subset List.mem_cons_self) item (reached item inside)
  rcases List.mem_cons.mp leftInside with rfl | leftInside
  · rcases List.mem_cons.mp rightInside with rfl | rightInside
    · exact absurd rfl different
    · exact reached right rightInside
  · have leftBack := back left leftInside
    rcases List.mem_cons.mp rightInside with rfl | rightInside
    · exact leftBack
    · exact transitive left first right leftBack (reached right rightInside)

private theorem groups_apart : (groups alike items).Pairwise (GroupsApart alike) := by
  have ordered := groups_pairwise alike (fun _ _ => True) items (List.pairwise_of_forall fun _ _ => trivial)
  apply List.Pairwise.imp_of_mem _ ordered
  rintro group other member member' ⟨first, leads, missed⟩ left leftInside right rightInside
  obtain ⟨_, rest, rfl, reached⟩ := groups_led alike items group member
  cases leads
  have forward : alike left right = false := by
    apply Bool.eq_false_iff.mpr
    intro near
    have missed := (missed right rightInside).2
    rcases List.mem_cons.mp leftInside with rfl | leftInside
    · simp [missed] at near
    · simp [transitive first left right (reached left leftInside) near] at missed
  refine ⟨forward, Bool.eq_false_iff.mpr fun near => ?_⟩
  have stored := (groups_sublist alike items other member').subset rightInside
  simp [symmetric right stored left near] at forward

private theorem groups_together (left right : α) (leftInside : left ∈ items) (rightInside : right ∈ items)
    (different : left ≠ right) :
    (∃ group ∈ groups alike items, left ∈ group ∧ right ∈ group) ↔ alike left right = true := by
  constructor
  · rintro ⟨group, member, here, there⟩
    exact groups_alike alike items symmetric transitive group member left right here there different
  · intro near
    have placed (item : α) (inside : item ∈ items) : ∃ group ∈ groups alike items, item ∈ group :=
      List.mem_flatten.mp ((groups_perm alike items).mem_iff.mpr inside)
    obtain ⟨group, member, here⟩ := placed left leftInside
    obtain ⟨other, member', there⟩ := placed right rightInside
    by_cases same : group = other
    · exact ⟨group, member, here, same ▸ there⟩
    · have apart := (groups_apart alike items symmetric transitive).forall member member' same
      simp [(apart left here right there).1] at near

end Laws

end Groups

namespace Index

variable (field : Field)

def alike (left right : Fact) : Bool := Fact.fits field (left.get field) right

private theorem contents_ofFacts (facts : List Fact) :
    (ofFacts field facts).map Bucket.facts = groups (alike field) facts := by
  induction facts using groups.induct (alike field) with
  | case1 => simp [groups, ofFacts]
  | case2 first rest ih =>
    rw [ofFacts_cons, List.map_cons, groups, ← ih]
    rfl

theorem keyed_ofFacts (facts : List Fact) :
    ∀ bucket ∈ ofFacts field facts, ∃ first rest, bucket.facts = first :: rest ∧ bucket.key = first.get field := by
  induction facts using groups.induct (alike field) with
  | case1 => simp [ofFacts]
  | case2 first rest ih =>
    rw [ofFacts_cons]
    exact List.forall_mem_cons.mpr ⟨⟨first, _, rfl, rfl⟩, ih⟩

theorem held_ofFacts (facts : List Fact) (bucket : Bucket) (member : bucket ∈ ofFacts field facts) (fact : Fact)
    (held : fact ∈ bucket.facts) :
    fact ∈ facts ∧ (fact.get field = bucket.key ∨ bucket.key.equals (fact.get field) = true) := by
  have listed : bucket.facts ∈ groups (alike field) facts :=
    contents_ofFacts field facts ▸ List.mem_map_of_mem member
  obtain ⟨first, rest, contents, key⟩ := keyed_ofFacts field facts bucket member
  obtain ⟨first', rest', contents', near⟩ := groups_led (alike field) facts bucket.facts listed
  refine ⟨(groups_sublist (alike field) facts _ listed).subset held, ?_⟩
  cases contents.symm.trans contents'
  rw [contents] at held
  rw [key]
  rcases List.mem_cons.mp held with rfl | later
  · exact .inl rfl
  · exact .inr (near fact later)

/-- How an index over a field divides facts. Each cell holds the positions of the facts of one bucket, and the
cells stand in the order of the buckets. -/
structure Divides (index : Index) (facts : List Fact) (cells : List (List (Fin facts.length))) : Prop where
  contents : index.map Bucket.facts = cells.map (List.map facts.get)
  keyed : ∀ bucket ∈ index, ∃ first rest, bucket.facts = first :: rest ∧ bucket.key = first.get field
  apart : index.Pairwise fun left right => left.key.equals right.key = false ∧ right.key.equals left.key = false
  stored : ∀ cell ∈ cells, cell.Sublist (List.finRange facts.length)
  appearing : cells.Pairwise fun earlier later => ∃ first ∈ earlier, ∀ position ∈ later, first < position
  each : cells.flatten.Perm (List.finRange facts.length)
  together : ∀ left right, left ≠ right → ((∃ cell ∈ cells, left ∈ cell ∧ right ∈ cell) ↔
    ((facts.get left).get field).equals ((facts.get right).get field) = true)

private theorem ofFacts_divides (facts : List Fact) (sound : ∀ fact ∈ facts, fact.WellFormed) :
    ∃ cells, (ofFacts field facts).Divides field facts cells := by
  have symmetric (left : Fact) (stored : left ∈ facts) (right : Fact) (near : alike field left right = true) :
      alike field right left = true := Value.equals_symm _ _ (sound left stored field) near
  have transitive (left middle right : Fact) (first : alike field left middle = true)
      (second : alike field middle right = true) : alike field left right = true :=
    Value.equals_trans _ _ _ first second
  let near (left right : Fin facts.length) : Bool := alike field (facts.get left) (facts.get right)
  have placed : groups (alike field) facts = (groups near (List.finRange facts.length)).map (List.map facts.get) := by
    rw [← groups_map, List.map_get_finRange]
  have ordered := groups_pairwise near (· < ·) _ (List.pairwise_lt_finRange facts.length)
  refine ⟨groups near (List.finRange facts.length), ?_, ?_, ?_, ?_, ?_, ?_, ?_⟩
  · rw [contents_ofFacts, placed]
  · exact keyed_ofFacts field facts
  · have apart := groups_apart (alike field) facts symmetric transitive
    rw [← contents_ofFacts, List.pairwise_map] at apart
    apply List.Pairwise.imp_of_mem _ apart
    intro left right member member' separate
    obtain ⟨first, rest, facts, key⟩ := keyed_ofFacts field _ left member
    obtain ⟨first', rest', facts', key'⟩ := keyed_ofFacts field _ right member'
    rw [key, key']
    exact separate first (by simp [facts]) first' (by simp [facts'])
  · exact groups_sublist near _
  · refine ordered.imp ?_
    rintro earlier later ⟨first, leads, others⟩
    exact ⟨first, List.mem_of_mem_head? leads, fun position inside => (others position inside).1⟩
  · exact groups_perm near _
  · intro left right different
    exact groups_together near _ (fun left _ right => symmetric _ (List.get_mem _ _) _) (fun _ _ _ => transitive _ _ _)
      left right (List.mem_finRange _) (List.mem_finRange _) different

section Divided

variable {field} {index : Index} {facts : List Fact} {cells : List (List (Fin facts.length))}
  (divides : index.Divides field facts cells)

include divides

theorem Divides.perm : (index.flatMap Bucket.facts).Perm facts := by
  have joined : index.flatMap Bucket.facts = cells.flatten.map facts.get := by
    rw [List.flatMap_def, divides.contents, List.map_flatten]
  rw [joined]
  have moved := divides.each.map facts.get
  rwa [List.map_get_finRange] at moved

private theorem Divides.sublist (bucket : Bucket) (member : bucket ∈ index) : bucket.facts.Sublist facts := by
  have inside : bucket.facts ∈ cells.map (List.map facts.get) := divides.contents ▸ List.mem_map_of_mem member
  obtain ⟨cell, listed, contents⟩ := List.mem_map.mp inside
  have within := (divides.stored cell listed).map facts.get
  rwa [List.map_get_finRange, contents] at within

private theorem Divides.unique (position : Fin facts.length) :
    ∃! number : Fin cells.length, position ∈ cells[number] := by
  obtain ⟨_, disjoint⟩ := List.nodup_flatten.mp (divides.each.nodup_iff.mpr (List.nodup_finRange _))
  obtain ⟨cell, listed, inside⟩ := List.mem_flatten.mp (divides.each.mem_iff.mpr (List.mem_finRange position))
  obtain ⟨number, bound, rfl⟩ := List.mem_iff_getElem.mp listed
  refine ⟨⟨number, bound⟩, inside, ?_⟩
  intro other inside'
  rw [List.pairwise_iff_getElem] at disjoint
  apply Fin.ext
  rcases Nat.lt_trichotomy other.val number with less | same | more
  · exact absurd inside (disjoint _ _ other.isLt bound less inside')
  · exact same
  · exact absurd inside' (disjoint _ _ bound other.isLt more inside)

theorem Divides.alone (sound : ∀ fact ∈ facts, fact.WellFormed) (position : Fin facts.length)
    (odd : ((facts.get position).get field).equals ((facts.get position).get field) = false)
    (cell : List (Fin facts.length)) (member : cell ∈ cells) (inside : position ∈ cell) : cell = [position] := by
  have all (other : Fin facts.length) (inside' : other ∈ cell) : other = position := by
    by_contra different
    have near := (divides.together other position different).mp ⟨cell, member, inside', inside⟩
    have back := Value.equals_symm _ _ (sound _ (List.get_mem _ _) field) near
    exact Bool.eq_false_iff.mp odd (Value.equals_trans _ _ _ back near)
  have distinct := (List.nodup_finRange _).sublist (divides.stored cell member)
  match cell with
  | [] => simp at inside
  | [other] => rw [all other List.mem_cons_self]
  | first :: second :: rest =>
    have equal : first = second := (all first (by simp)).trans (all second (by simp)).symm
    simp [equal] at distinct

end Divided

end Index

namespace Store

/-- The index over a field divides the facts of a store: into buckets with keys apart, in the order in which the
keys appear, each fact in one of them, in stored order and together with those that have an equal field. -/
theorem index_divides (store : Store) (sound : store.WellFormed) (field : Field) :
    ∃ cells, (store.index field).Divides field store.facts cells ∧
      (∀ bucket ∈ store.index field, bucket.facts.Sublist store.facts) ∧
      ((store.index field).flatMap Bucket.facts).Perm store.facts ∧
      (∀ position, ∃! number : Fin cells.length, position ∈ cells[number]) ∧
      ∀ position : Fin store.facts.length,
        ((store.facts.get position).get field).equals ((store.facts.get position).get field) = false →
          ∀ cell ∈ cells, position ∈ cell → cell = [position] := by
  obtain ⟨cells, divides⟩ := Index.ofFacts_divides field store.facts sound
  rw [← store.index_eq] at divides
  exact ⟨cells, divides, divides.sublist, divides.perm, divides.unique, divides.alone sound⟩

end Store

/-- A truth value whose bucket an integer shares, a NaN, and the same fact twice. -/
def Store.ones : Store :=
  .ofFacts [⟨.bool true, .text "is", .text "so", by decide⟩, ⟨.int 1, .text "is", .text "one", by decide⟩,
    ⟨.float .nan, .text "is", .text "none", by decide⟩, ⟨.int 1, .text "is", .text "one", by decide⟩]

theorem Store.ones_wellFormed : Store.ones.WellFormed := by
  have scalars : ∀ fact ∈ Store.ones.facts, ∀ field ∈ Field.all, (fact.get field).isScalar = true := by decide
  intro fact member field
  exact Value.wellFormed_of_isScalar _ (scalars fact member field (by cases field <;> simp [Field.all]))

theorem Store.index_divides_ones :
    Store.ones.WellFormed ∧
      (∃ cells, (Store.ones.index .entity).Divides .entity Store.ones.facts cells ∧
        ∀ cell ∈ cells, ⟨2, by decide⟩ ∈ cell → cell = [⟨2, by decide⟩]) ∧
      (Store.ones.index .entity).map (fun bucket => (bucket.key, bucket.facts.length)) =
        [(.bool true, 3), (.float .nan, 1)] := by
  obtain ⟨cells, divides, _, _, _, alone⟩ := index_divides Store.ones Store.ones_wellFormed .entity
  exact ⟨Store.ones_wellFormed, ⟨cells, divides, alone ⟨2, by decide⟩ rfl⟩, rfl⟩

end TripleQuery
