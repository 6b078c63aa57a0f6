import TripleQuery.Engine
import TripleQuery.Proofs.Store.Loading
import TripleQuery.Proofs.Text.Digits
import TripleQuery.Proofs.Value.Rendering

/-!
Which rows make a store, and what is said of those that do not. Rows are read from the first on, so the row that is
blamed is the first that holds no fact, whatever comes after it, and it is blamed for the first thing that is wrong
with it. What is wrong is shown in the message, and if it has no text, that is the failure instead. Rows that hold
facts always make a store: grouping facts by their fields cannot fail.
-/

namespace TripleQuery

namespace Value

/-- A row that holds a fact: no text or bytes, and three items that can all be keys. -/
def IsRow (raw : Value) : Prop :=
  raw.isString = false ∧ ∃ items, raw.items? = some items ∧ items.length = 3 ∧ ∀ item ∈ items, item.hashable = true

end Value

/-- What is wrong with a row, the first of four things, as a cause, in words and with the value to show. Of the
fields that cannot be keys it is the first that counts. -/
inductive RowFlaw (row : Nat) (raw : Value) : StoreError → String → Value → Prop
  | string (plain : raw.isString = true) :
    RowFlaw row raw (.textRow row raw) " must be a sequence, got string: " raw
  | noItems (plain : raw.isString = false) (none : raw.items? = none) :
    RowFlaw row raw (.rowWithoutItems row raw) " is not iterable: " raw
  | arity (plain : raw.isString = false) (items : List Value) (listed : raw.items? = some items)
    (wrong : items.length ≠ 3) :
    RowFlaw row raw (.rowArity row items) (" must have 3 fields, got " ++ toString items.length ++ ": ") (.tuple items)
  | unhashable (plain : raw.isString = false) (before after : List Value) (item : Value)
    (listed : raw.items? = some (before ++ item :: after)) (three : (before ++ item :: after).length = 3)
    (keys : ∀ key ∈ before, key.hashable = true) (bad : item.hashable = false) (field : Field)
    (placed : field.position = before.length) :
    RowFlaw row raw (.unhashable row field item) (" has unhashable " ++ field.name ++ ": ") item

namespace RowFlaw

variable {row : Nat} {raw : Value} {cause : StoreError} {words : String} {shown : Value}
  (flaw : RowFlaw row raw cause words shown)
include flaw

theorem message :
    cause.message = shown.render.map fun text => "Triple at row " ++ toString row ++ words ++ text := by
  cases flaw with
  | string | noItems => rfl
  | arity => simp only [StoreError.message, String.append_assoc]
  | unhashable => simp only [StoreError.message, String.append_assoc]

theorem raised :
    (∀ text, shown.render = .ok text → cause.raised = .store cause ∧
      (Error.store cause).message? = .ok (some ("Triple at row " ++ toString row ++ words ++ text))) ∧
    ∀ fault, shown.render = .error fault → cause.raised = .fault fault := by
  have message := flaw.message
  refine ⟨fun text written => ?_, fun fault failed => ?_⟩
  · have sentence : (Error.store cause).message? = .ok (some ("Triple at row " ++ toString row ++ words ++ text)) := by
      rw [Error.message?, message, written]
      rfl
    exact ⟨by rw [StoreError.raised, Error.raised, sentence], sentence⟩
  · rw [StoreError.raised, Error.raised, Error.message?, message, failed]
    rfl

end RowFlaw

namespace Fact

private theorem ofRow_isOk (row : Nat) (raw : Value) : (∃ fact, ofRow row raw = .ok fact) ↔ raw.IsRow := by
  simp only [ofRow_eq_ok]
  constructor
  · rintro ⟨fact, plain, listed⟩
    refine ⟨plain, fact.fields, listed, rfl, ?_⟩
    simp only [fields, List.forall_mem_cons, List.not_mem_nil, false_implies, implies_true, and_true]
    exact fact.keys
  · rintro ⟨plain, items, listed, three, keys⟩
    obtain ⟨entity, attr, value, rfl⟩ := List.length_eq_three.mp three
    simp only [List.forall_mem_cons, List.not_mem_nil, false_implies, implies_true, and_true] at keys
    exact ⟨⟨entity, attr, value, keys⟩, plain, listed⟩

private theorem ofFields_eq_error (row : Nat) (entity attr value : Value) (cause : StoreError) :
    ofFields row entity attr value = .error cause ↔
      ∃ before item after field, [entity, attr, value] = before ++ item :: after ∧
        (∀ key ∈ before, key.hashable = true) ∧ item.hashable = false ∧ field.position = before.length ∧
        cause = .unhashable row field item := by
  constructor
  · intro failed
    unfold ofFields at failed
    split at failed
    next entityKey =>
      split at failed
      next attrKey =>
        split at failed
        next => cases failed
        next valueBad =>
          cases failed
          exact ⟨[entity, attr], value, [], .value, rfl, by simp [entityKey, attrKey], by simpa using valueBad,
            rfl, rfl⟩
      next attrBad =>
        cases failed
        exact ⟨[entity], attr, [value], .attr, rfl, by simp [entityKey], by simpa using attrBad, rfl, rfl⟩
    next entityBad =>
      cases failed
      exact ⟨[], entity, [attr, value], .entity, rfl, by simp, by simpa using entityBad, rfl, rfl⟩
  · rintro ⟨before, item, after, field, same, keys, bad, placed, rfl⟩
    cases field with
    | entity =>
      obtain rfl := List.length_eq_zero_iff.mp placed.symm
      cases same
      simp [ofFields, bad]
    | attr =>
      obtain ⟨entity', rfl⟩ := List.length_eq_one_iff.mp placed.symm
      cases same
      simp [ofFields, keys entity, bad]
    | value =>
      obtain ⟨entity', attr', rfl⟩ := List.length_eq_two.mp placed.symm
      cases same
      simp [ofFields, keys entity, keys attr, bad]

section Reading

variable (row : Nat) (raw : Value)

private theorem ofRow_of_string (string : raw.isString = true) : ofRow row raw = .error (.textRow row raw) := by
  rw [ofRow, if_pos string]

variable (plain : raw.isString = false)

include plain

private theorem ofRow_of_noItems (none : raw.items? = none) : ofRow row raw = .error (.rowWithoutItems row raw) := by
  simp [ofRow, plain, none]

private theorem ofRow_of_arity (items : List Value) (listed : raw.items? = some items) (wrong : items.length ≠ 3) :
    ofRow row raw = .error (.rowArity row items) := by
  rcases items with _ | ⟨_, _ | ⟨_, _ | ⟨_, _ | _⟩⟩⟩ <;> simp_all [ofRow]

private theorem ofRow_of_three (entity attr value : Value) (listed : raw.items? = some [entity, attr, value]) :
    ofRow row raw = ofFields row entity attr value := by
  simp [ofRow, plain, listed]

end Reading

private theorem ofRow_eq_error (row : Nat) (raw : Value) (cause : StoreError) :
    ofRow row raw = .error cause ↔ ∃ words shown, RowFlaw row raw cause words shown := by
  constructor
  · intro failed
    cases string : raw.isString with
    | true =>
      cases (ofRow_of_string row raw string).symm.trans failed
      exact ⟨_, _, .string string⟩
    | false =>
      cases listed : raw.items? with
      | none =>
        cases (ofRow_of_noItems row raw string listed).symm.trans failed
        exact ⟨_, _, .noItems string listed⟩
      | some items =>
        by_cases three : items.length = 3
        · obtain ⟨entity, attr, value, rfl⟩ := List.length_eq_three.mp three
          rw [ofRow_of_three row raw string entity attr value listed, ofFields_eq_error] at failed
          obtain ⟨before, item, after, field, same, keys, bad, placed, rfl⟩ := failed
          rw [same] at listed three
          exact ⟨_, _, .unhashable string before after item listed three keys bad field placed⟩
        · cases (ofRow_of_arity row raw string items listed three).symm.trans failed
          exact ⟨_, _, .arity string items listed three⟩
  · rintro ⟨words, shown, flaw⟩
    cases flaw with
    | string string => exact ofRow_of_string row raw string
    | noItems plain none => exact ofRow_of_noItems row raw plain none
    | arity plain items listed wrong => exact ofRow_of_arity row raw plain items listed wrong
    | unhashable plain before after _ listed three keys bad field placed =>
      obtain ⟨entity, attr, value, same⟩ := List.length_eq_three.mp three
      rw [ofRow_of_three row raw plain entity attr value (same ▸ listed), ofFields_eq_error]
      exact ⟨before, shown, after, field, same.symm, keys, bad, placed, rfl⟩

private theorem ofRows_eq_error (row : Nat) (rows : List Value) (cause : StoreError) :
    ofRows row rows = .error cause ↔ ∃ before raw after, rows = before ++ raw :: after ∧
      (∀ other ∈ before, other.IsRow) ∧ ofRow (row + before.length) raw = .error cause := by
  induction rows generalizing row with
  | nil => simp [ofRows]
  | cons first rest ih =>
    have opened : ofRows row (first :: rest) = .error cause ↔
        ofRow row first = .error cause ∨ first.IsRow ∧ ofRows (row + 1) rest = .error cause := by
      simp only [ofRows, bind_eq_error, ← ofRow_isOk row, reduceCtorEq, and_false, exists_false, or_false,
        exists_and_right]
    rw [opened, ih]
    -- Either the prefix of good rows is empty, or it starts with the first row and the number moves on by one.
    constructor
    · rintro (failed | ⟨isRow, before, raw, after, rfl, rows, failed⟩)
      · exact ⟨[], first, rest, rfl, by simp, failed⟩
      · rw [Nat.add_right_comm] at failed
        exact ⟨first :: before, raw, after, rfl, List.forall_mem_cons.mpr ⟨isRow, rows⟩, failed⟩
    · rintro ⟨before, raw, after, split, rows, failed⟩
      cases before with
      | nil =>
        cases split
        exact .inl failed
      | cons other before =>
        cases split
        rw [List.length_cons, ← Nat.add_assoc, Nat.add_right_comm] at failed
        obtain ⟨isRow, others⟩ := List.forall_mem_cons.mp rows
        exact .inr ⟨isRow, before, raw, after, rfl, others, failed⟩

private theorem ofRows_isOk (row : Nat) (rows : List Value) :
    (∃ facts, ofRows row rows = .ok facts) ↔ ∀ raw ∈ rows, raw.IsRow := by
  constructor
  · rintro ⟨facts, read⟩ raw member
    obtain ⟨fact, _, here⟩ := forall₂_left_mem ((ofRows_eq_ok row rows facts).mp read) raw member
    exact (ofRow_isOk row raw).mp ⟨fact, (ofRow_eq_ok row raw fact).mpr here⟩
  · intro each
    cases read : ofRows row rows with
    | ok facts => exact ⟨facts, rfl⟩
    | error cause =>
      obtain ⟨before, raw, after, rfl, _, failed⟩ := (ofRows_eq_error row rows cause).mp read
      obtain ⟨fact, made⟩ := (ofRow_isOk (row + before.length) raw).mpr (each raw (by simp))
      rw [failed] at made
      cases made

theorem ofRows_verbatim (row : Nat) (rows : List Value) (facts : List Fact) :
    ofRows row rows = .ok facts ↔ (∀ raw ∈ rows, raw.isString = false) ∧
      rows.map Value.items? = facts.map fun fact => some fact.fields := by
  rw [ofRows_eq_ok, List.forall₂_and_left, ← List.forall₂_eq_eq_eq, List.forall₂_map_left_iff,
    List.forall₂_map_right_iff]

end Fact

namespace Store

private theorem ofFacts_facts (store : Store) : ofFacts store.facts = store := by
  obtain ⟨facts, entities, attrs, values, rfl, rfl, rfl⟩ := store
  rfl

theorem load_result (rows : List Value) :
    (load (.list rows)).result = ((Fact.ofRows 0 rows).map ofFacts).mapError StoreError.raised := by
  have opened : (load (.list rows)).result =
      ((ofRows rows).mapError StoreError.raised >>= fun store => .ok store) := by
    simp only [load, Value.items?, Outcome.result_bind]
    rfl
  rw [opened, ofRows]
  exact bind_pure _

theorem load_eq_ok (rows : List Value) (store : Store) :
    (load (.list rows)).result = .ok store ↔ Fact.ofRows 0 rows = .ok store.facts := by
  rw [load_result, mapError_eq_ok, map_eq_ok]
  constructor
  · rintro ⟨facts, read, rfl⟩
    exact read
  · exact fun read => ⟨store.facts, read, store.ofFacts_facts⟩

private theorem load_eq_error (rows : List Value) (error : Error) :
    (load (.list rows)).result = .error error ↔ ∃ cause, Fact.ofRows 0 rows = .error cause ∧ error = cause.raised := by
  rw [load_result]
  cases Fact.ofRows 0 rows <;> simp [Except.map, Except.mapError, eq_comm]

/-- Rows make a store exactly when each of them holds a fact, and the facts of the store are then what the rows hold,
as it stands and in their order. Otherwise the first row that holds none is blamed, with its number and for the first
thing that is wrong with it, unless what is to be shown of it has no text. -/
theorem load_exact (rows : List Value) :
    ((∃ store, (load (.list rows)).result = .ok store) ↔ ∀ raw ∈ rows, raw.IsRow) ∧
    (∀ store : Store, (load (.list rows)).result = .ok store ↔ (∀ raw ∈ rows, raw.isString = false) ∧
      rows.map Value.items? = store.facts.map fun fact => some fact.fields) ∧
    ∀ error, (load (.list rows)).result = .error error ↔ ∃ before raw after cause words shown,
      rows = before ++ raw :: after ∧ (∀ other ∈ before, other.IsRow) ∧
      RowFlaw before.length raw cause words shown ∧
      (shown.Everywhere Value.IsWritable → ∃ text, shown.render = .ok text ∧ error = .store cause ∧
        error.message? = .ok (some ("Triple at row " ++ toString before.length ++ words ++ text))) ∧
      (¬shown.Everywhere Value.IsWritable → error = .fault .numeralTooLong) := by
  refine ⟨?_, fun store => ?_, fun error => ?_⟩
  · rw [← Fact.ofRows_isOk 0]
    constructor
    · rintro ⟨store, loaded⟩
      exact ⟨store.facts, (load_eq_ok rows store).mp loaded⟩
    · rintro ⟨facts, read⟩
      exact ⟨ofFacts facts, (load_eq_ok rows (ofFacts facts)).mpr read⟩
  · rw [load_eq_ok, Fact.ofRows_verbatim]
  · simp only [load_eq_error, Fact.ofRows_eq_error, Nat.zero_add, Fact.ofRow_eq_error]
    constructor
    · rintro ⟨cause, ⟨before, raw, after, split, others, words, shown, flaw⟩, rfl⟩
      refine ⟨before, raw, after, cause, words, shown, split, others, flaw, fun writable => ?_, fun long => ?_⟩
      · obtain ⟨text, written⟩ := shown.render_written.1 writable
        obtain ⟨plain, message⟩ := flaw.raised.1 text written
        exact ⟨text, written, plain, plain ▸ message⟩
      · exact flaw.raised.2 _ (shown.render_written.2 long)
    · rintro ⟨before, raw, after, cause, words, shown, split, others, flaw, plain, failed⟩
      refine ⟨cause, ⟨before, raw, after, split, others, words, shown, flaw⟩, ?_⟩
      by_cases writable : shown.Everywhere Value.IsWritable
      · obtain ⟨text, written, same, _⟩ := plain writable
        rw [same, (flaw.raised.1 text written).1]
      · rw [failed writable, flaw.raised.2 _ (shown.render_written.2 writable)]

def twoRows : List Value := [.pattern ⟨.int 1, .text "is", .tuple []⟩, .tuple [.int 1, .text "is", .tuple []]]

def badRows : List Value := twoRows ++ [.list [.int 1, .dict [], .tuple [.list []]], .text "abc"]

theorem load_exact_badRows :
    (∀ raw ∈ twoRows, raw.IsRow) ∧ (∃ store, (load (.list twoRows)).result = .ok store ∧
      store.facts.map Fact.fields = [[.int 1, .text "is", .tuple []], [.int 1, .text "is", .tuple []]]) ∧
    (load (.list badRows)).result = .error (.store (.unhashable 2 .attr (.dict []))) ∧
      (StoreError.unhashable 2 .attr (.dict [])).message =
        .ok "Triple at row 2 has unhashable attribute: \x7b\x7d" := by
  have rows : ∀ raw ∈ twoRows, raw.IsRow := by
    simp only [twoRows, List.forall_mem_cons, List.not_mem_nil, false_implies, implies_true, and_true]
    exact ⟨⟨rfl, _, rfl, rfl, by decide⟩, rfl, _, rfl, rfl, by decide⟩
  obtain ⟨store, loaded⟩ := (load_exact twoRows).1.mpr rows
  have verbatim := (((load_exact twoRows).2.1 store).mp loaded).2
  have flaw : RowFlaw 2 (.list [.int 1, .dict [], .tuple [.list []]]) (.unhashable 2 .attr (.dict [])) _ _ :=
    .unhashable rfl [.int 1] [.tuple [.list []]] (.dict []) rfl rfl (by simp [Value.hashable]) rfl .attr rfl
  have blamed := ((load_exact badRows).2.2 (.store (.unhashable 2 .attr (.dict [])))).mpr
    ⟨twoRows, _, [.text "abc"], _, _, _, rfl, rows, flaw, fun _ => ⟨_, rfl, rfl, (flaw.raised.1 _ rfl).2⟩,
      fun long => absurd ((Value.everywhere_dict _ [] nofun).mpr nofun) long⟩
  refine ⟨rows, ⟨store, loaded, ?_⟩, blamed, flaw.message.trans (congrArg Except.ok (by decide +kernel))⟩
  apply List.map_injective_iff.mpr fun _ _ => Option.some.inj
  rw [List.map_map]
  exact verbatim.symm

private theorem load_longInt (n : Int) (long : Text.mostDigits < (Nat.toDigits 10 n.natAbs).length) :
    (load (.list [.int n])).result = .error (.fault .numeralTooLong) := by
  have flaw : RowFlaw 0 (.int n) (.rowWithoutItems 0 (.int n)) _ (.int n) := .noItems rfl rfl
  have noText : (Value.int n).render = .error .numeralTooLong :=
    (Value.int n).render_written.2 fun writable => absurd (writable.here n rfl) (Nat.not_le.mpr long)
  rw [load_eq_error]
  exact ⟨_, rfl, (flaw.raised.2 _ noText).symm⟩

/-- An integer is no row, and one of so many digits cannot be shown either. -/
theorem load_longRow : (load (.list [.int (10 ^ 4300)])).result = .error (.fault .numeralTooLong) := by
  refine load_longInt _ ?_
  rw [Text.length_toDigits_pow]
  decide

end Store

end TripleQuery
