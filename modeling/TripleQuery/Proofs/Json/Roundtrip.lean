import TripleQuery.Proofs.Except
import TripleQuery.Proofs.Json.Integers
import TripleQuery.Proofs.Json.Strings

/-!
Values that JSON has a form for are scalars, lists, and dictionaries under texts, nested no deeper than the reader
goes. Such a value is written exactly when its integers have text, and its text is read, as the value it was written
of, exactly when none of them is longer than the reader takes.
-/

namespace TripleQuery

/-- Read under this condition, as this value, and else refused. -/
def ReadIf {α : Type} (condition : Prop) (result : Option α) (value : α) : Prop :=
  (condition → result = some value) ∧ (¬condition → result = none)

namespace ReadIf

variable {α β : Type} {condition condition' : Prop}

theorem congr {result : Option α} {value : α} (read : ReadIf condition result value)
    (same : condition' ↔ condition) : ReadIf condition' result value := by
  rwa [same]

theorem always {result : Option α} {value : α} (read : result = some value) (holds : condition) :
    ReadIf condition result value :=
  ⟨fun _ => read, fun fails => absurd holds fails⟩

theorem bind {first : Option α} {value : α} {next : α → Option β} {value' : β} (read : ReadIf condition first value)
    (later : ReadIf condition' (next value) value') : ReadIf (condition ∧ condition') (first.bind next) value' := by
  by_cases holds : condition
  · rw [read.1 holds]
    exact later.congr (and_iff_right holds)
  · refine ⟨fun both => absurd both.1 holds, fun _ => ?_⟩
    rw [read.2 holds]
    rfl

theorem bind_some {first : Option α} {value : α} {next : α → Option β} {value' : β}
    (read : ReadIf condition first value) (later : next value = some value') :
    ReadIf condition (first.bind next) value' :=
  (read.bind (.always later trivial)).congr (and_iff_left trivial).symm

theorem map {result : Option α} {value : α} (read : ReadIf condition result value) (change : α → β) :
    ReadIf condition (result.map change) (change value) := by
  rw [Option.map_eq_bind]
  exact read.bind_some rfl

end ReadIf

namespace Json

section Scalars

private theorem readScalar_of_other (c : Char) (rest : List Char) (null : c ≠ 'n') (yes : c ≠ 't') (no : c ≠ 'f')
    (quote : c ≠ '"') : readScalar (c :: rest) = readNumber (c :: rest) := by
  have first := readWord_of_ne "null" 'n' c _ rest rfl null.symm
  have second := readWord_of_ne "true" 't' c _ rest rfl yes.symm
  have third := readWord_of_ne "false" 'f' c _ rest rfl no.symm
  simp [readScalar, first, second, third, quote]

private theorem readNumber_head (chars : List Char) (result : Value × List Char)
    (read : readNumber chars = some result) :
    ∃ c rest, chars = c :: rest ∧ c ≠ 'n' ∧ c ≠ 't' ∧ c ≠ 'f' ∧ c ≠ '"' := by
  cases chars with
  | nil => cases read
  | cons c rest =>
    refine ⟨c, rest, rfl, ?_, ?_, ?_, ?_⟩ <;> (rintro rfl; cases read)

private theorem readScalar_of_number (chars : List Char) (result : Value × List Char)
    (read : readNumber chars = some result) : readScalar chars = some result := by
  obtain ⟨c, rest, rfl, null, yes, no, quote⟩ := readNumber_head chars result read
  rw [readScalar_of_other c rest null yes no quote, read]

private theorem readScalar_write (value : Value) (scalar : value.isScalar = true) (short : value.IsShort)
    (written : List Char) (wrote : writeValue value = .ok written) (rest : List Char) (ends : Ends rest) :
    readScalar (written ++ rest) = some (value, rest) := by
  cases value with
  | null =>
    cases wrote
    rfl
  | bool value => cases value <;> (cases wrote; rfl)
  | int n =>
    obtain ⟨_, rfl⟩ := (intChars_eq_ok n written).mp wrote
    exact readScalar_of_number _ _ (readNumber_ofInt rest ends n (short n rfl))
  | float value =>
    cases wrote
    exact readScalar_of_number _ _ (readNumber_write rest ends value)
  | text text =>
    cases wrote
    have read := readString_writeString text rest
    have quoted (tail : List Char) : readScalar ('"' :: tail) =
        (readString tail).map fun read => (.text read.1, read.2) := rfl
    rw [writeString, List.append_assoc, List.cons_append, quoted, List.singleton_append, read]
    rfl
  | _ => cases scalar

structure Starts (c : Char) : Prop where
  visible : isSpace c = false
  list : c ≠ '['
  close : c ≠ ']'
  dict : c ≠ '\x7b'

private theorem readScalar_head (chars : List Char) (result : Value × List Char)
    (read : readScalar chars = some result) :
    ∃ c rest, chars = c :: rest ∧ Starts c := by
  cases chars with
  | nil => cases read
  | cons c rest =>
    refine ⟨c, rest, rfl, ?_, ?_, ?_, ?_⟩
    · by_contra space
      simp only [isSpace, Bool.not_eq_false, Bool.or_eq_true, beq_iff_eq] at space
      rcases space with ((rfl | rfl) | rfl) | rfl <;> cases read
    all_goals
      rintro rfl
      cases read

private theorem readScalar_long (n : Int) (long : longestWhole < (Text.ofInt n).length) :
    ∃ c rest, Text.ofInt n = c :: rest ∧ Starts c ∧
      ∀ rest', Ends rest' → readScalar (Text.ofInt n ++ rest') = none := by
  obtain ⟨c, rest, written, sign⟩ := ofInt_head n
  have ne (other : Char) (plain : ¬ (other = '-' ∨ other.isDigit = true)) : c ≠ other := fun same =>
    plain (same ▸ sign)
  refine ⟨c, rest, written, ⟨?_, ne _ (by decide), ne _ (by decide), ne _ (by decide)⟩, fun rest' ends => ?_⟩
  · simp [isSpace, ne ' ' (by decide), ne '\n' (by decide), ne '\r' (by decide), ne '\t' (by decide)]
  · have refused := readNumber_ofInt_long rest' ends n long
    rw [written, List.cons_append] at refused ⊢
    rw [readScalar_of_other c _ (ne _ (by decide)) (ne _ (by decide)) (ne _ (by decide)) (ne _ (by decide)), refused]

private theorem readScalar_written (value : Value) (scalar : value.isScalar = true) (written : List Char)
    (wrote : writeValue value = .ok written) :
    ∃ c rest, written = c :: rest ∧ Starts c ∧
      ∀ rest', Ends rest' → ReadIf value.IsShort (readScalar (written ++ rest')) (value, rest') := by
  by_cases short : value.IsShort
  · have read := readScalar_write value scalar short written wrote
    have alone := read [] nofun
    rw [List.append_nil] at alone
    obtain ⟨c, rest, starts, head⟩ := readScalar_head written _ alone
    exact ⟨c, rest, starts, head, fun rest' ends => .always (read rest' ends) short⟩
  · -- only an integer can be too long, and this one was written all the same
    obtain ⟨n, rfl, long⟩ : ∃ n, value = .int n ∧ longestWhole < (Text.ofInt n).length := by
      simpa [Value.IsShort] using short
    obtain ⟨_, rfl⟩ := (intChars_eq_ok n written).mp wrote
    obtain ⟨c, rest, starts, head, refused⟩ := readScalar_long n long
    exact ⟨c, rest, starts, head, fun rest' ends => ⟨fun holds => absurd holds short, fun _ => refused rest' ends⟩⟩

end Scalars

private theorem skipSpace_of_head (c : Char) (rest : List Char) (other : isSpace c = false) :
    skipSpace (c :: rest) = c :: rest := by
  simp [skipSpace, other]

private theorem readValue_scalar (fuel depth : Nat) (c : Char) (rest : List Char) (starts : Starts c) :
    readValue (fuel + 1) depth (c :: rest) = readScalar (c :: rest) := by
  rw [readValue, skipSpace_of_head c rest starts.visible]
  split
  next same => exact absurd (List.cons.inj same).1 starts.list
  next same => exact absurd (List.cons.inj same).1 starts.dict
  next => rfl

section Containers

variable (fuel depth : Nat) (c : Char) (rest : List Char) (other : isSpace c = false) (inside : depth < deepest)
include other inside

private theorem readValue_list (filled : c ≠ ']') :
    readValue (fuel + 1) depth ('[' :: c :: rest) =
      (readItems fuel (depth + 1) (c :: rest)).map fun (items, rest) => (.list items, rest) := by
  simp [readValue, skipSpace_of_head '[' (c :: rest) rfl, skipSpace_of_head c rest other, filled, inside]

private theorem readValue_dict (filled : c ≠ '\x7d') :
    readValue (fuel + 1) depth ('\x7b' :: c :: rest) =
      (readEntries fuel (depth + 1) [] (c :: rest)).map fun (entries, rest) => (.dict entries, rest) := by
  simp [readValue, skipSpace_of_head '\x7b' (c :: rest) rfl, skipSpace_of_head c rest other, filled, inside]

end Containers

private theorem readValue_space (fuel depth : Nat) (chars : List Char) :
    readValue fuel depth (' ' :: chars) = readValue fuel depth chars := by
  cases fuel <;> rfl

private theorem readItems_space (fuel depth : Nat) (chars : List Char) :
    readItems fuel depth (' ' :: chars) = readItems fuel depth chars := by
  cases fuel with
  | zero => rfl
  | succ fuel => rw [readItems, readItems, readValue_space]

private theorem readEntries_space (fuel depth : Nat) (entries : Entries) (chars : List Char) :
    readEntries fuel depth entries (' ' :: chars) = readEntries fuel depth entries chars := by
  cases fuel <;> rfl

/-- Written so, a value is read back inside `depth` containers unless it holds an integer that is too long, and does
not look like the end of one. -/
structure ReadsBack (depth : Nat) (value : Value) (written : List Char) : Prop where
  first : ∃ c rest, written = c :: rest ∧ isSpace c = false ∧ c ≠ ']'
  read : ∀ fuel rest, 2 * written.length ≤ fuel → Ends rest →
    ReadIf (value.Everywhere Value.IsShort) (readValue fuel depth (written ++ rest)) (value, rest)

private theorem readsBack_scalar (depth : Nat) (value : Value) (scalar : value.isScalar = true) (written : List Char)
    (wrote : writeValue value = .ok written) : ReadsBack depth value written := by
  obtain ⟨c, letters, starts, head, read⟩ := readScalar_written value scalar written wrote
  refine ⟨⟨c, letters, starts, head.visible, head.close⟩, fun fuel rest enough ends => ?_⟩
  have here := (read rest ends).congr (value.everywhere_of_isScalar Value.IsShort scalar)
  subst starts
  cases fuel with
  | zero => simp at enough
  | succ fuel =>
    rw [List.cons_append] at here ⊢
    rwa [readValue_scalar fuel depth c _ head]

section Items

variable (depth : Nat)

private theorem readItems_separated (items : List Value) (written : List (List Char)) (filled : items ≠ [])
    (each : List.Forall₂ (ReadsBack depth) items written) (fuel : Nat) (rest : List Char)
    (enough : 2 * (separated written).length < fuel) :
    ReadIf (∀ item ∈ items, item.Everywhere Value.IsShort)
      (readItems fuel depth (separated written ++ ']' :: rest)) (items, rest) := by
  induction each generalizing fuel with
  | nil => exact absurd rfl filled
  | @cons item first others written here there ih =>
    -- one unit of fuel is spent on the item, which is paid for by its own characters and the comma
    obtain ⟨fuel, rfl⟩ := Nat.exists_eq_add_one_of_ne_zero (show fuel ≠ 0 by omega)
    rw [readItems, List.forall_mem_cons]
    cases there with
    | nil =>
      have read := here.read fuel (']' :: rest) (by simp only [separated] at enough; omega) (by simp [Ends])
      rw [and_iff_left (List.forall_mem_nil _)]
      exact read.bind_some rfl
    | @cons other second others written next there =>
      have long : (separated (first :: second :: written)).length =
          first.length + 2 + (separated (second :: written)).length := by
        simp [separated]
        omega
      have read := here.read fuel (',' :: ' ' :: (separated (second :: written) ++ ']' :: rest)) (by omega)
        (by simp [Ends])
      have later := ih (by simp) fuel (by omega)
      rw [← readItems_space] at later
      have opened : separated (first :: second :: written) ++ ']' :: rest =
          first ++ ',' :: ' ' :: (separated (second :: written) ++ ']' :: rest) := by
        simp [separated]
      rw [opened]
      exact read.bind (later.bind_some rfl)

private theorem insert_of_absent (entries : Entries) (key value : Value)
    (absent : ∀ entry ∈ entries, entry.1.equals key = false) :
    entries.insert key value = entries ++ [(key, value)] := by
  induction entries with
  | nil => rfl
  | cons entry rest ih =>
    rw [Entries.insert, absent entry (by simp), if_neg Bool.false_ne_true,
      ih fun other member => absent other (by simp [member])]
    rfl

def EntryReadsBack (entry : Value × Value) (written : List Char) : Prop :=
  ∃ key value, entry.1 = .text key ∧ written = writeString key.toList ++ [':', ' '] ++ value ∧
    ReadsBack depth entry.2 value

private theorem readEntries_value (fuel : Nat) (done : Entries) (key : String) (value rest : List Char) :
    readEntries (fuel + 1) depth done (writeString key.toList ++ [':', ' '] ++ value ++ rest) =
      (readValue fuel depth (value ++ rest)).bind fun (value, rest) =>
        match skipSpace rest with
        | ',' :: rest => readEntries fuel depth (done.insert (.text key) value) rest
        | '\x7d' :: rest => some (done.insert (.text key) value, rest)
        | _ => none := by
  have opened : writeString key.toList ++ [':', ' '] ++ value ++ rest =
      '"' :: (key.toList.flatMap writeChar ++ '"' :: ':' :: ' ' :: (value ++ rest)) := by
    simp [writeString]
  rw [opened, readEntries, skipSpace_of_head '"' _ rfl]
  simp only [readString_writeString, Option.bind_eq_bind, Option.bind_some, skipSpace_of_head ':' _ rfl]
  exact congrArg (Option.bind · _) (readValue_space ..)

private theorem readEntries_separated (entries : Entries) (written : List (List Char)) (filled : entries ≠ [])
    (each : List.Forall₂ (EntryReadsBack depth) entries written) (fuel : Nat) (done : Entries) (rest : List Char)
    (apart : Entries.Apart (done ++ entries)) (enough : 2 * (separated written).length < fuel) :
    ReadIf (∀ entry ∈ entries, entry.2.Everywhere Value.IsShort)
      (readEntries fuel depth done (separated written ++ '\x7d' :: rest)) (done ++ entries, rest) := by
  induction each generalizing fuel done with
  | nil => exact absurd rfl filled
  | @cons entry first others written here there ih =>
    obtain ⟨fuel, rfl⟩ := Nat.exists_eq_add_one_of_ne_zero (show fuel ≠ 0 by omega)
    obtain ⟨key, value, isKey, rfl, back⟩ := here
    obtain ⟨_, given⟩ := entry
    cases isKey
    -- no entry before has this key, so the new one goes to the end
    have absent : ∀ other ∈ done, other.1.equals (.text key) = false := fun other member =>
      (List.pairwise_append.mp apart).2.2 other member _ List.mem_cons_self
    have inserted := insert_of_absent done (.text key) given absent
    rw [List.forall_mem_cons]
    cases there with
    | nil =>
      simp only [separated, List.length_append] at enough
      have read := back.read fuel ('\x7d' :: rest) (by omega) (by simp [Ends])
      rw [separated, readEntries_value]
      rw [and_iff_left (List.forall_mem_nil _)]
      exact read.bind_some (by simp [skipSpace_of_head '\x7d' _ rfl, inserted])
    | @cons next second others written following there =>
      have long : (separated ((writeString key.toList ++ [':', ' '] ++ value) :: second :: written)).length =
          (writeString key.toList ++ [':', ' ']).length + value.length + 2 +
            (separated (second :: written)).length := by
        simp [separated]
        omega
      have read := back.read fuel (',' :: ' ' :: (separated (second :: written) ++ '\x7d' :: rest)) (by omega)
        (by simp [Ends])
      have later := ih (by simp) fuel (done ++ [(.text key, given)]) (by simpa using apart) (by omega)
      have opened : separated ((writeString key.toList ++ [':', ' '] ++ value) :: second :: written) ++ '\x7d' :: rest =
          writeString key.toList ++ [':', ' '] ++ value ++
            ',' :: ' ' :: (separated (second :: written) ++ '\x7d' :: rest) := by
        simp [separated]
      rw [opened, readEntries_value]
      refine read.bind ?_
      simp only [skipSpace_of_head ',' _ rfl, inserted, readEntries_space]
      rwa [List.append_assoc, List.singleton_append] at later

end Items

/-- A value that JSON has a form for, inside `depth` containers. -/
inductive Portable : Nat → Value → Prop
  | scalar (depth : Nat) (value : Value) (scalar : value.isScalar = true) : Portable depth value
  | list (depth : Nat) (items : List Value) (shallow : items ≠ [] → depth < deepest)
    (inside : ∀ item ∈ items, Portable (depth + 1) item) : Portable depth (.list items)
  | dict (depth : Nat) (entries : Entries) (shallow : entries ≠ [] → depth < deepest)
    (texts : ∀ entry ∈ entries, ∃ key, entry.1 = .text key) (apart : Entries.Apart entries)
    (inside : ∀ entry ∈ entries, Portable (depth + 1) entry.2) : Portable depth (.dict entries)

theorem everywhere_texts (holds : Value → Prop) (entries : Entries)
    (texts : ∀ entry ∈ entries, ∃ key, entry.1 = .text key) (here : holds (.dict entries))
    (ofText : ∀ text, holds (.text text)) :
    (Value.dict entries).Everywhere holds ↔ ∀ entry ∈ entries, entry.2.Everywhere holds := by
  rw [Value.everywhere_dict holds entries here]
  refine forall₂_congr fun entry member => and_iff_right ?_
  obtain ⟨key, named⟩ := texts entry member
  rw [named, Value.everywhere_of_isScalar holds _ rfl]
  exact ofText key

section Writing

private theorem writeItems_eq (items : List Value) : writeItems items = items.mapM writeValue := by
  induction items with
  | nil => rfl
  | cons item rest ih =>
    rw [writeItems, ih, List.mapM_cons]
    rfl

def writeEntry (entry : Value × Value) : Except Fault (List Char) := do
  let key ← writeKey entry.1
  let value ← writeValue entry.2
  .ok (key ++ [':', ' '] ++ value)

private theorem writeEntries_eq (entries : Entries) : writeEntries entries = entries.mapM writeEntry := by
  induction entries with
  | nil => rfl
  | cons entry rest ih =>
    obtain ⟨key, value⟩ := entry
    rw [writeEntries, ih, List.mapM_cons, writeEntry]
    cases writeKey key with
    | error => rfl
    | ok key => cases writeValue value <;> rfl

private theorem writeEntry_written (condition : Prop) (entry : Value × Value) (text : ∃ key, entry.1 = .text key)
    (written : WrittenIf condition (writeValue entry.2)) : WrittenIf condition (writeEntry entry) := by
  obtain ⟨key, named⟩ := text
  rw [writeEntry, named]
  exact written.map fun value => writeString key.toList ++ [':', ' '] ++ value

private theorem writeScalar_written (value : Value) (scalar : value.isScalar = true) :
    WrittenIf value.IsWritable (writeValue value) := by
  cases value with
  | int n => exact (intChars_written n).congr ⟨fun fits => fits n rfl, fun short _ same => by cases same; exact short⟩
  | null | bool | float | text => exact .always _ nofun
  | _ => cases scalar

theorem Portable.written {depth : Nat} {value : Value} (portable : Portable depth value) :
    WrittenIf (value.Everywhere Value.IsWritable) (writeValue value) := by
  induction portable with
  | scalar depth value scalar =>
    exact (writeScalar_written value scalar).congr (value.everywhere_of_isScalar _ scalar)
  | list depth items shallow inside ih =>
    rw [writeValue, writeItems_eq]
    exact ((WrittenIf.mapM items ih).map _).congr (Value.everywhere_list _ items nofun)
  | dict depth entries shallow texts apart inside ih =>
    rw [writeValue, writeEntries_eq]
    have each := WrittenIf.mapM entries fun entry member =>
      writeEntry_written _ entry (texts entry member) (ih entry member)
    exact (each.map _).congr (everywhere_texts _ entries texts nofun fun _ => nofun)

end Writing

section Reading

private theorem separated_cons (first : List Char) (others : List (List Char)) :
    ∃ tail, separated (first :: others) = first ++ tail := by
  cases others with
  | nil => exact ⟨[], (List.append_nil first).symm⟩
  | cons => exact ⟨_, List.append_assoc ..⟩

private theorem readsBack_list (depth : Nat) (items : List Value) (written : List (List Char))
    (shallow : items ≠ [] → depth < deepest) (each : List.Forall₂ (ReadsBack (depth + 1)) items written) :
    ReadsBack depth (.list items) ('[' :: separated written ++ [']']) := by
  refine ⟨⟨'[', _, rfl, rfl, by decide⟩, fun fuel rest enough ends => ?_⟩
  have long : ('[' :: separated written ++ [']']).length = (separated written).length + 2 := by simp
  obtain ⟨fuel, rfl⟩ := Nat.exists_eq_add_one_of_ne_zero (show fuel ≠ 0 by omega)
  have opened : '[' :: separated written ++ [']'] ++ rest = '[' :: (separated written ++ ']' :: rest) := by simp
  rw [opened, Value.everywhere_list _ items nofun]
  cases each with
  | nil => exact .always rfl nofun
  | @cons item first items written here there =>
    have read := readItems_separated (depth + 1) (item :: items) (first :: written) (by simp) (.cons here there)
      fuel rest (by omega)
    obtain ⟨c, letters, starts, other, filled⟩ := here.first
    obtain ⟨tail, spelled⟩ := separated_cons first written
    rw [spelled, starts, List.cons_append, List.cons_append] at read ⊢
    rw [readValue_list fuel depth c _ other (shallow (by simp)) filled]
    exact read.map _

private theorem readsBack_dict (depth : Nat) (entries : Entries) (written : List (List Char))
    (shallow : entries ≠ [] → depth < deepest) (apart : Entries.Apart entries)
    (each : List.Forall₂ (EntryReadsBack (depth + 1)) entries written) :
    ReadsBack depth (.dict entries) ('\x7b' :: separated written ++ ['\x7d']) := by
  have texts : ∀ entry ∈ entries, ∃ key, entry.1 = .text key := by
    intro entry member
    obtain ⟨_, _, key, _, named, _⟩ := forall₂_left_mem each entry member
    exact ⟨key, named⟩
  refine ⟨⟨'\x7b', _, rfl, rfl, by decide⟩, fun fuel rest enough ends => ?_⟩
  have long : ('\x7b' :: separated written ++ ['\x7d']).length = (separated written).length + 2 := by simp
  obtain ⟨fuel, rfl⟩ := Nat.exists_eq_add_one_of_ne_zero (show fuel ≠ 0 by omega)
  have opened : '\x7b' :: separated written ++ ['\x7d'] ++ rest =
      '\x7b' :: (separated written ++ '\x7d' :: rest) := by simp
  rw [opened, everywhere_texts _ entries texts nofun fun _ => nofun]
  cases each with
  | nil => exact .always rfl nofun
  | @cons entry first entries written here there =>
    have read := readEntries_separated (depth + 1) (entry :: entries) (first :: written) (by simp) (.cons here there)
      fuel [] rest apart (by omega)
    obtain ⟨key, value, _, starts, _⟩ := here
    obtain ⟨tail, spelled⟩ := separated_cons first written
    rw [spelled, starts, writeString] at read ⊢
    rw [List.cons_append, List.cons_append, List.cons_append, List.cons_append, List.cons_append] at read ⊢
    rw [readValue_dict fuel depth '"' _ rfl (shallow (by simp)) (by decide)]
    exact read.map _

theorem Portable.readsBack {depth : Nat} {value : Value} (portable : Portable depth value) (written : List Char)
    (wrote : writeValue value = .ok written) : ReadsBack depth value written := by
  induction portable generalizing written with
  | scalar depth value scalar => exact readsBack_scalar depth value scalar written wrote
  | list depth items shallow inside ih =>
    simp only [writeValue, writeItems_eq, bind_eq_ok, mapM_eq_ok] at wrote
    obtain ⟨inner, each, same⟩ := wrote
    cases same
    exact readsBack_list depth items inner shallow (forall₂_imp_left each ih)
  | dict depth entries shallow texts apart inside ih =>
    simp only [writeValue, writeEntries_eq, bind_eq_ok, mapM_eq_ok] at wrote
    obtain ⟨inner, each, same⟩ := wrote
    cases same
    refine readsBack_dict depth entries inner shallow apart (forall₂_imp_left each ?_)
    intro entry member written wrote
    simp only [writeEntry, bind_eq_ok] at wrote
    obtain ⟨key, keyWrote, value, valueWrote, same⟩ := wrote
    cases same
    obtain ⟨name, named⟩ := texts entry member
    rw [named] at keyWrote
    cases keyWrote
    exact ⟨name, value, named, rfl, ih entry member value valueWrote⟩

end Reading

end Json

end TripleQuery
