import TripleQuery.Document.Reader
import TripleQuery.Proofs.Except
import TripleQuery.Proofs.Value.Equality

/-!
What the check of a document accepts, stage by stage, and that it never rejects one without an issue. A document
that it accepts is sound: its parts are scalars and none is the bare mark, and its patterns have three parts each.
-/

namespace TripleQuery

namespace Value

/-- A scalar, other than the text that is the bare mark. -/
def IsPart (value : Value) : Prop := value.isScalar = true ∧ value ≠ .text bareMark

section Inside

variable (holds : Value → Prop) (value : Value) (all : value.Everywhere holds)
include all

theorem everywhere_of_get? (entries : Entries) (key found : Value) (mapping : value.mapping? = some entries)
    (present : entries.get? key = some found) : found.Everywhere holds := by
  obtain ⟨_, _, inside⟩ := all
  obtain ⟨entry, searched, rfl⟩ := Option.map_eq_some_iff.mp present
  exact inside entry.2 (mem_components_of_entry value entries mapping entry (List.mem_of_find?_eq_some searched)).2

theorem everywhere_of_listItems? (items : List Value) (item : Value)
    (listed : Document.listItems? value = some items) (member : item ∈ items) : item.Everywhere holds := by
  obtain ⟨_, _, inside⟩ := all
  cases value with
  | list | tuple | pattern =>
    cases listed
    exact inside item member
  | _ => cases listed

end Inside

end Value

namespace QueryDocument

def parts (document : QueryDocument) : List Value := document.find ++ document.body.flatten

structure Sound (document : QueryDocument) : Prop where
  find : ∀ part ∈ document.find, part.IsPart
  arity : ∀ parts ∈ document.body, parts.length = 3
  body : ∀ parts ∈ document.body, ∀ part ∈ parts, part.IsPart

end QueryDocument

namespace Document

section Accepted

variable {α : Type}

private theorem located_eq_ok (step : DocumentStep) (checked : Checked α) (value : α) :
    located step checked = .ok value ↔ checked = .ok value :=
  mapError_eq_ok checked _ value

private theorem readItems_eq_ok (read : Value → Checked α) (index : Nat) (items : List Value) (values : List α) :
    readItems read index items = .ok values ↔
      List.Forall₂ (fun item value => read item = .ok value) items values := by
  induction items generalizing index values with
  | nil => cases values <;> simp [readItems]
  | cons item rest ih =>
    have others := ih (index + 1)
    have here := located_eq_ok (.index index) (read item)
    rw [readItems]
    split
    next first later firstRead laterRead =>
      rw [firstRead] at here
      rw [laterRead] at others
      rw [Except.ok.injEq, List.forall₂_cons_left_iff]
      constructor
      · intro same
        exact ⟨first, later, (here first).mp rfl, (others later).mp rfl, same.symm⟩
      · rintro ⟨first', later', firstRead', laterRead', rfl⟩
        rw [Except.ok.inj ((here first').mpr firstRead'), Except.ok.inj ((others later').mpr laterRead')]
    next failed =>
      refine ⟨nofun, fun related => ?_⟩
      obtain ⟨first, later, firstRead, laterRead, _⟩ := List.forall₂_cons_left_iff.mp related
      exact absurd ((others later).mpr laterRead) (failed first later ((here first).mpr firstRead))

theorem readList_eq_ok (source : DocumentSource) (read : Value → Checked α) (value : Value)
    (values : List α) :
    readList source read value = .ok values ↔ ∃ items, listItems? value = some items ∧
      List.Forall₂ (fun item value => read item = .ok value) items values := by
  unfold readList
  cases listed : listItems? value with
  | none => simp
  | some items => simp [readItems_eq_ok]

end Accepted

private theorem checkNames_eq_ok (parts : List Value) :
    checkNames parts = .ok () ↔ ∀ part ∈ parts, part ≠ .text bareMark := by
  have bare : (parts.any fun part => part.equals (.text bareMark)) = true ↔ .text bareMark ∈ parts := by
    simp [Value.equals_text]
  rw [checkNames]
  split
  next found => simpa using bare.mp found
  next sound =>
    refine ⟨fun _ part member same => sound (bare.mpr (same ▸ member)), fun _ => rfl⟩

private theorem wrongArity?_eq_none (start : Nat) (lists : List (List Value)) :
    wrongArity? start lists = none ↔ ∀ parts ∈ lists, parts.length = 3 := by
  induction lists generalizing start with
  | nil => simp [wrongArity?]
  | cons parts rest ih =>
    by_cases three : parts.length = 3
    · simp [wrongArity?, three, ih]
    · simp [wrongArity?, three]

theorem wrongArity?_least (start : Nat) (lists : List (List Value)) (index : Nat) (wrong : List Value)
    (present : lists[index]? = some wrong) (other : wrong.length ≠ 3)
    (least : ∀ earlier < index, ∀ parts, lists[earlier]? = some parts → parts.length = 3) :
    wrongArity? start lists = some (start + index, wrong.length) := by
  induction lists generalizing start index with
  | nil => cases present
  | cons parts rest ih =>
    cases index with
    | zero =>
      cases present
      simp [wrongArity?, other]
    | succ index =>
      have three : parts.length = 3 := least 0 (Nat.succ_pos index) parts rfl
      have later := ih (start + 1) index present fun earlier before => least (earlier + 1) (Nat.succ_lt_succ before)
      rw [wrongArity?, if_pos three, later, Nat.add_right_comm, Nat.add_assoc]

private theorem checkArity_eq_ok (lists : List (List Value)) :
    checkArity lists = .ok () ↔ ∀ parts ∈ lists, parts.length = 3 := by
  rw [← wrongArity?_eq_none 0, checkArity]
  cases wrongArity? 0 lists <;> simp

private theorem atPlace_eq_ok {α : Type} (result : Except DocumentProblem α) (value : α) :
    atPlace result = .ok value ↔ result = .ok value :=
  mapError_eq_ok result _ value

theorem readFind_eq_ok (source : DocumentSource) (value : Value) (parts : List Value) :
    readFind source value = .ok parts ↔
      readList source readPart value = .ok parts ∧ ∀ part ∈ parts, part ≠ .text bareMark := by
  simp only [readFind, bind_eq_ok, atPlace_eq_ok, Except.ok.injEq]
  constructor
  · rintro ⟨parts, read, _, named, rfl⟩
    exact ⟨read, (checkNames_eq_ok parts).mp named⟩
  · rintro ⟨read, named⟩
    exact ⟨parts, read, (), (checkNames_eq_ok parts).mpr named, rfl⟩

theorem readBody_eq_ok (source : DocumentSource) (value : Value) (lists : List (List Value)) :
    readBody source value = .ok lists ↔
      readList source (readList source readPart) value = .ok lists ∧
        (∀ parts ∈ lists, parts.length = 3) ∧
        ∀ parts ∈ lists, ∀ part ∈ parts, part ≠ .text bareMark := by
  have flat (lists : List (List Value)) : (∀ part ∈ lists.flatten, part ≠ .text bareMark) ↔
      ∀ parts ∈ lists, ∀ part ∈ parts, part ≠ .text bareMark := by
    simp only [List.mem_flatten]
    exact ⟨fun all parts inside part member => all part ⟨parts, inside, member⟩,
      fun all part ⟨parts, inside, member⟩ => all parts inside part member⟩
  simp only [readBody, bind_eq_ok, atPlace_eq_ok, Except.ok.injEq]
  constructor
  · rintro ⟨lists, read, _, three, _, named, rfl⟩
    exact ⟨read, (checkArity_eq_ok lists).mp three, (flat lists).mp ((checkNames_eq_ok _).mp named)⟩
  · rintro ⟨read, three, named⟩
    exact ⟨lists, read, (), (checkArity_eq_ok lists).mpr three, (), (checkNames_eq_ok _).mpr
      ((flat lists).mpr named), rfl⟩

private theorem readField_eq_ok {α : Type} (name : String) (read : Value → Checked α) (entries : Entries) (value : α) :
    readField name read entries = .ok value ↔
      ∃ given, entries.get? (.text name) = some given ∧ read given = .ok value := by
  rw [readField, located_eq_ok]
  cases entries.get? (.text name) <;> simp

private theorem keyIssues_eq_nil (entries : Entries) :
    keyIssues entries = [] ↔ ∀ entry ∈ entries, entry.1 = Query.findKey ∨ entry.1 = Query.bodyKey := by
  have known (key : Value) : keyProblem? key = none ↔ key = Query.findKey ∨ key = Query.bodyKey := by
    cases key <;> simp [keyProblem?, Query.findKey, Query.bodyKey, keys, or_iff_not_imp_left]
  simp only [keyIssues, List.filterMap_eq_nil_iff, Option.map_eq_none_iff, known]

private theorem readEntries_eq_ok (source : DocumentSource) (entries : Entries) (document : QueryDocument) :
    readEntries source entries = .ok document ↔
      readField "find" (readFind source) entries = .ok document.find ∧
        readField "where" (readBody source) entries = .ok document.body ∧ keyIssues entries = [] := by
  rw [readEntries]
  split
  next find body findRead bodyRead none =>
    rw [findRead, bodyRead, none]
    obtain ⟨find', body'⟩ := document
    simp only [Except.ok.injEq, QueryDocument.mk.injEq, and_true]
  next failed =>
    exact ⟨nofun, fun ⟨findRead, bodyRead, known⟩ => absurd known (failed _ _ findRead bodyRead)⟩

theorem readObject_eq_ok (source : DocumentSource) (value : Value) (document : QueryDocument) :
    readObject source value = .ok document ↔ ∃ entries find body, value.mapping? = some entries ∧
      (∀ entry ∈ entries, entry.1 = Query.findKey ∨ entry.1 = Query.bodyKey) ∧
      entries.get? Query.findKey = some find ∧ readFind source find = .ok document.find ∧
      entries.get? Query.bodyKey = some body ∧ readBody source body = .ok document.body := by
  unfold readObject
  cases value.mapping? with
  | none => simp
  | some entries =>
    simp only [readEntries_eq_ok, readField_eq_ok, keyIssues_eq_nil, Option.some.injEq]
    constructor
    · rintro ⟨⟨find, hasFind, findRead⟩, ⟨body, hasBody, bodyRead⟩, known⟩
      exact ⟨entries, find, body, rfl, known, hasFind, findRead, hasBody, bodyRead⟩
    · rintro ⟨_, find, body, rfl, known, hasFind, findRead, hasBody, bodyRead⟩
      exact ⟨⟨find, hasFind, findRead⟩, ⟨body, hasBody, bodyRead⟩, known⟩

section Parts

private theorem scalarOfBytes?_isScalar (bytes : List UInt8) (scalar : Value)
    (read : scalarOfBytes? bytes = some scalar) : scalar.isScalar = true := by
  simp only [scalarOfBytes?, Option.bind_eq_bind, Option.bind_eq_some_iff] at read
  obtain ⟨text, _, read⟩ := read
  split at read <;> cases read <;> rfl

theorem readPart_of_isScalar (value : Value) (scalar : value.isScalar = true) : readPart value = .ok value := by
  unfold readPart
  rw [if_pos scalar]

private theorem readPart_isScalar (value part : Value) (read : readPart value = .ok part) : part.isScalar = true := by
  unfold readPart at read
  split at read
  next scalar =>
    cases read
    exact scalar
  · split at read
    next bytes _ =>
      split at read
      next scalar found =>
        cases read
        exact scalarOfBytes?_isScalar bytes _ found
      · cases read
    · cases read

private theorem readParts_given (source : DocumentSource) (value : Value) (parts : List Value)
    (read : readList source readPart value = .ok parts) (part : Value) (member : part ∈ parts) :
    ∃ given, readPart given = .ok part ∧ ∀ holds, value.Everywhere holds → given.Everywhere holds := by
  obtain ⟨items, listed, related⟩ := (readList_eq_ok source readPart value parts).mp read
  obtain ⟨item, inside, here⟩ := forall₂_right_mem related part member
  exact ⟨item, here, fun holds all => value.everywhere_of_listItems? holds all items item listed inside⟩

/-- Every part of a document was read from a value inside of what the document was read from. -/
theorem readObject_given (source : DocumentSource) (value : Value) (document : QueryDocument)
    (read : readObject source value = .ok document) (part : Value) (member : part ∈ document.parts) :
    ∃ given, readPart given = .ok part ∧ ∀ holds, value.Everywhere holds → given.Everywhere holds := by
  obtain ⟨entries, find, body, mapping, _, hasFind, findRead, hasBody, bodyRead⟩ :=
    (readObject_eq_ok source value document).mp read
  rcases List.mem_append.mp member with inFind | inBody
  · obtain ⟨parts, _⟩ := (readFind_eq_ok source find document.find).mp findRead
    obtain ⟨given, here, inside⟩ := readParts_given source find document.find parts part inFind
    exact ⟨given, here, fun holds all =>
      inside holds (value.everywhere_of_get? holds all entries _ find mapping hasFind)⟩
  · obtain ⟨parts, listed, inside⟩ := List.mem_flatten.mp inBody
    obtain ⟨lists, _⟩ := (readBody_eq_ok source body document.body).mp bodyRead
    obtain ⟨items, items?, related⟩ := (readList_eq_ok source _ body document.body).mp lists
    obtain ⟨item, itemInside, partsRead⟩ := forall₂_right_mem related parts listed
    obtain ⟨given, here, within⟩ := readParts_given source item parts partsRead part inside
    refine ⟨given, here, fun holds all => within holds ?_⟩
    have ofBody := value.everywhere_of_get? holds all entries _ body mapping hasBody
    exact body.everywhere_of_listItems? holds ofBody items item items? itemInside

theorem readObject_sound (source : DocumentSource) (value : Value) (document : QueryDocument)
    (read : readObject source value = .ok document) : document.Sound := by
  obtain ⟨entries, find, body, _, _, _, findRead, _, bodyRead⟩ :=
    (readObject_eq_ok source value document).mp read
  obtain ⟨_, named⟩ := (readFind_eq_ok source find document.find).mp findRead
  obtain ⟨_, three, namedLists⟩ := (readBody_eq_ok source body document.body).mp bodyRead
  have scalar (part : Value) (member : part ∈ document.parts) : part.isScalar = true := by
    obtain ⟨given, here, _⟩ := readObject_given source value document read part member
    exact readPart_isScalar given part here
  refine ⟨fun part member => ⟨scalar part ?_, named part member⟩, three,
    fun parts inside part member => ⟨scalar part ?_, namedLists parts inside part member⟩⟩
  · exact List.mem_append_left _ member
  · exact List.mem_append_right _ (List.mem_flatten.mpr ⟨parts, inside, member⟩)

theorem check_of_value (value : Value) (decoded : value.isString = false) :
    check value = readObject .value value := by
  cases value with
  | text | bytes => cases decoded
  | _ => rfl

theorem check_of_string (given : Value) (encoded : given.isString = true) :
    ∃ text, check given = readJson text := by
  cases given with
  | text text => exact ⟨some text, rfl⟩
  | bytes bytes => exact ⟨Text.ofBytes? bytes, rfl⟩
  | _ => cases encoded

theorem check_sound (given : Value) (document : QueryDocument) (read : check given = .ok document) :
    document.Sound := by
  cases encoded : given.isString with
  | false => exact readObject_sound .value given document (check_of_value given encoded ▸ read)
  | true =>
    obtain ⟨text, same⟩ := check_of_string given encoded
    rw [same] at read
    unfold readJson at read
    split at read
    next value _ => exact readObject_sound .text value document read
    · cases read

end Parts

section Blame

variable {α : Type}

def Blamed (checked : Checked α) : Prop := checked ≠ .error []

theorem Blamed.located {checked : Checked α} (blamed : Blamed checked) (step : DocumentStep) :
    Blamed (located step checked) := by
  cases checked with
  | ok value => simp [Blamed, Document.located, Except.mapError]
  | error found => simpa [Blamed, Document.located, Except.mapError] using blamed

private theorem readPart_blamed (value : Value) : Blamed (readPart value) := by
  unfold readPart
  split
  · simp [Blamed]
  · split
    · split <;> simp [Blamed, ScalarKind.all]
    · simp [Blamed, ScalarKind.all]

private theorem readItems_blamed (read : Value → Checked α) (each : ∀ value, Blamed (read value)) (index : Nat)
    (items : List Value) : Blamed (readItems read index items) := by
  induction items generalizing index with
  | nil => simp [readItems, Blamed]
  | cons item rest ih =>
    have here := (each item).located (.index index)
    have others := ih (index + 1)
    rw [readItems]
    cases first : Document.located (.index index) (read item) with
    | error found =>
      rw [first] at here
      simpa [Blamed, issues] using fun none => absurd (congrArg Except.error none) here
    | ok value =>
      cases later : readItems read (index + 1) rest with
      | error found =>
        rw [later] at others
        simpa [Blamed, issues] using others
      | ok values => simp [Blamed]

private theorem readList_blamed (source : DocumentSource) (read : Value → Checked α)
    (each : ∀ value, Blamed (read value)) (value : Value) : Blamed (readList source read value) := by
  unfold readList
  split
  · exact readItems_blamed read each 0 _
  · simp [Blamed]

theorem Blamed.bind {β : Type} {checked : Checked α} (blamed : Blamed checked) (next : α → Checked β)
    (later : ∀ value, Blamed (next value)) : Blamed (checked >>= next) := by
  cases checked with
  | ok value => exact later value
  | error found =>
    intro failed
    cases failed
    exact blamed rfl

private theorem atPlace_blamed (result : Except DocumentProblem α) : Blamed (atPlace result) := by
  cases result <;> simp [Blamed, atPlace, Except.mapError]

private theorem readFind_blamed (source : DocumentSource) (value : Value) : Blamed (readFind source value) := by
  apply (readList_blamed source readPart readPart_blamed value).bind
  intro parts
  apply (atPlace_blamed _).bind
  intro _
  simp [Blamed]

private theorem readBody_blamed (source : DocumentSource) (value : Value) : Blamed (readBody source value) := by
  apply (readList_blamed source _ (readList_blamed source readPart readPart_blamed) value).bind
  intro lists
  apply (atPlace_blamed _).bind
  intro _
  apply (atPlace_blamed _).bind
  intro _
  simp [Blamed]

private theorem readField_blamed (name : String) (read : Value → Checked α) (each : ∀ value, Blamed (read value))
    (entries : Entries) : Blamed (readField name read entries) := by
  apply Blamed.located
  split
  · exact each _
  · simp [Blamed]

theorem readObject_blamed (source : DocumentSource) (value : Value) : Blamed (readObject source value) := by
  unfold readObject
  split
  next entries _ =>
    have find := readField_blamed "find" _ (readFind_blamed source) entries
    have body := readField_blamed "where" _ (readBody_blamed source) entries
    rw [readEntries]
    split
    · simp [Blamed]
    next failed =>
      intro none
      simp only [Except.error.injEq, List.append_eq_nil_iff] at none
      obtain ⟨⟨noFind, noBody⟩, noKeys⟩ := none
      cases first : readField "find" (readFind source) entries with
      | error found =>
        rw [first] at noFind find
        exact find (congrArg Except.error noFind)
      | ok parts =>
        cases second : readField "where" (readBody source) entries with
        | error found =>
          rw [second] at noBody body
          exact body (congrArg Except.error noBody)
        | ok lists => exact failed parts lists first second noKeys
  · simp [Blamed]

end Blame

end Document

end TripleQuery
