import TripleQuery.Proofs.Document.Reading
import TripleQuery.Proofs.Shorthand

/-!
Which values are query documents, and that both ways of reading one agree. The check of a document looks at more
than the reading of shorthand does; whatever passes it reads without fail, and to the same query as the shorthand
that the document is.
-/

namespace TripleQuery

private theorem Term.ofValue_isPart (part : Value) (sound : part.IsPart) : ∃ term, Term.ofValue part = .ok term := by
  cases part with
  | text text =>
    have named : text ≠ bareMark := fun same => sound.2 (same ▸ rfl)
    by_cases marked : isMarked text = true
    · rw [Term.ofValue, if_pos marked, Variable.ofValue, dif_pos marked, dif_pos named]
      exact ⟨_, rfl⟩
    · rw [Term.ofValue, if_neg marked]
      exact ⟨_, rfl⟩
  | _ => exact ⟨_, rfl⟩

namespace Pattern

private theorem ofValue_isParts (parts : List Value) (three : parts.length = 3) (sound : ∀ part ∈ parts, part.IsPart) :
    ∃ pattern, ofValue (.list parts) = .ok pattern := by
  obtain ⟨entity, attr, value, rfl⟩ := List.length_eq_three.mp three
  obtain ⟨entity', first⟩ := Term.ofValue_isPart entity (sound entity (by simp))
  obtain ⟨attr', second⟩ := Term.ofValue_isPart attr (sound attr (by simp))
  obtain ⟨value', third⟩ := Term.ofValue_isPart value (sound value (by simp))
  rw [ofValue_list, first, second, third]
  exact ⟨_, rfl⟩

end Pattern

namespace QueryDocument

variable (document : QueryDocument)

theorem toQuery_eq :
    document.toQuery = (do
      let find ← document.find.mapM Term.ofValue
      let body ← (document.body.map Value.list).mapM Pattern.ofValue
      .ok ⟨find, body⟩) := by
  change Query.ofEntries [(Query.findKey, .list document.find),
    (Query.bodyKey, .list (document.body.map Value.list))] = _
  exact Query.ofEntries_of_sequences _ _ _ rfl rfl

private theorem toQuery_isOk (sound : document.Sound) : ∃ query, document.toQuery = .ok query := by
  obtain ⟨find, findRead⟩ := mapM_isOk Term.ofValue document.find fun part member =>
    Term.ofValue_isPart part (sound.find part member)
  obtain ⟨body, bodyRead⟩ := mapM_isOk Pattern.ofValue (document.body.map Value.list) (by
    intro item member
    obtain ⟨parts, inside, rfl⟩ := List.mem_map.mp member
    exact Pattern.ofValue_isParts parts (sound.arity parts inside) (sound.body parts inside))
  rw [toQuery_eq, findRead, bodyRead]
  exact ⟨_, rfl⟩

end QueryDocument

namespace Value

/-- Neither bytes nor an assembled pattern, both of which a document can hold in the place of something else. -/
def isDecoded : Value → Bool
  | bytes _ | pattern _ => false
  | _ => true

/-- A mapping with the two keys of a query and no others: a sequence of parts is under the one, and a sequence of
sequences of three parts each under the other. -/
def IsQueryDocument (value : Value) : Prop :=
  ∃ entries find body parts lists, value.mapping? = some entries ∧
    (∀ entry ∈ entries, entry.1 = Query.findKey ∨ entry.1 = Query.bodyKey) ∧
    entries.get? Query.findKey = some find ∧ find.sequence? = some parts ∧ (∀ part ∈ parts, part.IsPart) ∧
    entries.get? Query.bodyKey = some body ∧ body.sequence? = some lists ∧
    ∀ list ∈ lists, ∃ entity attr value, list.sequence? = some [entity, attr, value] ∧
      entity.IsPart ∧ attr.IsPart ∧ value.IsPart

end Value

namespace Document

private theorem listItems?_of_isDecoded (value : Value) (decoded : value.isDecoded = true) :
    listItems? value = value.sequence? := by
  cases value with
  | pattern => cases decoded
  | _ => rfl

theorem listItems?_of_sequence? (value : Value) (items : List Value) (listed : value.sequence? = some items) :
    listItems? value = some items := by
  cases value with
  | list | tuple => exact listed
  | _ => cases listed

private theorem readPart_eq_ok (value part : Value) (decoded : value.isDecoded = true) :
    readPart value = .ok part ↔ value.isScalar = true ∧ part = value := by
  constructor
  · intro read
    unfold readPart at read
    split at read
    next scalar => exact ⟨scalar, (Except.ok.inj read).symm⟩
    · split at read
      · cases decoded
      · cases read
  · rintro ⟨scalar, rfl⟩
    exact readPart_of_isScalar part scalar

variable (source : DocumentSource) (value : Value)
  (decoded : value.Everywhere fun part => part.isDecoded = true)

include decoded

private theorem readParts_eq_ok (parts : List Value) :
    readList source readPart value = .ok parts ↔
      value.sequence? = some parts ∧ ∀ part ∈ parts, part.isScalar = true := by
  have here : value.isDecoded = true := decoded.here
  rw [readList_eq_ok, listItems?_of_isDecoded value here]
  have each (items : List Value) (listed : value.sequence? = some items) :
      List.Forall₂ (fun item part => readPart item = .ok part) items parts ↔
        (∀ item ∈ items, item.isScalar = true) ∧ items = parts := by
    have one : ∀ item ∈ items, ∀ part, readPart item = .ok part ↔ item.isScalar = true ∧ item = part := by
      intro item member part
      have inside := value.everywhere_of_listItems? _ decoded items item (listItems?_of_sequence? value items listed)
        member
      rw [readPart_eq_ok item part inside.here, @eq_comm _ part]
    rw [forall₂_congr_left items parts one, List.forall₂_and_left, List.forall₂_eq_eq_eq]
  constructor
  · rintro ⟨items, listed, related⟩
    obtain ⟨scalars, rfl⟩ := (each items listed).mp related
    exact ⟨listed, scalars⟩
  · rintro ⟨listed, scalars⟩
    exact ⟨parts, listed, (each parts listed).mpr ⟨scalars, rfl⟩⟩

private theorem readLists_eq_ok (lists : List (List Value)) :
    readList source (readList source readPart) value = .ok lists ↔ ∃ items, value.sequence? = some items ∧
      List.Forall₂ (fun item parts => item.sequence? = some parts ∧ ∀ part ∈ parts, part.isScalar = true)
        items lists := by
  have here : value.isDecoded = true := decoded.here
  rw [readList_eq_ok, listItems?_of_isDecoded value here]
  refine exists_congr fun items => and_congr_right fun listed => forall₂_congr_left items lists ?_
  intro item member parts
  have inside := value.everywhere_of_listItems? _ decoded items item (listItems?_of_sequence? value items listed) member
  exact readParts_eq_ok source item inside parts

private theorem readObject_isOk_iff : (∃ document, readObject source value = .ok document) ↔ value.IsQueryDocument := by
  simp only [readObject_eq_ok, readFind_eq_ok, readBody_eq_ok]
  constructor
  · rintro ⟨document, entries, find, body, mapping, known, hasFind, ⟨parts, namedParts⟩, hasBody,
      ⟨lists, three, namedLists⟩⟩
    have findDecoded := value.everywhere_of_get? _ decoded entries _ find mapping hasFind
    have bodyDecoded := value.everywhere_of_get? _ decoded entries _ body mapping hasBody
    obtain ⟨listedFind, scalars⟩ := (readParts_eq_ok source find findDecoded document.find).mp parts
    obtain ⟨items, listedBody, related⟩ := (readLists_eq_ok source body bodyDecoded document.body).mp lists
    refine ⟨entries, find, body, document.find, items, mapping, known, hasFind, listedFind,
      fun part member => ⟨scalars part member, namedParts part member⟩, hasBody, listedBody, ?_⟩
    intro item member
    obtain ⟨parts, inside, listed, scalars⟩ := forall₂_left_mem related item member
    obtain ⟨entity, attr, value, rfl⟩ := List.length_eq_three.mp (three parts inside)
    have isPart (part : Value) (member : part ∈ [entity, attr, value]) : part.IsPart :=
      ⟨scalars part member, namedLists _ inside part member⟩
    exact ⟨entity, attr, value, listed, isPart entity (by simp), isPart attr (by simp), isPart value (by simp)⟩
  · rintro ⟨entries, find, body, parts, items, mapping, known, hasFind, listedFind, isParts, hasBody, listedBody,
      triples⟩
    have findDecoded := value.everywhere_of_get? _ decoded entries _ find mapping hasFind
    have bodyDecoded := value.everywhere_of_get? _ decoded entries _ body mapping hasBody
    have lists : ∃ lists, List.Forall₂ (fun item parts => item.sequence? = some parts ∧ parts.length = 3 ∧
        ∀ part ∈ parts, part.IsPart) items lists := by
      clear listedBody
      induction items with
      | nil => exact ⟨[], .nil⟩
      | cons item rest ih =>
        obtain ⟨entity, attr, value, listed, entityPart, attrPart, valuePart⟩ := triples item (by simp)
        obtain ⟨lists, others⟩ := ih fun other member => triples other (by simp [member])
        refine ⟨[entity, attr, value] :: lists, .cons ⟨listed, rfl, ?_⟩ others⟩
        simp [entityPart, attrPart, valuePart]
    obtain ⟨lists, related⟩ := lists
    have within (parts : List Value) (inside : parts ∈ lists) := forall₂_right_mem related parts inside
    refine ⟨⟨parts, lists⟩, entries, find, body, mapping, known, hasFind, ⟨?_, fun part member =>
      (isParts part member).2⟩, hasBody, ?_, ?_, ?_⟩
    · exact (readParts_eq_ok source find findDecoded parts).mpr
        ⟨listedFind, fun part member => (isParts part member).1⟩
    · refine (readLists_eq_ok source body bodyDecoded lists).mpr ⟨items, listedBody, related.imp ?_⟩
      exact fun item parts holds => ⟨holds.1, fun part member => (holds.2.2 part member).1⟩
    · intro parts inside
      obtain ⟨_, _, _, three, _⟩ := within parts inside
      exact three
    · intro parts inside part member
      obtain ⟨_, _, _, _, isPart⟩ := within parts inside
      exact (isPart part member).2

private theorem toQuery_of_readObject (document : QueryDocument) (read : readObject source value = .ok document) :
    document.toQuery = Query.ofValue value := by
  obtain ⟨entries, find, body, mapping, _, hasFind, findRead, hasBody, bodyRead⟩ :=
    (readObject_eq_ok source value document).mp read
  have findDecoded := value.everywhere_of_get? _ decoded entries _ find mapping hasFind
  have bodyDecoded := value.everywhere_of_get? _ decoded entries _ body mapping hasBody
  obtain ⟨listedFind, _⟩ := (readParts_eq_ok source find findDecoded document.find).mp
    ((readFind_eq_ok source find document.find).mp findRead).1
  obtain ⟨items, listedBody, related⟩ := (readLists_eq_ok source body bodyDecoded document.body).mp
    ((readBody_eq_ok source body document.body).mp bodyRead).1
  have patterns : items.mapM Pattern.ofValue = (document.body.map Value.list).mapM Pattern.ofValue := by
    apply mapM_congr_forall₂
    rw [List.forall₂_map_right_iff]
    exact related.imp fun item parts holds => Pattern.ofValue_sequence item parts holds.1
  rw [Query.ofValue_of_mapping value entries mapping,
    Query.ofEntries_of_sequences entries document.find items (by rw [hasFind]; exact listedFind)
      (by rw [hasBody]; exact listedBody), patterns, QueryDocument.toQuery_eq]

omit decoded

private theorem location_of_located {α : Type} (step : DocumentStep) (checked : Checked α) :
    ∀ issue ∈ issues (located step checked), issue.location.head? = some step := by
  intro issue member
  cases checked with
  | ok value => simp [located, Except.mapError, issues] at member
  | error found =>
    obtain ⟨inner, _, rfl⟩ := List.mem_map.mp member
    rfl

private theorem problem_of_keyIssues (entries : Entries) :
    ∀ issue ∈ keyIssues entries, issue.problem = .unexpectedKey ∨ issue.problem = .keyNotText := by
  intro issue member
  obtain ⟨entry, _, made⟩ := List.mem_filterMap.mp member
  obtain ⟨problem, found, rfl⟩ := Option.map_eq_some_iff.mp made
  change problem = _ ∨ problem = _
  unfold keyProblem? at found
  split at found
  · split at found
    · cases found
    · exact .inl (Option.some.inj found).symm
  · exact .inr (Option.some.inj found).symm

private theorem readBody_wrongArity (lists : List (List Value))
    (read : readList source (readList source readPart) value = .ok lists) (index : Nat) (wrong : List Value)
    (present : lists[index]? = some wrong) (other : wrong.length ≠ 3)
    (least : ∀ earlier < index, ∀ parts, lists[earlier]? = some parts → parts.length = 3) :
    readBody source value = .error [issue (.patternArity index wrong.length)] := by
  have first := wrongArity?_least 0 lists index wrong present other least
  rw [Nat.zero_add] at first
  rw [readBody, read]
  simp only [bind, Except.bind, checkArity, first, atPlace, Except.mapError]

private theorem readObject_of_readBody (entries : Entries) (body : Value) (problem : DocumentProblem)
    (mapping : value.mapping? = some entries) (hasBody : entries.get? Query.bodyKey = some body)
    (failed : readBody source body = .error [issue problem]) :
    readObject source value = .error (issues (readField "find" (readFind source) entries) ++
      [⟨[.key "where"], problem⟩] ++ keyIssues entries) := by
  have atBody : readField "where" (readBody source) entries = .error [⟨[.key "where"], problem⟩] := by
    rw [readField, ← Query.bodyKey, hasBody]
    simp only [failed]
    rfl
  rw [readObject, mapping]
  simp only [readEntries, atBody]
  cases readField "find" (readFind source) entries <;> rfl

end Document

private theorem Query.ofDocument_of_error (payload : Value) (value : payload.isString = false)
    (found : List DocumentIssue) (failed : Document.readObject .value payload = .error found) :
    ofDocument payload = .error (.document found) := by
  rw [ofDocument, Document.check_of_value payload value, failed]
  rfl

private theorem Query.ofDocument_of_ok (payload : Value) (value : payload.isString = false)
    (decoded : payload.Everywhere fun part => part.isDecoded = true) (document : QueryDocument)
    (read : Document.readObject .value payload = .ok document) :
    ofDocument payload = ofValue payload ∧ ∃ query, ofDocument payload = .ok query := by
  have opened : ofDocument payload = document.toQuery := by
    rw [ofDocument, Document.check_of_value payload value, read]
    rfl
  have sound := Document.readObject_sound .value payload document read
  exact ⟨opened.trans (Document.toQuery_of_readObject .value payload decoded document read),
    opened ▸ document.toQuery_isOk sound⟩

/-- A document that is no text is accepted exactly when it is a mapping of the right shape, and then it is the query
that it is shorthand for. Anything else is rejected with issues, and in no other way: what has passed the check is
always read. A pattern of a wrong length is the one issue of the patterns, and the first of them is named even where
a bare mark comes before it. -/
theorem Query.ofDocument_exact (payload : Value) (value : payload.isString = false)
    (decoded : payload.Everywhere fun part => part.isDecoded = true) :
    ((∃ query, ofDocument payload = .ok query) ↔ payload.IsQueryDocument) ∧
    (∀ query, ofDocument payload = .ok query → ofValue payload = .ok query) ∧
    (¬ payload.IsQueryDocument → ∃ found, found ≠ [] ∧ ofDocument payload = .error (.document found)) ∧
    ∀ entries body items lists index wrong, payload.mapping? = some entries → entries.get? bodyKey = some body →
      body.sequence? = some items →
      List.Forall₂ (fun item parts => item.sequence? = some parts ∧ ∀ part ∈ parts, part.isScalar = true)
        items lists →
      lists[index]? = some wrong → wrong.length ≠ 3 →
      (∀ earlier < index, ∀ parts, lists[earlier]? = some parts → parts.length = 3) →
      ∃ ofFind ofKeys, ofDocument payload =
          .error (.document (ofFind ++ [⟨[.key "where"], .patternArity index wrong.length⟩] ++ ofKeys)) ∧
        (∀ issue ∈ ofFind, issue.location.head? = some (.key "find")) ∧
        ∀ issue ∈ ofKeys, issue.problem = .unexpectedKey ∨ issue.problem = .keyNotText := by
  have accepted := Document.readObject_isOk_iff .value payload decoded
  refine ⟨?_, ?_, ?_, ?_⟩
  · rw [← accepted]
    cases result : Document.readObject .value payload with
    | ok document => simp [(ofDocument_of_ok payload value decoded document result).2]
    | error found => simp [ofDocument_of_error payload value found result]
  · intro query read
    cases result : Document.readObject .value payload with
    | ok document => rw [← (ofDocument_of_ok payload value decoded document result).1, read]
    | error found =>
      rw [ofDocument_of_error payload value found result] at read
      cases read
  · intro misshapen
    cases result : Document.readObject .value payload with
    | ok document => exact absurd (accepted.mp ⟨document, result⟩) misshapen
    | error found =>
      refine ⟨found, ?_, ofDocument_of_error payload value found result⟩
      rintro rfl
      exact Document.readObject_blamed .value payload result
  · intro entries body items lists index wrong mapping hasBody listedBody related present other least
    have bodyDecoded := payload.everywhere_of_get? _ decoded entries _ body mapping hasBody
    have read := (Document.readLists_eq_ok .value body bodyDecoded lists).mpr ⟨items, listedBody, related⟩
    have failed := Document.readBody_wrongArity .value body lists read index wrong present other least
    exact ⟨_, _, ofDocument_of_error payload value _ (Document.readObject_of_readBody .value payload entries body _
      mapping hasBody failed), Document.location_of_located _ _, Document.problem_of_keyIssues entries⟩

def Value.shortAfterMark : Value :=
  .dict [(.text "find", .list []),
    (.text "where", .tuple [.list [.text "?", .int 1, .null], .list [.text "alice"]])]

theorem Query.ofDocument_exact_shortAfterMark :
    Value.shortAfterMark.isString = false ∧ Value.shortAfterMark.Everywhere (fun part => part.isDecoded = true) ∧
      ¬ Value.shortAfterMark.IsQueryDocument ∧
      ∃ ofFind ofKeys, ofDocument .shortAfterMark =
        .error (.document (ofFind ++ [⟨[.key "where"], .patternArity 1 1⟩] ++ ofKeys)) := by
  have scalar (part : Value) (scalar : part.isScalar = true) :
      part.Everywhere fun part => part.isDecoded = true := by
    refine (Value.everywhere_of_isScalar _ part scalar).mpr ?_
    cases part with
    | bytes | pattern => cases scalar
    | _ => rfl
  have decoded : Value.shortAfterMark.Everywhere fun part => part.isDecoded = true := by
    refine .intro _ rfl ?_
    simp only [Value.shortAfterMark, Value.components, List.flatMap_cons, List.flatMap_nil, List.cons_append,
      List.nil_append, List.forall_mem_cons, List.not_mem_nil, false_implies, implies_true, and_true]
    refine ⟨scalar _ rfl, .intro _ rfl (by simp [Value.components]), scalar _ rfl, .intro _ rfl ?_⟩
    simp only [Value.components, List.forall_mem_cons, List.not_mem_nil, false_implies, implies_true, and_true]
    refine ⟨.intro _ rfl ?_, .intro _ rfl ?_⟩
    · simp only [Value.components, List.forall_mem_cons, List.not_mem_nil, false_implies, implies_true, and_true]
      exact ⟨scalar _ rfl, scalar _ rfl, scalar _ rfl⟩
    · simpa only [Value.components, List.forall_mem_singleton] using scalar _ rfl
  obtain ⟨accepted, _, _, arity⟩ := ofDocument_exact .shortAfterMark rfl decoded
  obtain ⟨ofFind, ofKeys, failed, _⟩ := arity _ _ _ [[.text "?", .int 1, .null], [.text "alice"]] 1 [.text "alice"]
    rfl rfl rfl (.cons ⟨rfl, by decide⟩ (.cons ⟨rfl, by decide⟩ .nil)) rfl (by decide) (by
      intro earlier before parts present
      cases Nat.lt_one_iff.mp before
      cases present
      rfl)
  refine ⟨rfl, decoded, fun shaped => ?_, ofFind, ofKeys, failed⟩
  obtain ⟨query, read⟩ := accepted.mpr shaped
  rw [failed] at read
  cases read

end TripleQuery
