import TripleQuery.Document.Lenient
import TripleQuery.Json.Reader
import TripleQuery.Query

/-!
Query documents: an object with the lists `find` and `where` and nothing else, whose parts are scalars. All
issues of a document are reported together: those of `find`, those of `where`, then the other keys. The schema of
documents is a value with a JSON form.
-/

namespace TripleQuery

namespace DocumentIssue

def under (step : DocumentStep) (issue : DocumentIssue) : DocumentIssue :=
  { issue with location := step :: issue.location }

end DocumentIssue

structure QueryDocument where
  find : List Value
  body : List (List Value)

namespace Document

abbrev Checked := Except (List DocumentIssue)

def issue (problem : DocumentProblem) : DocumentIssue := ⟨[], problem⟩

def issues {α : Type} : Checked α → List DocumentIssue
  | .ok _ => []
  | .error found => found

def located {α : Type} (step : DocumentStep) (checked : Checked α) : Checked α :=
  checked.mapError (List.map (DocumentIssue.under step))

/-- A scalar is kept as it is, and bytes are read as one. Any other value has a problem with each kind. -/
def readPart (value : Value) : Checked Value :=
  if value.isScalar then .ok value
  else match value with
    | .bytes bytes =>
      match scalarOfBytes? bytes with
      | some scalar => .ok scalar
      | none => .error (ScalarKind.all.map fun kind => ⟨[.key kind.label], .unreadable kind⟩)
    | _ => .error (ScalarKind.all.map fun kind => ⟨[.key kind.label], .notKind kind⟩)

def readItems {α : Type} (read : Value → Checked α) (index : Nat) : List Value → Checked (List α)
  | [] => .ok []
  | item :: rest =>
    match located (.index index) (read item), readItems read (index + 1) rest with
    | .ok first, .ok others => .ok (first :: others)
    | first, others => .error (issues first ++ issues others)

def listItems? : Value → Option (List Value)
  | .list items | .tuple items => some items
  | .pattern value => some value.places
  | _ => none

def readList {α : Type} (source : DocumentSource) (read : Value → Checked α) (value : Value) :
    Checked (List α) :=
  match listItems? value with
  | some items => readItems read 0 items
  | none => .error [issue (.notList source)]

def wrongArity? (index : Nat) : List (List Value) → Option (Nat × Nat)
  | [] => none
  | parts :: rest => if parts.length = 3 then wrongArity? (index + 1) rest else some (index, parts.length)

def checkArity (lists : List (List Value)) : Except DocumentProblem Unit :=
  match wrongArity? 0 lists with
  | some (index, parts) => .error (.patternArity index parts)
  | none => .ok ()

def checkNames (parts : List Value) : Except DocumentProblem Unit :=
  if parts.any fun part => part.equals (.text bareMark) then .error .bareMark else .ok ()

def atPlace {α : Type} (result : Except DocumentProblem α) : Checked α :=
  result.mapError fun problem => [issue problem]

def readFind (source : DocumentSource) (value : Value) : Checked (List Value) := do
  let parts ← readList source readPart value
  atPlace (checkNames parts)
  .ok parts

def readBody (source : DocumentSource) (value : Value) : Checked (List (List Value)) := do
  let lists ← readList source (readList source readPart) value
  atPlace (checkArity lists)
  atPlace (checkNames lists.flatten)
  .ok lists

def readField {α : Type} (name : String) (read : Value → Checked α) (entries : Entries) : Checked α :=
  located (.key name) (match entries.get? (.text name) with
    | some value => read value
    | none => .error [issue .missing])

def keys : List String := ["find", "where"]

/-- The step to the value under a key: integers within 64 bits are positions, and other keys that are no
text go by their text. -/
def stepOfKey (key : Value) : DocumentStep :=
  match key with
  | .bool value => .index value.toInt
  | .int value =>
    if Int64.minValue.toInt ≤ value ∧ value ≤ Int64.maxValue.toInt then .index value else .key key.label
  | _ => .key key.label

def keyProblem? : Value → Option DocumentProblem
  | .text name => if keys.contains name then none else some .unexpectedKey
  | _ => some .keyNotText

def keyIssues (entries : Entries) : List DocumentIssue :=
  entries.filterMap fun entry =>
    (keyProblem? entry.1).map fun problem => (issue problem).under (stepOfKey entry.1)

def readEntries (source : DocumentSource) (entries : Entries) : Checked QueryDocument :=
  let find := readField "find" (readFind source) entries
  let body := readField "where" (readBody source) entries
  match find, body, keyIssues entries with
  | .ok find, .ok body, [] => .ok ⟨find, body⟩
  | find, body, others => .error (issues find ++ issues body ++ others)

def readObject (source : DocumentSource) (value : Value) : Checked QueryDocument :=
  match value.mapping? with
  | some entries => readEntries source entries
  | none => .error [issue (.notObject source)]

def readJson (text : Option String) : Checked QueryDocument :=
  match text.bind Json.read with
  | some value => readObject .text value
  | none => .error [issue .malformedText]

/-- Text and bytes hold a document in JSON, any other value is the document itself. -/
def check : Value → Checked QueryDocument
  | .text text => readJson (some text)
  | .bytes bytes => readJson (Text.ofBytes? bytes)
  | value => readObject .value value

def schemaObject (entries : List (String × Value)) : Value :=
  .dict (entries.map fun entry => (.text entry.1, entry.2))

def partSchema : Value :=
  let kinds := ["boolean", "integer", "number", "string", "null"]
  schemaObject [("anyOf", .list (kinds.map fun kind => schemaObject [("type", .text kind)]))]

def arraySchema (items : Value) : List (String × Value) := [("items", items), ("type", .text "array")]

def fieldSchema (title description : String) (items : Value) : Value :=
  schemaObject ([("description", .text description)] ++ arraySchema items ++ [("title", .text title)])

def schema : Value :=
  schemaObject [
    ("additionalProperties", .bool false),
    ("description", .text "Wire shape of a ``\x7bfind, where\x7d`` query."),
    ("properties", schemaObject [
      ("find", fieldSchema "Find" "Projection: variables or literals." partSchema),
      ("where", fieldSchema "Where" "Triple patterns, joined left to right."
        (schemaObject (arraySchema partSchema)))]),
    ("required", .list [.text "find", .text "where"]),
    ("title", .text "QueryDocument"),
    ("type", .text "object")]

end Document

namespace QueryDocument

def toValue (document : QueryDocument) : Value :=
  .dict [(Query.findKey, .list document.find), (Query.bodyKey, .list (document.body.map Value.list))]

def toQuery (document : QueryDocument) : Except QueryError Query := Query.ofValue document.toValue

end QueryDocument

/-- The query of a document: once the document is checked it is read like any other shorthand. -/
def Query.ofDocument (document : Value) : Except QueryError Query := do
  let checked ← (Document.check document).mapError QueryError.document
  checked.toQuery

end TripleQuery
