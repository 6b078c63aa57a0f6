/-!
What can be wrong with a query document, and where. An issue is data; its code and its sentence are
computed from it.
-/

namespace TripleQuery

/-- Whether a document came as text or as a value, which shows in the wording alone. -/
inductive DocumentSource where
  | text
  | value
deriving DecidableEq

inductive ScalarKind where
  | bool
  | int
  | float
  | text
deriving DecidableEq

inductive DocumentStep where
  | key (name : String)
  | index (position : Int)
deriving DecidableEq

inductive DocumentProblem where
  | malformedText
  | notObject (source : DocumentSource)
  | notList (source : DocumentSource)
  | missing
  | unexpectedKey
  | keyNotText
  | notKind (kind : ScalarKind)
  | unreadable (kind : ScalarKind)
  | patternArity (index parts : Nat)
  | bareMark
deriving DecidableEq

structure DocumentIssue where
  location : List DocumentStep
  problem : DocumentProblem
deriving DecidableEq

namespace ScalarKind

def all : List ScalarKind := [bool, int, float, text]

def label : ScalarKind → String
  | bool => "bool"
  | int => "int"
  | float => "float"
  | text => "str"

def codeStem : ScalarKind → String
  | bool => "bool"
  | int => "int"
  | float => "float"
  | text => "string"

def noun : ScalarKind → String
  | bool => "boolean"
  | int => "integer"
  | float => "number"
  | text => "string"

def unreadableCode : ScalarKind → String
  | bool => "bool_parsing"
  | int => "int_parsing"
  | float => "float_parsing"
  | text => "string_unicode"

def unreadableReason : ScalarKind → String
  | bool => "unable to interpret input"
  | int => "unable to parse string as an integer"
  | float => "unable to parse string as a number"
  | text => "unable to parse raw data as a unicode string"

end ScalarKind

namespace DocumentProblem

def code : DocumentProblem → String
  | malformedText => "json_invalid"
  | notObject _ => "model_type"
  | notList _ => "list_type"
  | missing => "missing"
  | unexpectedKey => "extra_forbidden"
  | keyNotText => "invalid_key"
  | notKind kind => kind.codeStem ++ "_type"
  | unreadable kind => kind.unreadableCode
  | patternArity _ _ | bareMark => "value_error"

/-- The sentence for a problem. Malformed text has none of its own: what is said about it depends on the
reader. -/
def message? : DocumentProblem → Option String
  | malformedText => none
  | notObject .text => some "Input should be an object"
  | notObject .value => some "Input should be a valid dictionary or instance of QueryDocument"
  | notList .text => some "Input should be a valid array"
  | notList .value => some "Input should be a valid list"
  | missing => some "Field required"
  | unexpectedKey => some "Extra inputs are not permitted"
  | keyNotText => some "Keys should be strings"
  | notKind kind => some ("Input should be a valid " ++ kind.noun)
  | unreadable kind => some ("Input should be a valid " ++ kind.noun ++ ", " ++ kind.unreadableReason)
  | patternArity index parts =>
    some ("Value error, where[" ++ toString index ++ "] must have 3 parts, got " ++ toString parts)
  | bareMark => some "Value error, variable name must follow '?'"

end DocumentProblem

end TripleQuery
