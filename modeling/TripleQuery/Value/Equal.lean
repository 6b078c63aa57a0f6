import TripleQuery.Value.Basic

/-!
Equality of values. Numbers are compared by what they are worth and truth values count as numbers;
sequences are compared place by place, and dictionaries and bindings without regard to order. NaN equals
nothing. `Value.same` is the finer relation that matching uses: it keeps a truth value apart from a number. The
entries of a mapping are searched by equality of keys.
-/

namespace TripleQuery

inductive Number where
  | int (value : Int)
  | float (value : Binary64)

namespace Number

def equals : Number → Number → Bool
  | int left, int right => left == right
  | int left, float right => right.equalsInt left
  | float left, int right => left.equalsInt right
  | float left, float right => left.equals right

end Number

def Value.number? : Value → Option Number
  | .bool value => some (.int value.toInt)
  | .int value => some (.int value)
  | .float value => some (.float value)
  | _ => none

def Number.isWorth (number : Number) (value : Value) : Bool :=
  match value.number? with
  | some other => number.equals other
  | none => false

mutual

def Value.equals : Value → Value → Bool
  | .bool left, right => (Number.int left.toInt).isWorth right
  | .int left, right => (Number.int left).isWorth right
  | .float left, right => (Number.float left).isWorth right
  | .null, .null => true
  | .text left, .text right => left == right
  | .bytes left, .bytes right => left == right
  | .list left, .list right | .tuple left, .tuple right => equalItems left right
  | .dict left, .dict right | .dict left, .bindings right
  | .bindings left, .dict right | .bindings left, .bindings right =>
    left.length == right.length && entriesWithin left right
  | .term left, .term right => left.equals right
  | .pattern left, .pattern right => left.equals right
  | .query left, .query right => left.equals right
  | .settings left, .settings right => left == right
  | _, _ => false
termination_by structural left => left

def equalItems : List Value → List Value → Bool
  | [], [] => true
  | left :: lefts, right :: rights => left.equals right && equalItems lefts rights
  | _, _ => false
termination_by structural lefts => lefts

def entriesWithin : List (Value × Value) → List (Value × Value) → Bool
  | [], _ => true
  | (key, value) :: rest, entries =>
    entries.any (fun entry => key.equals entry.1 && value.equals entry.2) && entriesWithin rest entries
termination_by structural entries => entries

def Term.equals : Term → Term → Bool
  | .var left, .var right => left == right
  | .const left, .const right => left.equals right
  | _, _ => false
termination_by structural left => left

def Pattern.equals : Pattern → Pattern → Bool
  | ⟨entity, attr, value⟩, right =>
    entity.equals right.entity && attr.equals right.attr && value.equals right.value
termination_by structural left => left

def Query.equals : Query → Query → Bool
  | ⟨find, body⟩, right => equalTerms find right.find && equalPatterns body right.body
termination_by structural left => left

def equalTerms : List Term → List Term → Bool
  | [], [] => true
  | left :: lefts, right :: rights => left.equals right && equalTerms lefts rights
  | _, _ => false
termination_by structural lefts => lefts

def equalPatterns : List Pattern → List Pattern → Bool
  | [], [] => true
  | left :: lefts, right :: rights => left.equals right && equalPatterns lefts rights
  | _, _ => false
termination_by structural lefts => lefts

end

namespace Value

/-- Equality that keeps truth values apart from numbers, though not those held inside another value. -/
def same (left right : Value) : Bool := left.isBool == right.isBool && left.equals right

end Value

namespace Entries

def get? (entries : Entries) (key : Value) : Option Value :=
  (entries.find? fun entry => entry.1.equals key).map Prod.snd

def hasKey (entries : Entries) (key : Value) : Bool := entries.any fun entry => entry.1.equals key

/-- The entries with a value under a key: in the place of an equal key, which stays, or at the end. -/
def insert (entries : Entries) (key value : Value) : Entries :=
  match entries with
  | [] => [(key, value)]
  | entry :: rest =>
    if entry.1.equals key then (entry.1, value) :: rest else entry :: Entries.insert rest key value

end Entries

end TripleQuery
