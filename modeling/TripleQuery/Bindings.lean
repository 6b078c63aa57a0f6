import TripleQuery.Error
import TripleQuery.Value.Equal
import TripleQuery.Value.Items

/-!
Binding contexts: what the variables met so far stand for, in the order in which they were bound. A context
is extended and never changed. Failure is the absence of a context, which is not the empty one.
-/

namespace TripleQuery

namespace Entries

def pairOf (given : Value) : Except Fault (Value × Value) :=
  match given.items? with
  | none => .error .notIterable
  | some [key, value] => if key.hashable then .ok (key, value) else .error .unhashableKey
  | some _ => .error .pairLength

def insertPairs : Entries → List Value → Except Fault Entries
  | entries, [] => .ok entries
  | entries, given :: rest => do
    let (key, value) ← pairOf given
    insertPairs (entries.insert key value) rest

end Entries

structure Bindings where
  entries : Entries

namespace Bindings

def empty : Bindings := ⟨[]⟩

def get? (context : Bindings) (name : Value) : Option Value := context.entries.get? name

def binds (context : Bindings) (name : Value) : Bool := context.entries.hasKey name

def value? (context : Bindings) (name : Variable) : Option Value := context.get? (.text name.name)

def bind (context : Bindings) (name : Variable) (value : Value) : Bindings :=
  ⟨context.entries ++ [(.text name.name, value)]⟩

def extend (context : Bindings) (name value : Value) : Except Error Bindings :=
  if !name.hashable then .error (.fault .unhashableKey)
  else if context.binds name then .error (Error.alreadyBound name).raised
  else .ok ⟨context.entries ++ [(name, value)]⟩

def get (context : Bindings) (name : Value) : Except Fault Value :=
  if !name.hashable then .error .unhashableKey
  else match context.get? name with
    | some value => .ok value
    | none => .error .missingKey

def has (context : Bindings) (name : Value) : Except Fault Bool :=
  if !name.hashable then .error .unhashableKey else .ok (context.binds name)

/-- The context that a value stands for: null is failure, anything blank is the empty context, and the
rest is a mapping or a run of pairs. -/
def ofValue : Value → Except Fault (Option Bindings)
  | .null => .ok none
  | .bindings entries | .dict entries => .ok (some ⟨entries⟩)
  | given =>
    if given.isBlank then .ok (some empty)
    else match given.items? with
      | some items => (Entries.insertPairs [] items).map fun entries => some ⟨entries⟩
      | none => .error .notIterable

def toValue (context : Bindings) : Value := .bindings context.entries

end Bindings

end TripleQuery
