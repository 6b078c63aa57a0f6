import TripleQuery.Error

/-!
Outcomes: a result or a failure, beside what was noted on the way. Notes made before a failure are kept. They
never decide a result: `Outcome.bind` hands on the value alone.
-/

namespace TripleQuery

inductive Event where
  | built (facts entities attrs values : Nat)
  | fullScan (parts : List Value)
  | indexRead (field : Field) (key : Value) (candidates : Nat) (parts : List Value)
  | joined (step : Nat) (parts : List Value) (contexts : Nat)
  | answered (rows : Nat)

inductive EventSource where
  | store
  | candidates
  | join
  | projection

namespace Event

def source : Event → EventSource
  | built .. => .store
  | fullScan .. | indexRead .. => .candidates
  | joined .. => .join
  | answered .. => .projection

/-- The text of an event. It is written for who reads the notes, after the event, so that it decides no result. -/
def message : Event → Except Fault String
  | built facts entities attrs values =>
    .ok ("Built store: " ++ toString facts ++ " triples, " ++ toString entities ++ " entities, " ++
      toString attrs ++ " attributes, " ++ toString values ++ " values")
  | fullScan parts => (Value.list parts).render.map fun parts => "Full scan for " ++ parts
  | indexRead field key candidates parts => do
    let key ← key.render
    let parts ← (Value.list parts).render
    .ok ("Index " ++ field.name ++ "=" ++ key ++ " -> " ++ toString candidates ++ " candidates for " ++ parts)
  | joined step parts contexts =>
    (Value.list parts).render.map fun parts =>
      "Join step " ++ toString step ++ " " ++ parts ++ ": " ++ toString contexts ++ " contexts"
  | answered rows => .ok ("Query returned " ++ toString rows ++ " rows")

end Event

structure Warning where
  name : String

def Warning.message (warning : Warning) : String :=
  "Unbound variable in projection: " ++ warning.name ++ "; using None"

/-- A result or a failure, with the events and warnings noted on the way to it. -/
structure Outcome (α : Type) where
  result : Except Error α
  events : List Event := []
  warnings : List Warning := []

namespace Outcome

variable {α β : Type}

def ok (value : α) : Outcome α := { result := .ok value }

def fail (error : Error) : Outcome α := { result := .error error }

def bind (first : Outcome α) (next : α → Outcome β) : Outcome β :=
  match first.result with
  | .error error => ⟨.error error, first.events, first.warnings⟩
  | .ok value =>
    let second := next value
    ⟨second.result, first.events ++ second.events, first.warnings ++ second.warnings⟩

instance : Monad Outcome where
  pure := ok
  bind := bind

instance : MonadLift (Except Error) Outcome := ⟨fun result => { result }⟩

def note (event : Event) : Outcome Unit := { result := .ok (), events := [event] }

def warn (warning : Warning) : Outcome Unit := { result := .ok (), warnings := [warning] }

instance : LawfulMonad Outcome := LawfulMonad.mk' Outcome
  (fun first => by
    obtain ⟨result, events, warnings⟩ := first
    cases result <;> simp [Functor.map, bind, ok])
  (fun value next => by simp [pure, Bind.bind, bind, ok])
  (fun first next last => by
    obtain ⟨result, events, warnings⟩ := first
    cases result with
    | error error => rfl
    | ok value =>
      simp only [Bind.bind, bind]
      cases (next value).result <;> simp)

theorem result_bind (first : Outcome α) (next : α → Outcome β) :
    (first >>= next).result = first.result >>= fun value => (next value).result := by
  cases first with
  | mk result events warnings => cases result <;> rfl

end Outcome

end TripleQuery
