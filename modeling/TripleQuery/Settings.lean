/-!
The two settings of an engine: how a pattern picks the index it reads, and what becomes of a projected
variable that no pattern binds.
-/

namespace TripleQuery

/-- How a pattern with literals picks the index bucket it reads: by the first literal, or by the one whose
bucket is smallest. -/
inductive IndexPolicy where
  | fixed
  | selective
deriving DecidableEq, Inhabited

/-- What becomes of a projected variable that has no value: null, null with a warning, or an error. -/
inductive UnboundPolicy where
  | absent
  | warn
  | reject
deriving DecidableEq, Inhabited

namespace IndexPolicy

def all : List IndexPolicy := [fixed, selective]

def name : IndexPolicy → String
  | fixed => "fixed"
  | selective => "selective"

def named? (text : String) : Option IndexPolicy := all.find? fun policy => policy.name == text

end IndexPolicy

namespace UnboundPolicy

def all : List UnboundPolicy := [absent, warn, reject]

def name : UnboundPolicy → String
  | absent => "absent"
  | warn => "warn"
  | reject => "error"

def named? (text : String) : Option UnboundPolicy := all.find? fun policy => policy.name == text

end UnboundPolicy

structure Settings where
  indexPolicy : IndexPolicy := .fixed
  unbound : UnboundPolicy := .absent
deriving DecidableEq, Inhabited

end TripleQuery
