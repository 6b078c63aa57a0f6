import TripleQuery.Json.Writer
import TripleQuery.Engine
import TripleQuery.Proofs.IndexPolicy
import TripleQuery.Proofs.JoinOrder
import TripleQuery.Proofs.StoreContents
import TripleQuery.Proofs.Unification
import TripleQuery.Proofs.Renaming
import TripleQuery.Proofs.Domain
import TripleQuery.Proofs.Projection
import TripleQuery.Proofs.Assembly
import TripleQuery.Proofs.Shorthand
import TripleQuery.Proofs.Document.Reading
import TripleQuery.Proofs.Document.Validation
import TripleQuery.Proofs.Binary64.Shortest
import TripleQuery.Proofs.Document.Roundtrip
import TripleQuery.Proofs.Store.Grouping
import TripleQuery.Proofs.Store.Retrieval
import TripleQuery.Proofs.Store.Rows
import TripleQuery.Proofs.Substitution
import TripleQuery.Proofs.Repetition
import TripleQuery.Proofs.Verbosity
import TripleQuery.Proofs.Value.Reordering
import TripleQuery.Proofs.Engine
