import Tabulate.LogLevel
import Tabulate.Settings
import Tabulate.Proofs.Counts
import Tabulate.Proofs.Http.Confidentiality
import Tabulate.Proofs.Http.Charts
import Tabulate.Proofs.Http.Refinement
import Tabulate.Proofs.Http.RoundTrip
import Tabulate.Proofs.Http.StrictJson
import Tabulate.Proofs.Totals
import Tabulate.Proofs.PushDown
import Tabulate.Proofs.Query.Checks
import Tabulate.Proofs.RollUp
import Tabulate.Proofs.Store.Atomic
import Tabulate.Proofs.Store.Search
import Tabulate.Proofs.Store.WellFormed
import Tabulate.Proofs.Keys
import Tabulate.Proofs.Masks
import Tabulate.Proofs.Csv.Numbers
import Tabulate.Proofs.Store.Listing
import Tabulate.Proofs.Store.Owners
import Tabulate.Proofs.Shaping
import Tabulate.Proofs.IntegerSums
import Tabulate.Proofs.Filters
import Tabulate.Proofs.Headings
import Tabulate.Proofs.Number.Spelling
