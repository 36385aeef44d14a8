import Unbundle.Airline.Direct.Payments
import Unbundle.Airline.Linked.Payments
import Unbundle.Index.Checkup
import Unbundle.Main
import Unbundle.Proofs.Airline.CancelledBookings
import Unbundle.Proofs.Airline.DirectCompensation
import Unbundle.Proofs.Airline.LinkedFunctions
import Unbundle.Proofs.Airline.SeatBalance
import Unbundle.Proofs.Analysis.DeclaredPackages
import Unbundle.Proofs.Analysis.ScriptCalls
import Unbundle.Proofs.Analysis.ScriptRanges
import Unbundle.Proofs.Analysis.Tags
import Unbundle.Proofs.Cart.Checkout
import Unbundle.Proofs.Cart.Details
import Unbundle.Proofs.Document.Passage
import Unbundle.Proofs.Files.Reach
import Unbundle.Proofs.Index.Windows
import Unbundle.Proofs.Performance.ToolTotals
import Unbundle.Proofs.Todo.Entries
import Unbundle.Service.Session
import Unbundle.Workload.Summary
