import PrefetchInfo.Allocation.Heap
import PrefetchInfo.Allocation.Report
import PrefetchInfo.CommandLine.LogFilter
import PrefetchInfo.CommandLine.Run
import PrefetchInfo.Error.Backtrace
import PrefetchInfo.Status
import PrefetchInfo.Main
import PrefetchInfo.Pattern.Token
import PrefetchInfo.Pattern.Draft
import PrefetchInfo.Proofs.Output.Conservation
import PrefetchInfo.Proofs.Device.Calls
import PrefetchInfo.Proofs.Output.Repetition
import PrefetchInfo.Proofs.Output.HeldLines
import PrefetchInfo.Proofs.Files.Tree
import PrefetchInfo.Proofs.Notify.Account
import PrefetchInfo.Proofs.World.Account
import PrefetchInfo.Proofs.Notify.Calls
import PrefetchInfo.Proofs.Notify.Balance
import PrefetchInfo.Proofs.Notify.Failure
import PrefetchInfo.Proofs.Notify.Routing
import PrefetchInfo.Proofs.Codepage.Tables
import PrefetchInfo.Proofs.Codepage.Naming
import PrefetchInfo.Proofs.Status.Causes
import PrefetchInfo.Proofs.Error.Growth
import PrefetchInfo.Proofs.CommandLine.Result
import PrefetchInfo.Proofs.CommandLine.Truncation
import PrefetchInfo.Proofs.Interrupt.Throughout
import PrefetchInfo.Proofs.Interrupt.Requests
import PrefetchInfo.Proofs.Interrupt.Trapping
import PrefetchInfo.Proofs.Interrupt.Arrivals
import PrefetchInfo.Proofs.History
import PrefetchInfo.Proofs.Interrupt.Dispatch
import PrefetchInfo.Proofs.Signature.Reading
import PrefetchInfo.Proofs.Signature.Portions
import PrefetchInfo.Proofs.Info.Lifecycle
import PrefetchInfo.Proofs.CommandLine.Diagnostics
import PrefetchInfo.Proofs.Allocation.Counting
import PrefetchInfo.Proofs.Signature.Layouts
import PrefetchInfo.Proofs.Error.Renderings
import PrefetchInfo.Proofs.HexDump.Layout
import PrefetchInfo.Proofs.Device.Capacity
import PrefetchInfo.Proofs.Error.Delivery
import PrefetchInfo.Proofs.Device.Rejection
import PrefetchInfo.Proofs.Notify.Rejection
import PrefetchInfo.Proofs.Notify.Sequence
import PrefetchInfo.Proofs.Info.Stages
import PrefetchInfo.Proofs.Codepage.Spelling
import PrefetchInfo.Proofs.Info.Reading
import PrefetchInfo.Proofs.Device.Pieces
import PrefetchInfo.Proofs.Codepage.Numbers
import PrefetchInfo.Interrupt.Handling
import PrefetchInfo.Proofs.Allocation.Reporting
import PrefetchInfo.Proofs.Error.Walking
