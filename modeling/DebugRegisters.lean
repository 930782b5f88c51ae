import DebugRegisters.Kernel.FixedReply
import DebugRegisters.Main
import DebugRegisters.Session.Stop
import DebugRegisters.SlotTable.Lemmas
import DebugRegisters.ThreadPoints.Lemmas
import DebugRegisters.Proofs.Kernel.Calls
import DebugRegisters.Proofs.Session.Placement
import DebugRegisters.Proofs.Session.Preservation
import DebugRegisters.Proofs.Session.Capabilities
import DebugRegisters.Proofs.Session.Events
import DebugRegisters.Proofs.Session.Flushing
import DebugRegisters.Proofs.SlotTable.Registers
import DebugRegisters.Proofs.ThreadPoints.Settled
import DebugRegisters.Proofs.Session.WriteBack.Steps
import DebugRegisters.Proofs.Session.Arrivals
import DebugRegisters.Proofs.Session.WriteBack
import DebugRegisters.Proofs.Encoding.Restricted
import DebugRegisters.Proofs.Encoding.Shape
import DebugRegisters.Proofs.Session.Accounting.Held
import DebugRegisters.Proofs.Session.Accounting.Changes
import DebugRegisters.Proofs.Session.Accounting.Balance
import DebugRegisters.Proofs.Session.Accounting.Ledger
import DebugRegisters.Proofs.Session.Accounting.Steps
import DebugRegisters.Proofs.Session.Accounting.Threads
import DebugRegisters.Proofs.Session.Accounting
import DebugRegisters.Proofs.Arm.ControlWord
import DebugRegisters.Proofs.Encoding.Coverage
import DebugRegisters.Proofs.Session.Coverage
import DebugRegisters.Proofs.Encoding.Precise
import DebugRegisters.Proofs.Session.Parallel
import DebugRegisters.Proofs.Session.Parallel.Operations
import DebugRegisters.Proofs.Session.Rejection
import DebugRegisters.Proofs.Session.LateRestriction
import DebugRegisters.Proofs.Kernel.Effects
import DebugRegisters.Proofs.Session.Calling
import DebugRegisters.Proofs.Session.Following
import DebugRegisters.Proofs.Session.Invariants
import DebugRegisters.Proofs.Session.Journal
import DebugRegisters.Proofs.Session.Slots
import DebugRegisters.Proofs.Session.Tables
import DebugRegisters.Proofs.SlotTable.Undoing
import DebugRegisters.Proofs.Session.Undoing
import DebugRegisters.Proofs.Session.Requests
import DebugRegisters.Proofs.Session.FailedInsertion
import DebugRegisters.Proofs.Session.Deferred
import DebugRegisters.Proofs.Session.Agreement
import DebugRegisters.Proofs.SlotTable.Room
import DebugRegisters.Proofs.SlotTable.Replacing
import DebugRegisters.Proofs.Session.Steady
import DebugRegisters.Proofs.Session.Taking
import DebugRegisters.Proofs.Session.Restoring
import DebugRegisters.Proofs.Session.FailedRemoval
import DebugRegisters.Proofs.Kernel.Placing
import DebugRegisters.Proofs.SlotTable.Mirror
import DebugRegisters.Proofs.Session.Mirrored
import DebugRegisters.Proofs.Session.Replication
import DebugRegisters.Proofs.Session.Registrations
import DebugRegisters.Proofs.SlotTable.References
import DebugRegisters.Proofs.Encoding.Masked
import DebugRegisters.Proofs.Kernel.Rejecting
import DebugRegisters.Proofs.Session.Conforming
import DebugRegisters.Proofs.Session.Degrading
import DebugRegisters.Proofs.Encoding.Windows
import DebugRegisters.Proofs.Encoding.Tiling
import DebugRegisters.Proofs.Encoding.ExactCover
import DebugRegisters.Proofs.Encoding.Counting
import DebugRegisters.Proofs.Session.Alike
import DebugRegisters.Proofs.Session.DataBreakpoint.Changes
import DebugRegisters.Proofs.Session.DataBreakpoint
import DebugRegisters.Proofs.SlotTable.Merging
import DebugRegisters.Proofs.SlotTable.Comparators
import DebugRegisters.Proofs.Session.Pausing
import DebugRegisters.Proofs.Session.Comparators
import DebugRegisters.Proofs.Power.ValueComparator
import DebugRegisters.Proofs.Condition.Acceleration
import DebugRegisters.Proofs.Kernel.Owning
import DebugRegisters.Proofs.Session.Renewal
import DebugRegisters.Proofs.Session.Owning
import DebugRegisters.Proofs.Session.FailedArrival
import DebugRegisters.Proofs.Encoding.Reach
import DebugRegisters.Proofs.Session.Stops
import DebugRegisters.Proofs.Session.Watchable
import DebugRegisters.Proofs.Session.Acceleration
import DebugRegisters.Proofs.Session.Reannouncing
import DebugRegisters.Proofs.SlotTable.Rewriting
import DebugRegisters.Proofs.SlotTable.Admission
import DebugRegisters.Proofs.Kernel.HandleContract
import DebugRegisters.Proofs.Session.HandleReuse
import DebugRegisters.Proofs.Session.RoundTrip
import DebugRegisters.Proofs.Encoding.Hull
import DebugRegisters.Proofs.Power.Granules
import DebugRegisters.Proofs.Session.Triggers
import DebugRegisters.Proofs.MaskTable.Reading
import DebugRegisters.Proofs.MaskTable.Minimal
import DebugRegisters.Proofs.Text.Numeral
import DebugRegisters.Proofs.Replay.Grammar
import DebugRegisters.Proofs.Encoding.Handles
import DebugRegisters.Proofs.Kernel.Serving
import DebugRegisters.Proofs.Kernel.Runs
