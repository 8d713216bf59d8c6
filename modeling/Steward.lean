import Steward.Memory.Load
import Steward.Session.Script
import Steward.Session.Runner
import Steward.Proofs.Domain.Conservation
import Steward.Proofs.Host.Metering
import Steward.Proofs.Host.Budget
import Steward.Proofs.Host.Placement
import Steward.Proofs.Host.Recall
import Steward.Proofs.Host.Deadlock
import Steward.Proofs.Host.Notices
import Steward.Proofs.Host.Admission
import Steward.Proofs.Host.Pending
import Steward.Proofs.Completion.Tally
import Steward.Proofs.Host.Objects
import Steward.Proofs.Host.Turns
import Steward.Proofs.Host.Begun
import Steward.Proofs.Host.Scene
import Steward.Proofs.Sync.Section
import Steward.Proofs.Sync.Slots
import Steward.Proofs.Sync.Signals
import Steward.Proofs.Sync.Waking
import Steward.Proofs.Host.Course
import Steward.Proofs.Host.Roster
import Steward.Proofs.Sync.Alerts
import Steward.Proofs.Tasks.Registration
import Steward.Proofs.Tasks.Lifecycle
import Steward.Proofs.Tasks.Departure
import Steward.Proofs.Domain.MainThread
import Steward.Proofs.Domain.Incarnation
import Steward.Proofs.Domain.Denial
import Steward.Proofs.Host.Denials
import Steward.Proofs.Domain.Dues
import Steward.Proofs.Memory.Committed
import Steward.Proofs.Host.Bill
import Steward.Proofs.Host.Forgetting
import Steward.Proofs.Host.Heaps
import Steward.Proofs.Trace.Following
import Steward.Proofs.Trace.Buffer
import Steward.Proofs.Trace.Lines
import Steward.Proofs.Completion.Table
import Steward.Proofs.Tasks.Rank
import Steward.Proofs.Deadlock.Exact
import Steward.Proofs.Deadlock.Honest
import Steward.Proofs.Deadlock.Schedule
import Steward.Proofs.Deadlock.Slices
import Steward.Proofs.Tasks.Joining
import Steward.Proofs.Deadlock.Division
import Steward.Proofs.Deadlock.Spending
import Steward.Proofs.Host.Reservation
import Steward.Proofs.Domain.Removal
import Steward.Proofs.Domain.Reordering
import Steward.Proofs.Completion.Growth
import Steward.Proofs.Host.Release
import Steward.Proofs.Host.Unload
import Steward.Proofs.Memory.FirstFit
import Steward.Proofs.Host.Access
import Steward.Proofs.Host.Refusal
import Steward.Proofs.Host.Fulfilment
import Steward.Proofs.Assembly.Cursor
import Steward.Proofs.Memory.Listing
import Steward.Proofs.Policy.Handover
import Steward.Proofs.Assembly.Binding
import Steward.Proofs.Memory.Extent
import Steward.Proofs.Deadlock.Questions
