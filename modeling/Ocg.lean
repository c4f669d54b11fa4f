import Ocg.Auth.Login
import Ocg.Auth.Users
import Ocg.Badge.Batch
import Ocg.Badge.Embedding
import Ocg.Badge.Png
import Ocg.Badge.Verification
import Ocg.Binary.Bytes
import Ocg.Cancellation
import Ocg.Cfs.Linked
import Ocg.Cfs.Submissions
import Ocg.Checkout.Complete
import Ocg.Checkout.Prepare
import Ocg.Checkout.Pricing
import Ocg.Enrollment.Attend
import Ocg.Enrollment.Close
import Ocg.Enrollment.Offers
import Ocg.Enrollment.Reconcile
import Ocg.Enrollment.Seats
import Ocg.Enrollment.Worker
import Ocg.Group.Hierarchy
import Ocg.Group.SingleLevel
import Ocg.History.Accounts
import Ocg.History.BadgeJobs
import Ocg.History.Badges
import Ocg.History.Conflicts
import Ocg.History.DeliveryRate
import Ocg.History.Discounts
import Ocg.History.DurableWork
import Ocg.History.Enrollment
import Ocg.History.FailureBudget
import Ocg.History.LateResults
import Ocg.History.Notifications
import Ocg.History.Offers
import Ocg.History.Payments
import Ocg.History.Promotions
import Ocg.History.ProviderComplete
import Ocg.History.ProviderRefunds
import Ocg.History.Reconcile
import Ocg.History.Refunds
import Ocg.History.ReportedRefunds
import Ocg.History.Seats
import Ocg.History.Worker
import Ocg.Ledger.Invariant
import Ocg.Ledger.Operations
import Ocg.Ledger.Progress
import Ocg.Ledger.Steps
import Ocg.Ledger.Work
import Ocg.Meeting.Capacity
import Ocg.Meeting.Decision
import Ocg.Meeting.Deletion
import Ocg.Meeting.Edit
import Ocg.Meeting.Effect
import Ocg.Meeting.Hosts
import Ocg.Meeting.Jobs
import Ocg.Meeting.Owners
import Ocg.Meeting.Recording
import Ocg.Meeting.Rows
import Ocg.Meeting.Sync
import Ocg.Meeting.System
import Ocg.Notification.Delivery
import Ocg.Provider.RefundProcess
import Ocg.Provider.Refunds
import Ocg.Questionnaire.Agreement
import Ocg.Recurrence.Monthly
import Ocg.Refinement.Cancellation
import Ocg.Refinement.Charges
import Ocg.Refinement.Checkout
import Ocg.Refinement.Close
import Ocg.Refinement.Complete
import Ocg.Refinement.Confirmations
import Ocg.Refinement.Contracts
import Ocg.Refinement.Enrollment
import Ocg.Refinement.Reconcile
import Ocg.Refinement.Refund
import Ocg.Refinement.RefundWrites
import Ocg.Refund.Finalize
import Ocg.Refund.Store
import Ocg.Refund.Worker
import Ocg.Relational.Allocator
import Ocg.Relational.Locking
import Ocg.Relational.Overlay
import Ocg.Relational.Remote
import Ocg.Relational.Run
import Ocg.Relational.Table
import Ocg.Relational.Transaction
import Ocg.Relational.Worklist
import Ocg.Schema.Rows
import Ocg.Schema.Writes
import Ocg.System
import Ocg.Ticketing.SeatCheck
import Ocg.Transition.Capacity
import Ocg.Transition.Exclusive
import Ocg.Transition.Inventory
import Ocg.Transition.Lifecycle
import Ocg.Transition.Move
import Ocg.Transition.Offers
import Ocg.Transition.Redemption
import Ocg.Transition.Refunds
import Ocg.Transition.WellFormed
