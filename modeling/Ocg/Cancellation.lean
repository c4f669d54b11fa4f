import Ocg.Enrollment.Close
import Ocg.Refund.Finalize

/-!
# Canceling an event

`cancel_event` closes enrollment and hands every remaining purchase to a refund: free purchases are
refunded in place, paid ones become durable refund work.
-/

namespace Ocg

open Relational

/-- Preserve attendance history while removing active access and capacity. -/
def cancelAllAttendance (s : Enrollment) : Except DbError Enrollment := do
  let (_, s) ← updateAttendees
    (fun ea ↦ ea.status ∈ [AttendeeStatus.confirmed, .registrationQuestionsPending])
    (fun ea ↦ { ea with status := .attendanceCanceled }) s
  let (_, s) ← updateAttendees (fun ea ↦ ea.status = .invitationPending)
    (fun ea ↦ { ea with status := .invitationCanceled }) s
  .ok s

/-- Close free ticket purchases locally and restore discount inventory. -/
def refundFreePurchases (s : Enrollment) : Except DbError Enrollment := do
  let free := s.purchases.filter fun ep ↦ ep.amountMinor = 0 ∧ ep.status.IsEntitled
  let s ← free.foldlM (fun s ep ↦ writePurchase ep { ep with status := .refunded } s) s
  .ok (free.foldl (fun s ep ↦ releaseEventDiscountCodeAvailability ep.eventDiscountCodeId s) s)

/-- The paid purchases that cancellation hands to the refund worker. -/
def paidEntitled (s : Enrollment) : List Purchase :=
  s.purchases.filter fun ep ↦ 0 < ep.amountMinor ∧ ep.status.IsEntitled

/-- The open refund request of a purchase. -/
def openRequestOf (purchase : Uuid) (db : Database) : Option Uuid :=
  (db.refundRequests.find? fun err ↦ err.eventPurchaseId = purchase
    ∧ err.status ∈ [RefundRequestStatus.approving, .pending]).map (·.eventRefundRequestId)

/-- Queue provider-backed purchases that do not already have durable work. -/
def queuePaidRefunds (now : Timestamp) (actor : Uuid) (db : Database) : Except DbError Database :=
  (paidEntitled db.toEnrollment).foldlM
    (fun db ep ↦ ensureRefund now ep (ep.financialAmounts.map (·.providerTotalMinor))
      ep.paymentProviderId .eventCancellation (openRequestOf ep.eventPurchaseId db) (some actor)
      none db) db

/-- Hand provider-backed purchases to their durable refund jobs. -/
def handOverPaidPurchases (s : Enrollment) : Except DbError Enrollment :=
  (paidEntitled s).foldlM
    (fun s ep ↦ writePurchase ep { ep with holdExpiresAt := none, status := .refundPending } s) s

/-- The requests of purchases that a predicate selects. -/
def reviewRequests (now : Timestamp) (actor : Uuid) (purchase : Purchase → Prop)
    [DecidablePred purchase] (statuses : List RefundRequestStatus) (status : RefundRequestStatus)
    (db : Database) : Database :=
  updateRefundRequests
    (fun err ↦ err.status ∈ statuses
      ∧ ∃ ep ∈ db.purchases, ep.eventPurchaseId = err.eventPurchaseId ∧ purchase ep)
    (fun err ↦ { err with
      reviewedAt := err.reviewedAt.or (some now)
      reviewedByUserId := err.reviewedByUserId.or (some actor)
      status := status }) db

/-- `cancel_event`. -/
def cancelEvent (now : Timestamp) (actor groupId : Uuid) (db : Database) :
    Except DbError Database := do
  require (db.group.groupId = groupId ∧ db.event.canceled = false ∧ db.event.deleted = false
      ∧ db.event.HasNotEnded now)
    (.raised "event not found or inactive")
  let db ← onEnrollment (closeEventEnrollment now) db
  require (¬ ∃ ep ∈ db.purchases, 0 < ep.amountMinor ∧ ep.status.IsEntitled
      ∧ (ep.paymentProviderId = none ∨ ep.providerPaymentReference = none))
    (.raised "event has a paid purchase that is not ready for refund")
  let db ← onEnrollment cancelAllAttendance db
  let db ← onEnrollment refundFreePurchases db
  -- complete free-purchase refund requests locally, without a worker
  let db := reviewRequests now actor (fun ep ↦ ep.amountMinor = 0 ∧ ep.status = .refunded)
    [.approving, .pending] .approved db
  let db ← queuePaidRefunds now actor db
  let db := reviewRequests now actor (fun ep ↦ 0 < ep.amountMinor) [.pending] .approving db
  let db ← onEnrollment handOverPaidPurchases db
  .ok { db with toEnrollment := { db.toEnrollment with
    event := { db.event with canceled := true } } }

end Ocg
