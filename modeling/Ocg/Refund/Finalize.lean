import Ocg.Refund.Worker

/-!
# Finalizing and recovering refunds

A provider-complete refund is finalized by the worker that holds its claim; a refund whose provider
failed terminally is completed by an operator who settled it outside. Both end attendance, give back
the discount, and let reconciliation fill the seat.
-/

namespace Ocg

open Relational

/-- Another purchase of the user still entitles to attendance. -/
def Enrollment.HasReplacement (s : Enrollment) (ep : Purchase) : Prop :=
  ∃ replacement ∈ s.purchases, replacement.eventPurchaseId ≠ ep.eventPurchaseId
    ∧ replacement.status.IsEntitled ∧ replacement.userId = ep.userId

instance (s : Enrollment) (ep : Purchase) : Decidable (s.HasReplacement ep) :=
  inferInstanceAs (Decidable (∃ replacement ∈ s.purchases, _))

/-- Removes active access only when the refunded purchase owns the attendee relationship. -/
def endAttendance (ep : Purchase) (s : Enrollment) : Except DbError Enrollment :=
  if s.HasReplacement ep then .ok s else do
    let (_, s) ← cancelAttendance ep.userId [.confirmed, .registrationQuestionsPending] s
    .ok s

/-- Marks a purchase refunded, whatever its status was. -/
def refundPurchase (purchase : Uuid) (s : Enrollment) : Except DbError Enrollment :=
  updatePurchase purchase (fun ep ↦ { ep with status := .refunded }) s

/-- The row of a finalized refund. -/
def Refund.finalize (now : Timestamp) (r : Refund) : Refund :=
  { r with
    claimId := none
    claimedAt := none
    failureMessage := none
    finalizedAt := some now
    status := .finalized }

/-- Settles the enrollment side of a provider-complete refund. -/
def finalizeEnrollment (kind : RefundKind) (ep : Purchase) (s : Enrollment) :
    Except DbError Enrollment := do
  let s ← endAttendance ep s
  let s ← refundPurchase ep.eventPurchaseId s
  .ok (if kind = .automaticUnfulfillableCheckout then s
    else releaseEventDiscountCodeAvailability ep.eventDiscountCodeId s)

/-- Completes the approving request attached to a refund. -/
def approveRequest (now : Timestamp) (r : Refund) (db : Database) : Database :=
  updateRefundRequests
    (fun err ↦ some err.eventRefundRequestId = r.eventRefundRequestId ∧ err.status = .approving)
    (fun err ↦ { err with
      reviewNote := r.reviewNote
      reviewedAt := err.reviewedAt.or (some now)
      reviewedByUserId := err.reviewedByUserId.or r.initiatedByUserId
      status := .approved }) db

/-- Runs an enrollment operation on the enrollment part of the partition. -/
def onEnrollment (f : Enrollment → Except DbError Enrollment) (db : Database) :
    Except DbError Database := do
  let s ← f db.toEnrollment
  .ok { db with toEnrollment := s }

/-- Reconciliation, for callers that ignore whom it promoted. -/
def reconcile (now : Timestamp) (tier : Option Uuid) (provider : Option String) (db : Database) :
    Except DbError Database :=
  onEnrollment
    (fun s ↦ do
      let (_, s) ← reconcileEventEnrollment now tier provider s
      .ok s) db

/-- The local work of a finalization under a claim. -/
def settleRefund (now : Timestamp) (claim : Option Uuid) (r : Refund) (ep : Purchase)
    (configuredProvider : Option String) (db : Database) : Except DbError Database := do
  let db ← onEnrollment (finalizeEnrollment r.kind ep) db
  let db := approveRequest now r db
  -- a null claim never equals the stored one, so the last update would find no row
  require (claim ≠ none) (.raised "event purchase refund claim is no longer current")
  let db ← writeRefund (r.finalize now) db
  reconcile now (some ep.eventTicketTypeId) configuredProvider db

/-- `finalize_event_purchase_refund`. -/
def finalizeEventPurchaseRefund (now : Timestamp) (refund : Uuid) (claim : Option Uuid)
    (hasNotification : Bool) (configuredProvider : Option String) (db : Database) :
    Except DbError Database := do
  require (hasNotification = true) (.raised "refund notification template data is required")
  match db.refunds.find? fun r ↦ r.eventPurchaseRefundId = refund with
  | none => .error (.raised "event purchase refund not found")
  | some r =>
    match db.purchases.find? fun ep ↦ ep.eventPurchaseId = r.eventPurchaseId with
    | none => .error (.raised "event purchase refund not found")
    | some ep => do
      let db ← reconcile now (some ep.eventTicketTypeId) configuredProvider db
      if r.status = .finalized then .ok db else do
        require (r.claimId = claim ∧ r.providerRefundedAt ≠ none)
          (.raised "event purchase refund claim is not provider-complete")
        settleRefund now claim r ep configuredProvider db

/-! ## Manual recovery -/

/-- What an operator gives to complete a terminally failed refund. -/
structure RecoveryEvidence where
  actor : Option Uuid
  groupId : Option Uuid
  recoveryReference : Option String
  recoveryNote : Option String
  hasNotification : Bool
  deriving DecidableEq, Repr

/-- The local lifecycle that an external recovery may complete. -/
def Database.MayRecover (db : Database) (r : Refund) (ep : Purchase) : Prop :=
  if r.finalizedAt = none then
    (if r.kind ∈ [RefundKind.automaticUnfulfillableCheckout, .eventCancellation] then
      ep.status = .refundPending
    else ep.status = .refundRequested
      ∨ (ep.status = .refundPending ∧ db.event.canceled = true))
    ∧ (r.eventRefundRequestId = none ∨ ∃ err ∈ db.refundRequests,
      some err.eventRefundRequestId = r.eventRefundRequestId
        ∧ err.eventPurchaseId = ep.eventPurchaseId ∧ err.status = .approving)
  else ep.status ∈ [PurchaseStatus.refundRecoveryPending, .refunded]

instance (db : Database) (r : Refund) (ep : Purchase) : Decidable (db.MayRecover r ep) :=
  inferInstanceAs (Decidable (ite _ _ _))

/-- The local finalization that did not happen before the terminal failure. -/
def recoverEnrollment (kind : RefundKind) (ep : Purchase) (s : Enrollment) :
    Except DbError Enrollment := do
  let s ← if kind ∈ [RefundKind.attendanceCancellation, .refundRequestApproval] then
    endAttendance ep s else .ok s
  .ok (if kind = .automaticUnfulfillableCheckout then s
    else releaseEventDiscountCodeAvailability ep.eventDiscountCodeId s)

/-- Completes the request attached to a recovered refund. -/
def approveRecoveredRequest (now : Timestamp) (actor : Uuid) (note : Option String) (r : Refund)
    (db : Database) : Database :=
  updateRefundRequests
    (fun err ↦ some err.eventRefundRequestId = r.eventRefundRequestId ∧ err.status = .approving)
    (fun err ↦ { err with
      reviewNote := if r.kind = .refundRequestApproval then note else err.reviewNote
      reviewedAt := err.reviewedAt.or (some now)
      reviewedByUserId := err.reviewedByUserId.or (some actor)
      status := .approved }) db

/-- The row with the operator's evidence; the failed provider attempt is kept. -/
def Refund.recover (now : Timestamp) (actor : Uuid) (evidence : RecoveryEvidence) (r : Refund) :
    Refund :=
  { r with
    finalizedAt := r.finalizedAt.or (some now)
    recoveryCompletedAt := some now
    recoveryCompletedByUserId := some actor
    recoveryNote := nullIfBlank evidence.recoveryNote
    recoveryReference := nullIfBlank evidence.recoveryReference }

/-- `complete_event_purchase_refund_recovery`; the flag tells a first completion from a retry. -/
def completeEventPurchaseRefundRecovery (env : Env) (now : Timestamp) (refund : Uuid)
    (evidence : RecoveryEvidence) (configuredProvider : Option String) (db : Database) :
    Except DbError (Bool × Database) := do
  match evidence.actor with
  | none => .error (.raised "actor user id is required")
  | some actor => do
    require (evidence.groupId ≠ none) (.raised "group id is required")
    require (nullIfBlank evidence.recoveryReference ≠ none)
      (.raised "recovery reference is required")
    require (nullIfBlank evidence.recoveryNote ≠ none) (.raised "recovery note is required")
    match db.refunds.find? fun r ↦ r.eventPurchaseRefundId = refund
        ∧ some db.group.groupId = evidence.groupId with
    | none => .error (.raised "event purchase refund not found")
    | some r => do
      let tier := (db.purchases.find? fun ep ↦ ep.eventPurchaseId = r.eventPurchaseId).map
        (·.eventTicketTypeId)
      require (tier ≠ none) (.raised "event purchase refund not found")
      let db ← reconcile now tier configuredProvider db
      match db.purchases.find? fun ep ↦ ep.eventPurchaseId = r.eventPurchaseId with
      | none => .error (.raised "recoverable event purchase refund not found")
      | some ep => do
        require (env.hasEventsWrite actor = true) (.raised "events write access is required")
        if r.recoveryCompletedAt ≠ none then do
          require (r.recoveryCompletedByUserId = some actor
              ∧ r.recoveryNote = nullIfBlank evidence.recoveryNote
              ∧ r.recoveryReference = nullIfBlank evidence.recoveryReference)
            (.raised "refund recovery already completed with different evidence")
          .ok (false, db)
        else do
          require (r.IsTerminal ∧ r.providerRefundId ≠ none)
            (.raised "recoverable event purchase refund not found")
          require (db.MayRecover r ep) (.raised "recoverable event purchase refund not found")
          require (r.finalizedAt = none → evidence.hasNotification = true)
            (.raised "refund notification template data is required")
          let db ← if r.finalizedAt = none then do
              let db ← onEnrollment (recoverEnrollment r.kind ep) db
              .ok (approveRecoveredRequest now actor (nullIfBlank evidence.recoveryNote) r db)
            else .ok db
          let db ← writeRefund (r.recover now actor evidence) db
          let db ← setPurchaseStatus ep.eventPurchaseId .refunded db
          let db ← reconcile now tier configuredProvider db
          .ok (true, db)

end Ocg
