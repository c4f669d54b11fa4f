import Ocg.Enrollment.Attend

/-!
# Durable refund rows

A provider refund is a row of its own, one per purchase, that the refund worker, the provider's
webhooks and operators move between statuses. This module gives its constraints, the writes through
them, and the operations that start a refund: the provider's report for an unfulfillable checkout, a
refund request and its review, and an organizer's attendance cancellation.
-/

namespace Ocg

open Relational

/-! ## Constraints and writes -/

/-- The `CHECK` constraints of `event_purchase_refund`. -/
structure Refund.Valid (r : Refund) : Prop where
  amount : 0 < r.amountMinor
  claim : (r.status = .processing ∧ r.claimId ≠ none ∧ r.claimedAt ≠ none)
    ∨ (r.status ≠ .processing ∧ r.claimId = none ∧ r.claimedAt = none)
  finalizedAt : (r.status = .finalized ∧ r.finalizedAt ≠ none) ∨ r.status = .providerFailed
    ∨ (r.status ∈ [RefundStatus.processing, .providerPending, .providerSucceeded]
      ∧ r.finalizedAt = none)
  kindRequest : (r.kind = .attendanceCancellation ∧ r.eventRefundRequestId ≠ none)
    ∨ (r.kind = .automaticUnfulfillableCheckout ∧ r.eventRefundRequestId = none)
    ∨ r.kind = .eventCancellation
    ∨ (r.kind = .refundRequestApproval ∧ r.eventRefundRequestId ≠ none)
  providerRefund : r.status ∉ [RefundStatus.finalized, .providerSucceeded]
    ∨ r.providerRefundId ≠ none
  recovery : (r.recoveryCompletedAt = none ∧ r.recoveryCompletedByUserId = none
      ∧ r.recoveryNote = none ∧ r.recoveryReference = none)
    ∨ (r.recoveryCompletedAt ≠ none ∧ r.recoveryCompletedByUserId ≠ none
      ∧ r.recoveryNote ≠ none ∧ r.recoveryReference ≠ none
      ∧ r.status = .providerFailed ∧ r.finalizedAt ≠ none)
  terminal : r.terminalFailure = true → r.status = .providerFailed ∧ r.providerRefundId ≠ none

instance (r : Refund) : Decidable r.Valid :=
  decidable_of_iff
    (0 < r.amountMinor
      ∧ ((r.status = .processing ∧ r.claimId ≠ none ∧ r.claimedAt ≠ none)
        ∨ (r.status ≠ .processing ∧ r.claimId = none ∧ r.claimedAt = none))
      ∧ ((r.status = .finalized ∧ r.finalizedAt ≠ none) ∨ r.status = .providerFailed
        ∨ (r.status ∈ [RefundStatus.processing, .providerPending, .providerSucceeded]
          ∧ r.finalizedAt = none))
      ∧ ((r.kind = .attendanceCancellation ∧ r.eventRefundRequestId ≠ none)
        ∨ (r.kind = .automaticUnfulfillableCheckout ∧ r.eventRefundRequestId = none)
        ∨ r.kind = .eventCancellation
        ∨ (r.kind = .refundRequestApproval ∧ r.eventRefundRequestId ≠ none))
      ∧ (r.status ∉ [RefundStatus.finalized, .providerSucceeded] ∨ r.providerRefundId ≠ none)
      ∧ ((r.recoveryCompletedAt = none ∧ r.recoveryCompletedByUserId = none
          ∧ r.recoveryNote = none ∧ r.recoveryReference = none)
        ∨ (r.recoveryCompletedAt ≠ none ∧ r.recoveryCompletedByUserId ≠ none
          ∧ r.recoveryNote ≠ none ∧ r.recoveryReference ≠ none
          ∧ r.status = .providerFailed ∧ r.finalizedAt ≠ none))
      ∧ (r.terminalFailure = true → r.status = .providerFailed ∧ r.providerRefundId ≠ none))
    ⟨fun ⟨h1, h2, h3, h4, h5, h6, h7⟩ ↦ ⟨h1, h2, h3, h4, h5, h6, h7⟩,
      fun ⟨h1, h2, h3, h4, h5, h6, h7⟩ ↦ ⟨h1, h2, h3, h4, h5, h6, h7⟩⟩

/-- `event_purchase_refund_payment_provider_refund_id_idx`. -/
def Refund.SharesProviderRefund (r other : Refund) : Prop :=
  r.providerRefundId ≠ none ∧ r.paymentProviderId = other.paymentProviderId
    ∧ r.providerRefundId = other.providerRefundId

instance (r other : Refund) : Decidable (r.SharesProviderRefund other) :=
  inferInstanceAs (Decidable (_ ∧ _ ∧ _))

/-- The constraints and the provider index of a written refund row. -/
def checkEventPurchaseRefund (new : Refund) (db : Database) : Except DbError Unit := do
  require new.Valid (.violated "event_purchase_refund_check")
  require (∀ r ∈ db.refunds, r.eventPurchaseRefundId ≠ new.eventPurchaseRefundId →
      ¬ new.SharesProviderRefund r)
    (.violated "event_purchase_refund_payment_provider_refund_id_idx")

/-- `UPDATE event_purchase_refund` of one row. -/
def writeRefund (new : Refund) (db : Database) : Except DbError Database := do
  checkEventPurchaseRefund new db
  .ok { db with refunds := replaceRow Refund.eventPurchaseRefundId new db.refunds }

theorem writeRefund_eq_ok {new : Refund} {db db' : Database} :
    writeRefund new db = .ok db' ↔ new.Valid
      ∧ (∀ r ∈ db.refunds, r.eventPurchaseRefundId ≠ new.eventPurchaseRefundId →
        ¬ new.SharesProviderRefund r)
      ∧ db' = { db with refunds := replaceRow Refund.eventPurchaseRefundId new db.refunds } := by
  unfold writeRefund checkEventPurchaseRefund
  simp only [bind_eq_ok, require_eq_ok, Except.ok.injEq]
  exact ⟨fun ⟨_, ⟨_, h1, h2⟩, heq⟩ ↦ ⟨h1, h2, heq.symm⟩,
    fun ⟨h1, h2, heq⟩ ↦ ⟨(), ⟨(), h1, h2⟩, heq.symm⟩⟩

/-- `format('event-purchase-refund-%s', event_purchase_id)`. -/
def refundIdempotencyKey (purchase : Uuid) : String := "event-purchase-refund-" ++ toString purchase

/-- The provider-pending row that starts the refund of a purchase. -/
def newRefund (id : Uuid) (now : Timestamp) (ep : Purchase) (amountMinor : ℤ)
    (currencyCode provider : String) (kind : RefundKind) (request initiatedBy : Option Uuid)
    (reviewNote : Option String) : Refund where
  eventPurchaseRefundId := id
  amountMinor := amountMinor
  attemptCount := 0
  claimId := none
  claimedAt := none
  createdAt := now
  currencyCode := currencyCode
  eventPurchaseId := ep.eventPurchaseId
  eventRefundRequestId := request
  failureMessage := none
  finalizedAt := none
  idempotencyKey := refundIdempotencyKey ep.eventPurchaseId
  initiatedByUserId := initiatedBy
  kind := kind
  nextAttemptAt := now
  paymentProviderId := provider
  providerRefundId := none
  providerRefundedAt := none
  recoveryCompletedAt := none
  recoveryCompletedByUserId := none
  recoveryNote := none
  recoveryReference := none
  reviewNote := reviewNote
  status := .providerPending
  terminalFailure := false

/-- The purchase already has its refund row. -/
def Database.HasRefund (db : Database) (purchase : Uuid) : Prop :=
  ∃ r ∈ db.refunds, r.eventPurchaseId = purchase

instance (db : Database) (purchase : Uuid) : Decidable (db.HasRefund purchase) :=
  inferInstanceAs (Decidable (∃ r ∈ db.refunds, _))

/-- `INSERT INTO event_purchase_refund … ON CONFLICT (event_purchase_id) DO NOTHING`: the amount,
the currency and the provider are not-null columns. -/
def ensureRefund (now : Timestamp) (ep : Purchase) (amountMinor : Option ℤ)
    (provider : Option String) (kind : RefundKind) (request initiatedBy : Option Uuid)
    (reviewNote : Option String) (db : Database) : Except DbError Database :=
  match amountMinor, ep.currencyCode, provider with
  | some amountMinor, some currencyCode, some provider =>
    if db.HasRefund ep.eventPurchaseId then .ok db else do
      let row := newRefund db.nextRefundUuid now ep amountMinor currencyCode provider kind request
        initiatedBy reviewNote
      checkEventPurchaseRefund row db
      require (∀ r ∈ db.refunds, r.idempotencyKey ≠ row.idempotencyKey)
        (.violated "event_purchase_refund_idempotency_key_key")
      .ok { db with nextRefundUuid := db.nextRefundUuid + 1, refunds := db.refunds ++ [row] }
  | _, _, _ => .error (.violated "event_purchase_refund_not_null")

/-! ## The provider's report -/

inductive WebhookOutcome
  | noop
  | completed (user : Uuid)
  | refundQueued
  deriving DecidableEq, Repr

/-- `reconcile_event_purchase_for_checkout_session`. -/
def reconcileEventPurchaseForCheckoutSession (now : Timestamp) (report : CompletedSession)
    (db : Database) : Except DbError (WebhookOutcome × Database) := do
  let (settled, s) ← settleCheckoutSession now report db.toEnrollment
  let db := { db with toEnrollment := s }
  match settled with
  | .noop => .ok (.noop, db)
  | .completed user => .ok (.completed user, db)
  | .refundQueued ep total => do
    let db ← ensureRefund now ep (some total) (some report.ref.provider)
      .automaticUnfulfillableCheckout none none none db
    .ok (.refundQueued, db)

/-! ## Refund requests -/

/-- Rewrites the refund requests that a statement selects. -/
def updateRefundRequests (selected : RefundRequest → Prop) [DecidablePred selected]
    (f : RefundRequest → RefundRequest) (db : Database) : Database :=
  { db with refundRequests := updateWhere selected f db.refundRequests }

/-- Replaces the status of a purchase, which fires the purchase trigger. -/
def setPurchaseStatus (purchase : Uuid) (status : PurchaseStatus) (db : Database) :
    Except DbError Database := do
  let s ← updatePurchase purchase (fun ep ↦ { ep with status := status }) db.toEnrollment
  .ok { db with toEnrollment := s }

/-- `request_event_refund`. -/
def requestEventRefund (env : Env) (now : Timestamp) (communityId user : Uuid)
    (requestedReason : Option String) (db : Database) : Except DbError Database := do
  require (db.group.communityId = communityId ∧ db.event.deleted = false
      ∧ ∀ t ∈ db.event.startsAt, now < t)
    (.raised "purchase not found or not refundable")
  match firstBy Purchase.newerThan (db.purchases.filter fun ep ↦ ep.userId = user
      ∧ 0 < ep.amountMinor ∧ ep.status.IsEntitled) with
  | none => .error (.raised "purchase not found or not refundable")
  | some ep => do
    require (¬ ∃ err ∈ db.refundRequests, err.eventPurchaseId = ep.eventPurchaseId)
      (.raised "refund request already exists for this purchase")
    require (ep.status = .completed) (.raised "purchase not found or not refundable")
    let request : RefundRequest := ⟨db.nextRefundUuid, ep.eventPurchaseId, user,
      nullIfBlank requestedReason, none, none, none, .pending⟩
    let db ← setPurchaseStatus ep.eventPurchaseId .refundRequested
      { db with
        nextRefundUuid := db.nextRefundUuid + 1
        refundRequests := db.refundRequests ++ [request] }
    require (env.hasRefundReviewers = true)
      (.raised "refund request notification has no recipients")
    .ok db

/-- `reject_event_refund_request`. -/
def rejectEventRefundRequest (now : Timestamp) (actor groupId purchase : Uuid)
    (reviewNote : Option String) (db : Database) : Except DbError Database := do
  require (nullIfBlank reviewNote ≠ none) (.raised "refund rejection reason is required")
  require (db.group.groupId = groupId
      ∧ (∃ ep ∈ db.purchases, ep.eventPurchaseId = purchase ∧ ep.status = .refundRequested)
      ∧ ∃ err ∈ db.refundRequests, err.eventPurchaseId = purchase ∧ err.status = .pending)
    (.raised "refund request not found")
  let db ← setPurchaseStatus purchase .completed db
  .ok (updateRefundRequests (fun err ↦ err.eventPurchaseId = purchase ∧ err.status = .pending)
    (fun err ↦ { err with
      reviewNote := nullIfBlank reviewNote
      reviewedAt := some now
      reviewedByUserId := some actor
      status := .rejected }) db)

/-- The refund row of a purchase, whatever its state. -/
def refundOf (purchase : Uuid) (db : Database) : Option Refund :=
  db.refunds.find? fun r ↦ r.eventPurchaseId = purchase

/-- `queue_event_refund_request_approval`. -/
def queueEventRefundRequestApproval (now : Timestamp) (actor groupId purchase : Uuid)
    (reviewNote : Option String) (db : Database) : Except DbError Database := do
  require (db.group.groupId = groupId) (.raised "refund request not found")
  match db.purchases.find? fun ep ↦ ep.eventPurchaseId = purchase
      ∧ ep.status = .refundRequested,
    db.refundRequests.find? fun err ↦ err.eventPurchaseId = purchase
      ∧ err.status ∈ [RefundRequestStatus.approving, .pending] with
  | some ep, some err =>
    match refundOf purchase db with
    | some refund => do
      require (refund.kind = .refundRequestApproval)
        (.raised "event purchase refund already started with different kind")
      .ok db
    | none => do
      require (0 < ep.amountMinor ∧ ep.paymentProviderId ≠ none
          ∧ ep.providerPaymentReference ≠ none)
        (.raised "paid purchase is not ready for refund")
      let db := updateRefundRequests
        (fun row ↦ row.eventRefundRequestId = err.eventRefundRequestId)
        (fun row ↦ { row with
          reviewNote := nullIfBlank reviewNote
          reviewedAt := some now
          reviewedByUserId := some actor
          status := .approving }) db
      ensureRefund now ep (ep.financialAmounts.map (·.providerTotalMinor)) ep.paymentProviderId
        .refundRequestApproval (some err.eventRefundRequestId) (some actor)
        (nullIfBlank reviewNote) db
  | _, _ => .error (.raised "refund request not found")

/-! ## Attendance cancellation -/

inductive CancellationOutcome
  | refundQueued
  | attendanceCanceled
  deriving DecidableEq, Repr

/-- Attaches a synthetic organizer decision to a purchase, or promotes its existing request. -/
def attachOrganizerDecision (now : Timestamp) (actor purchase : Uuid) (db : Database) :
    Except DbError (Uuid × Database) :=
  match db.refundRequests.find? fun err ↦ err.eventPurchaseId = purchase with
  | none =>
    let request : RefundRequest := ⟨db.nextRefundUuid, purchase, actor,
      some "Attendance cancellation requested by an organizer", none, some now, some actor,
      .approving⟩
    .ok (db.nextRefundUuid,
      { db with
        nextRefundUuid := db.nextRefundUuid + 1
        refundRequests := db.refundRequests ++ [request] })
  | some err => do
    require (err.status ∈ [RefundRequestStatus.approving, .pending, .rejected])
      (.raised "refund request is not available for attendance cancellation")
    .ok (err.eventRefundRequestId, updateRefundRequests
      (fun row ↦ row.eventPurchaseId = purchase)
      (fun row ↦ { row with
        reviewNote := none
        reviewedAt := some now
        reviewedByUserId := some actor
        status := .approving }) db)

/-- Queues the refund of a paid attendee without releasing attendance or capacity. -/
def queueAttendanceRefund (now : Timestamp) (actor : Uuid) (ep : Purchase) (db : Database) :
    Except DbError Database :=
  match refundOf ep.eventPurchaseId db with
  | some refund => do
    require (refund.kind ∈ [RefundKind.attendanceCancellation, .refundRequestApproval])
      (.raised "event purchase refund already started with different kind")
    .ok db
  | none => do
    require (ep.paymentProviderId ≠ none ∧ ep.providerPaymentReference ≠ none)
      (.raised "paid purchase is not ready for refund")
    let (request, db) ← attachOrganizerDecision now actor ep.eventPurchaseId db
    let db ← ensureRefund now ep (ep.financialAmounts.map (·.providerTotalMinor))
      ep.paymentProviderId .attendanceCancellation (some request) (some actor) none db
    setPurchaseStatus ep.eventPurchaseId .refundRequested db

/-- `cancel_event_attendee_attendance`. -/
def cancelEventAttendeeAttendance (now : Timestamp) (actor groupId user : Uuid)
    (configuredProvider : Option String) (db : Database) :
    Except DbError (CancellationOutcome × Database) := do
  require (db.group.groupId = groupId ∧ db.event.deleted = false ∧ db.event.published = true
      ∧ db.event.canceled = false ∧ db.event.HasNotEnded now)
    (.raised "event not found or inactive")
  require (∃ ea ∈ db.attendees, ea.userId = user ∧ ea.status = .confirmed)
    (.raised "confirmed event attendee not found")
  let purchase := entitledPurchase user db.toEnrollment
  match purchase.filter (0 < ·.amountMinor) with
  | some ep => do
    let db ← queueAttendanceRefund now actor ep db
    .ok (.refundQueued, db)
  | none => do
    let (_, s) ← cancelAttendance user [.confirmed] db.toEnrollment
    let s ← releaseFreeAttendance now purchase configuredProvider s
    .ok (.attendanceCanceled, { db with toEnrollment := s })

end Ocg
