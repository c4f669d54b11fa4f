import Mathlib
import Ocg.Refund.Store

/-!
# The refund worker and the provider's results

The worker claims a due refund row, calls the provider outside any transaction, and records the
result; the provider's webhooks record results for the claim and the key they loaded. Each recording
function checks the claim and the idempotency key itself, so the results may arrive in any order.
-/

namespace Ocg

open Relational

/-! ## Claiming -/

/-- A row that a worker of the provider may claim now. -/
def Refund.IsClaimable (now : Timestamp) (provider : String) (r : Refund) : Prop :=
  r.paymentProviderId = provider ∧ r.nextAttemptAt ≤ now
    ∧ (r.status = .providerSucceeded
      ∨ (r.status = .providerPending ∧ r.attemptCount < 10)
      ∨ (r.status = .providerFailed ∧ r.terminalFailure = false ∧ r.attemptCount < 10))

instance (now : Timestamp) (provider : String) (r : Refund) :
    Decidable (r.IsClaimable now provider) :=
  inferInstanceAs (Decidable (_ ∧ _))

/-- Provider-complete work first, then by due time, age and identifier. -/
def Refund.claimedBefore (r r' : Refund) : Bool :=
  let rank (r : Refund) : ℕ := if r.status = .providerSucceeded then 0 else 1
  decide (rank r < rank r'
    ∨ (rank r = rank r' ∧ (r.nextAttemptAt < r'.nextAttemptAt
      ∨ (r.nextAttemptAt = r'.nextAttemptAt ∧ (r.createdAt < r'.createdAt
        ∨ (r.createdAt = r'.createdAt
          ∧ r.eventPurchaseRefundId < r'.eventPurchaseRefundId))))))

/-- The row as the claiming worker pins it. -/
def Refund.claim (now : Timestamp) (claim : Uuid) (r : Refund) : Refund :=
  { r with
    attemptCount := if r.status = .providerSucceeded then r.attemptCount else r.attemptCount + 1
    claimId := some claim
    claimedAt := some now
    status := .processing }

/-- `claim_event_purchase_refund`: the claimed row, or nothing when no row is due that no other
transaction has locked. -/
def claimEventPurchaseRefund (locked : Uuid → Bool) (now : Timestamp) (provider : String)
    (db : Database) : Except DbError (Option Refund × Database) :=
  match firstBy Refund.claimedBefore (db.refunds.filter fun r ↦
      r.IsClaimable now provider ∧ locked r.eventPurchaseRefundId = false) with
  | none => .ok (none, db)
  | some r => do
    let claimed := r.claim now db.nextRefundUuid
    let db ← writeRefund claimed { db with nextRefundUuid := db.nextRefundUuid + 1 }
    require (∃ ep ∈ db.purchases, ep.eventPurchaseId = r.eventPurchaseId)
      (.raised "event purchase not found")
    require (∃ ep ∈ db.purchases, ep.eventPurchaseId = r.eventPurchaseId
        ∧ nullIfBlank ep.connectedSellerId ≠ none)
      (.raised "event purchase is missing connected seller account")
    .ok (some claimed, db)

/-! ## Recording results -/

/-- A result of one provider attempt: the row, the attempt it belongs to, the provider's refund, and
the claim that its sender loaded. -/
structure RefundResult where
  eventPurchaseRefundId : Uuid
  expectedIdempotencyKey : Option String
  providerRefundId : Option String
  expectedClaimId : Option Uuid
  deriving DecidableEq, Repr

/-- The row a result is about, once its identifiers are valid and its claim is current. -/
def loadRefundForResult (result : RefundResult) (db : Database) :
    Except DbError (Refund × String × String) := do
  require (nullIfBlank result.expectedIdempotencyKey ≠ none)
    (.raised "expected idempotency key is required")
  require (nullIfBlank result.providerRefundId ≠ none) (.raised "provider refund id is required")
  match db.refunds.find? fun r ↦ r.eventPurchaseRefundId = result.eventPurchaseRefundId with
  | none => .error (.raised "event purchase refund not found")
  | some r => do
    require (r.claimId = result.expectedClaimId)
      (.raised "event purchase refund claim is stale")
    .ok (r, result.expectedIdempotencyKey.getD "", result.providerRefundId.getD "")

/-- A result may not replace the provider refund that the row is pinned to. -/
def checkPinnedRefund (r : Refund) (providerRefundId : String) : Except DbError Unit :=
  require (∀ id ∈ r.providerRefundId, id = providerRefundId)
    (.raised "event purchase refund already has a different provider refund id")

/-- `make_interval(mins => least(30, power(2, greatest(attempt_count - 1, 0))))`. -/
def refundBackoff (attemptCount : ℕ) : ℤ := minutes (min 30 (2 ^ (attemptCount - 1)))

/-- The row was settled by an attempt that nothing may revive. -/
def Refund.IsTerminal (r : Refund) : Prop := r.status = .providerFailed ∧ r.terminalFailure = true

instance (r : Refund) : Decidable r.IsTerminal := inferInstanceAs (Decidable (_ ∧ _))

/-- `record_event_purchase_refund_pending`. -/
def recordEventPurchaseRefundPending (now : Timestamp) (result : RefundResult) (db : Database) :
    Except DbError Database := do
  let (r, key, providerRefundId) ← loadRefundForResult result db
  if r.idempotencyKey ≠ key then .ok db else do
    checkPinnedRefund r providerRefundId
    if r.status ∈ [RefundStatus.finalized, .providerSucceeded] ∨ r.IsTerminal then .ok db
    else writeRefund { r with
      claimId := none
      claimedAt := none
      failureMessage := none
      nextAttemptAt := now + refundBackoff r.attemptCount
      providerRefundId := some providerRefundId
      status := .providerPending
      terminalFailure := false } db

/-- `record_event_purchase_refund_retryable_failure`. -/
def recordEventPurchaseRefundRetryableFailure (now : Timestamp) (refund claim : Uuid)
    (failureMessage : Option String) (db : Database) : Except DbError Database :=
  match db.refunds.find? fun r ↦ r.eventPurchaseRefundId = refund ∧ r.claimId = some claim
      ∧ r.status = .processing with
  | none => .error (.raised "event purchase refund claim is no longer current")
  | some r => writeRefund { r with
      claimId := none
      claimedAt := none
      failureMessage := some ((nullIfBlank failureMessage).getD "provider refund attempt failed")
      nextAttemptAt := now + refundBackoff r.attemptCount
      status := .providerFailed
      terminalFailure := false } db

/-- The row after the provider confirmed the refund. -/
def Refund.confirm (now : Timestamp) (providerRefundId : String) (r : Refund) : Refund :=
  { r with
    failureMessage := none
    nextAttemptAt := now
    providerRefundId := some providerRefundId
    providerRefundedAt := r.providerRefundedAt.or (some now)
    status :=
      if r.claimId ≠ none then .processing
      else if r.finalizedAt = none then .providerSucceeded else .finalized
    terminalFailure := false }

/-- `record_event_purchase_refund_succeeded`, less the fee and document work it queues. -/
def recordEventPurchaseRefundSucceeded (now : Timestamp) (result : RefundResult)
    (db : Database) : Except DbError Database := do
  let (r, key, providerRefundId) ← loadRefundForResult result db
  if r.idempotencyKey ≠ key ∨ r.IsTerminal then .ok db else do
    checkPinnedRefund r providerRefundId
    let confirmed := if r.status = .finalized then r else r.confirm now providerRefundId
    let db ← if r.status = .finalized then .ok db else writeRefund confirmed db
    if confirmed.finalizedAt = none then .ok db
    else match db.purchases.find? fun ep ↦ ep.eventPurchaseId = r.eventPurchaseId
        ∧ ep.status = .refundRecoveryPending with
      | some ep => setPurchaseStatus ep.eventPurchaseId .refunded db
      | none => do
        require (∃ ep ∈ db.purchases, ep.eventPurchaseId = r.eventPurchaseId
            ∧ ep.status = .refunded)
          (.raised "finalized event purchase not found")
        .ok db

/-- `record_event_purchase_refund_terminal_failed`. -/
def recordEventPurchaseRefundTerminalFailed (result : RefundResult)
    (failureMessage : Option String) (db : Database) : Except DbError Database := do
  let (r, key, providerRefundId) ← loadRefundForResult result db
  if r.idempotencyKey ≠ key then .ok db else do
    checkPinnedRefund r providerRefundId
    if r.IsTerminal ∧ r.providerRefundId = some providerRefundId then .ok db else do
      -- `concat_ws(': ', message, provider refund)` skips a null message
      let message := ((nullIfBlank failureMessage).map (· ++ ": ")).getD "" ++ providerRefundId
      let db ← writeRefund { r with
        claimId := none
        claimedAt := none
        failureMessage := some message
        providerRefundId := some providerRefundId
        providerRefundedAt := none
        status := .providerFailed
        terminalFailure := true } db
      if r.finalizedAt = none then .ok db
      else match db.purchases.find? fun ep ↦ ep.eventPurchaseId = r.eventPurchaseId
          ∧ ep.status ∈ [PurchaseStatus.refunded, .refundRecoveryPending] with
        | none => .error (.raised "finalized event purchase not found")
        | some ep => setPurchaseStatus ep.eventPurchaseId .refundRecoveryPending db

/-! ## Requeueing -/

/-- `requeue_event_purchase_refund`. -/
def requeueEventPurchaseRefund (now : Timestamp) (groupId purchase : Uuid) (db : Database) :
    Except DbError Database :=
  match db.refunds.find? fun r ↦ db.group.groupId = groupId ∧ r.eventPurchaseId = purchase
      ∧ r.status ∈ [RefundStatus.providerFailed, .providerPending] ∧ r.terminalFailure = false
      ∧ 10 ≤ r.attemptCount with
  | none => .error (.raised "retryable event purchase refund not found")
  | some r => writeRefund { r with
      attemptCount := 0
      failureMessage := none
      nextAttemptAt := now
      status := .providerPending } db

/-- A claim whose worker did not report within a quarter of an hour. -/
def Refund.HasStaleClaim (now : Timestamp) (r : Refund) : Prop :=
  r.status = .processing ∧ ∃ t ∈ r.claimedAt, t < now - minutes 15

instance (now : Timestamp) (r : Refund) : Decidable (r.HasStaleClaim now) :=
  inferInstanceAs (Decidable (_ ∧ _))

/-- The row after its stale claim is taken back. -/
def Refund.releaseClaim (now : Timestamp) (r : Refund) : Refund :=
  { r with
    claimId := none
    claimedAt := none
    failureMessage := if r.providerRefundedAt = none then
      some (r.failureMessage.getD "refund worker claim expired") else r.failureMessage
    nextAttemptAt := now
    status := if r.providerRefundedAt = none then .providerFailed else .providerSucceeded
    terminalFailure := false }

/-- `requeue_stale_event_purchase_refund_claims`. -/
def requeueStaleEventPurchaseRefundClaims (now : Timestamp) (db : Database) :
    Except DbError Database :=
  (db.refunds.filter fun r ↦ r.HasStaleClaim now).foldlM
    (fun db r ↦ writeRefund (r.releaseClaim now) db) db

end Ocg
