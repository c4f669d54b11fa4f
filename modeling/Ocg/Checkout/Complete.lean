import Ocg.Checkout.Prepare

/-!
# Completing and refunding a checkout

A checkout completes in three writes — the linked offer, the attendee, the purchase — whether the
provider reported the payment or the purchase was free. The provider's report may also arrive for a
checkout that can no longer be fulfilled; the purchase then waits for a refund.
-/

namespace Ocg

open Relational

/-- `UPDATE event_purchase … WHERE event_purchase_id = id`, setting the status. -/
def updatePurchase (id : Uuid) (f : Purchase → Purchase) (s : Enrollment) :
    Except DbError Enrollment :=
  match s.purchases.find? fun ep ↦ ep.eventPurchaseId = id with
  | none => .ok s
  | some ep => writePurchase ep (f ep) s

/-! ## The three writes -/

/-- Completes the linked reservation of a checkout. -/
def completeOffer (offer : Option Uuid) (s : Enrollment) : Except DbError Enrollment :=
  match offer with
  | none => .ok s
  | some id => do
    match ← updateAdmissionOffer id (· = .checkoutPending)
        (fun ao ↦ { ao with status := .completed }) s with
    | none => .error (.raised "admission offer is no longer available")
    | some s => .ok s

/-- Adds the attendee, reviving only checkout-compatible states; the flag is `FOUND`. -/
def confirmAttendee (user : Uuid) (manuallyInvited : Bool) (s : Enrollment) :
    Except DbError (Bool × Enrollment) :=
  upsertAttendee ⟨user, manuallyInvited, none, .confirmed⟩
    (· ∈ [AttendeeStatus.attendanceCanceled, .confirmed, .invitationCanceled,
      .registrationQuestionsPending])
    (fun ea ↦ { ea with manuallyInvited := manuallyInvited, status := .confirmed }) s

/-- The completed row of a purchase. -/
def Purchase.complete (reference : Option String) (ep : Purchase) : Purchase :=
  { ep with holdExpiresAt := none, providerPaymentReference := reference, status := .completed }

/-- The row of a purchase that waits for its automatic refund. -/
def Purchase.awaitRefund (reference : Option String) (ep : Purchase) : Purchase :=
  { ep with holdExpiresAt := none, providerPaymentReference := reference, status := .refundPending }

/-- `ao.source = 'organizer_invitation'` of the linked offer. -/
def Enrollment.IsManualInvitation (s : Enrollment) (ep : Purchase) : Prop :=
  ∃ ao ∈ s.admissionOffers, some ao.admissionOfferId = ep.admissionOfferId
    ∧ ao.source = .organizerInvitation

instance (s : Enrollment) (ep : Purchase) : Decidable (s.IsManualInvitation ep) :=
  inferInstanceAs (Decidable (∃ ao ∈ s.admissionOffers, _))

/-- Another purchase of the user waits for manual refund recovery. -/
def Enrollment.RecoveryPending (s : Enrollment) (ep : Purchase) : Prop :=
  ∃ recovery ∈ s.purchases, recovery.eventPurchaseId ≠ ep.eventPurchaseId
    ∧ recovery.status = .refundRecoveryPending ∧ recovery.userId = ep.userId

instance (s : Enrollment) (ep : Purchase) : Decidable (s.RecoveryPending ep) :=
  inferInstanceAs (Decidable (∃ recovery ∈ s.purchases, _))

/-! ## Free purchases -/

/-- `complete_free_event_purchase`. -/
def completeFreeEventPurchase (now : Timestamp) (purchase : Uuid) (s : Enrollment) :
    Except DbError Enrollment :=
  match s.purchases.find? fun ep ↦ ep.eventPurchaseId = purchase with
  | none => .error (.raised "purchase not found")
  | some stale => do
    require (¬ (stale.status ∈ [PurchaseStatus.expired, .pending]
        ∧ ∃ hold ∈ stale.holdExpiresAt, hold ≤ now))
      (.raised "purchase hold has expired")
    let (_, s) ← reconcileEventEnrollment now (some stale.eventTicketTypeId) none s
    match s.purchases.find? fun ep ↦ ep.eventPurchaseId = purchase with
    | none => .error (.raised "purchase not found")
    | some ep => do
      require (ep.status = .pending) (.raised "purchase is no longer pending")
      require (ep.amountMinor = 0) (.raised "only free purchases can be completed locally")
      require (∀ hold ∈ ep.holdExpiresAt, now < hold) (.raised "purchase hold has expired")
      require (¬ s.RecoveryPending ep)
        (.raised "checkout is unavailable while refund recovery is in progress")
      require (s.group.active = true ∧ s.event.deleted = false ∧ s.event.published = true
          ∧ s.event.canceled = false ∧ ∀ t ∈ s.event.endInstant, now < t)
        (.raised "event not found or inactive")
      let manuallyInvited := decide (s.IsManualInvitation ep)
      let s ← completeOffer ep.admissionOfferId s
      let (found, s) ← confirmAttendee ep.userId manuallyInvited s
      require (found = true) (.raised "attendee cannot be confirmed for this event")
      updatePurchase purchase (fun row ↦ row.complete row.providerPaymentReference) s

/-- `refund_free_event_purchase`. -/
def refundFreeEventPurchase (purchase : Uuid) (s : Enrollment) : Except DbError Enrollment :=
  match s.purchases.find? fun ep ↦ ep.eventPurchaseId = purchase ∧ ep.amountMinor = 0
      ∧ ep.status.IsEntitled with
  | none => .error (.raised "free purchase not found")
  | some ep => do
    let s ← writePurchase ep { ep with status := .refunded } s
    .ok (releaseEventDiscountCodeAvailability ep.eventDiscountCodeId s)

/-! ## The provider's report -/

/-- What the provider reports of a completed checkout session. -/
structure CompletedSession where
  ref : SessionRef
  providerPaymentReference : Option String
  providerChargeId : Option String
  providerTotalMinor : Option ℤ
  taxAmountMinor : Option ℤ
  providerApplicationFeeId : Option String
  deriving DecidableEq, Repr

/-- How the report was settled; a refund carries the amount to give back. -/
inductive SettledCheckout
  | noop
  | completed (user : Uuid)
  | refundQueued (ep : Purchase) (providerTotalMinor : ℤ)
  deriving DecidableEq, Repr

/-- The purchase is not reconciled yet: pending, waiting for a refund, or expired with its hold. -/
def Purchase.AwaitsReport (now : Timestamp) (ep : Purchase) : Prop :=
  ep.status ∈ [PurchaseStatus.pending, .refundPending]
    ∨ (ep.status = .expired ∧ ∃ hold ∈ ep.holdExpiresAt, hold ≤ now)

instance (now : Timestamp) (ep : Purchase) : Decidable (ep.AwaitsReport now) :=
  inferInstanceAs (Decidable (_ ∨ _))

/-- The checkout can no longer be fulfilled: the event closed, or the claimed offer is gone. -/
def Enrollment.Unfulfillable (s : Enrollment) (now : Timestamp) (ep : Purchase) : Prop :=
  s.event.canceled = true ∨ s.event.deleted = true ∨ s.event.published = false
    ∨ s.group.active = false ∨ (∃ t ∈ s.event.endInstant, t ≤ now)
    ∨ ∃ ao ∈ s.admissionOffers, some ao.admissionOfferId = ep.admissionOfferId
      ∧ (ao.status ≠ .checkoutPending ∨ ao.expiresAt ≤ now)

instance (s : Enrollment) (now : Timestamp) (ep : Purchase) :
    Decidable (s.Unfulfillable now ep) :=
  inferInstanceAs (Decidable (_ ∨ _))

/-- `v_requires_refund`. -/
def Enrollment.RequiresRefund (s : Enrollment) (now : Timestamp) (ep : Purchase) : Prop :=
  ep.status = .refundPending ∨ (∃ hold ∈ ep.holdExpiresAt, hold ≤ now) ∨ s.RecoveryPending ep
    ∨ s.Unfulfillable now ep

instance (s : Enrollment) (now : Timestamp) (ep : Purchase) :
    Decidable (s.RequiresRefund now ep) :=
  inferInstanceAs (Decidable (_ ∨ _))

/-- Validates the reported amounts against the snapshotted tax display and derives the fee. -/
def authoritativeAmounts (report : CompletedSession) (ep : Purchase) :
    Except DbError FinancialAmounts :=
  match report.providerTotalMinor, report.taxAmountMinor with
  | some total, some tax => do
    require (0 < total ∧ 0 ≤ tax ∧ 0 ≤ total - tax)
      (.raised "direct-charge checkout is missing authoritative amounts")
    require (tax = 0 ∨ ep.taxCalculationMode ≠ some .noTax)
      (.raised "no-tax checkout must have zero tax")
    require ((ep.taxBehavior = some .inclusive → total = ep.amountMinor)
        ∧ (ep.taxBehavior = some .exclusive → total - tax = ep.amountMinor))
      (.raised "provider total does not match the ticket tax behavior")
    .ok
      { finalPlatformFeeAmountMinor := ((total - tax) * ep.platformFeeBps).tdiv 10000
        providerTotalMinor := total
        subtotalExcludingTaxMinor := total - tax
        taxAmountMinor := tax }
  | _, _ => .error (.raised "direct-charge checkout is missing authoritative amounts")

/-- The row with the reported amounts and references, before any status change. -/
def Purchase.recordReport (report : CompletedSession) (amounts : FinancialAmounts)
    (ep : Purchase) : Purchase :=
  { ep with
    financialAmounts := some amounts
    providerApplicationFeeId :=
      report.providerApplicationFeeId.or ep.providerApplicationFeeId
    providerChargeId := report.providerChargeId }

/-- Moves a paid checkout that can no longer be fulfilled to its refund. A hold that was still
pending gives back its discount; an expired one already did. -/
def reserveRefund (now : Timestamp) (reference : Option String) (ep : Purchase) (s : Enrollment) :
    Except DbError Enrollment := do
  let s ← writePurchase ep (ep.awaitRefund reference) s
  let s := if ep.status = .pending then
    releaseEventDiscountCodeAvailability ep.eventDiscountCodeId s else s
  .ok (releaseEventCheckoutAttendeeHold now ep.userId s)

/-- Completes an active hold, or refunds it when the attendee row cannot be revived. -/
def fulfillCheckout (now : Timestamp) (reference : Option String) (manuallyInvited : Bool)
    (amounts : FinancialAmounts) (ep : Purchase) (s : Enrollment) :
    Except DbError (SettledCheckout × Enrollment) := do
  let s ← completeOffer ep.admissionOfferId s
  let (found, s) ← confirmAttendee ep.userId manuallyInvited s
  if found = true then do
    let s ← updatePurchase ep.eventPurchaseId (Purchase.complete reference) s
    .ok (.completed ep.userId, s)
  else do
    let s ← updatePurchase ep.eventPurchaseId (Purchase.awaitRefund reference) s
    .ok (.refundQueued ep amounts.providerTotalMinor,
      releaseEventCheckoutAttendeeHold now ep.userId
        (releaseEventDiscountCodeAvailability ep.eventDiscountCodeId s))

/-- The enrollment half of `reconcile_event_purchase_for_checkout_session`: everything but the
durable refund row, which the source inserts last. -/
def settleCheckoutSession (now : Timestamp) (report : CompletedSession) (s : Enrollment) :
    Except DbError (SettledCheckout × Enrollment) := do
  require (nullIfBlank report.ref.providerObjectAccountId ≠ none)
    (.raised "connected seller account is required")
  require (nullIfBlank report.providerPaymentReference ≠ none
      ∧ nullIfBlank report.providerChargeId ≠ none)
    (.raised "direct-charge payment references are required")
  match s.purchases.find? fun ep ↦ ep.HasSession report.ref with
  | none => .ok (.noop, s)
  | some ep =>
    if ¬ ep.AwaitsReport now then .ok (.noop, s) else do
      let amounts ← authoritativeAmounts report ep
      require (∀ known ∈ ep.providerApplicationFeeId,
          ∀ reported ∈ report.providerApplicationFeeId, known = reported)
        (.raised "provider application fee does not match the purchase")
      let requiresRefund := decide (s.RequiresRefund now ep)
      let manuallyInvited := decide (s.IsManualInvitation ep)
      let paid := ep.recordReport report amounts
      let s ← storePurchase paid s
      let s ← if requiresRefund = true ∧ ep.status ≠ .refundPending then
        reserveRefund now report.providerPaymentReference paid s else .ok s
      -- due reservations are settled only after paid inventory stays reserved
      let (_, s) ← reconcileEventEnrollment now (some ep.eventTicketTypeId)
        (some report.ref.provider) s
      if requiresRefund = true then .ok (.refundQueued paid amounts.providerTotalMinor, s)
      else
        fulfillCheckout now report.providerPaymentReference manuallyInvited amounts paid s

end Ocg
