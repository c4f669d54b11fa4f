import Mathlib.Logic.Function.Basic
import Ocg.Ledger.Work
import Ocg.Refinement.Contracts

/-!
# The ledger of the platform's share

Beside an event's partition stand the durable fee refunds and credit notes of its purchases. The
provider's report queues the part of the fee that tax takes away, a confirmed customer refund queues
the rest and the credit note of its invoice, and the workers take both to the provider.
-/

namespace Ocg

open Relational

/-! ## Rows -/

inductive FeeAdjustmentKind
  | purchaseRefund
  | taxReconciliation
  deriving DecidableEq, Repr

structure FeeOrder where
  amountMinor : ℤ
  eventPurchaseId : Uuid
  idempotencyKey : String
  kind : FeeAdjustmentKind
  deriving DecidableEq, Repr

/-- `event_purchase_application_fee_adjustment`. -/
abbrev FeeAdjustment := WorkItem FeeOrder

structure CreditNoteOrder where
  amountMinor : ℤ
  currencyCode : String
  eventPurchaseRefundId : Uuid
  idempotencyKey : String
  paymentProviderId : String
  providerObjectAccountId : String
  taxAmountMinor : ℤ
  deriving DecidableEq, Repr

/-- `event_purchase_credit_note`. -/
abbrev CreditNote := WorkItem CreditNoteOrder

structure Ledger extends Database where
  creditNotes : List CreditNote
  feeAdjustments : List FeeAdjustment
  nextWorkUuid : Uuid
  /-- `event_purchase.provider_invoice_id`, by purchase. -/
  providerInvoiceId : Uuid → Option String

def feeTexts : WorkTexts where
  name := "application-fee adjustment"
  title := "Application-fee adjustment"
  claimIsStale := "application-fee adjustment claim is stale"
  differentEvidence := "application-fee recovery already completed with different evidence"
  differentProviderId := "application-fee adjustment has a different provider refund"
  providerIdIsRequired := "provider application-fee refund id is required"

def creditNoteTexts : WorkTexts where
  name := "credit note"
  title := "Credit-note"
  claimIsStale := "credit-note claim is stale"
  differentEvidence := "credit-note recovery already completed with different evidence"
  differentProviderId := "credit note has a different provider id"
  providerIdIsRequired := "provider credit-note id is required"

/-! ## Queueing -/

def taxFeeAdjustmentKey (purchase : Uuid) : String :=
  "event-purchase-tax-fee-adjustment-" ++ toString purchase

def refundFeeAdjustmentKey (purchase : Uuid) : String :=
  "event-purchase-refund-fee-adjustment-" ++ toString purchase

def creditNoteKey (refund : Uuid) : String := "event-purchase-credit-note-" ++ toString refund

/-- The tax-related part of the fee of a purchase. -/
def taxFeeOrder (ep : Purchase) (amounts : FinancialAmounts) : FeeOrder where
  amountMinor := ep.provisionalPlatformFeeAmountMinor - amounts.finalPlatformFeeAmountMinor
  eventPurchaseId := ep.eventPurchaseId
  idempotencyKey := taxFeeAdjustmentKey ep.eventPurchaseId
  kind := .taxReconciliation

/-- The fee that is left of a refunded purchase. -/
def refundFeeOrder (ep : Purchase) (amounts : FinancialAmounts) : FeeOrder where
  amountMinor := amounts.finalPlatformFeeAmountMinor
  eventPurchaseId := ep.eventPurchaseId
  idempotencyKey := refundFeeAdjustmentKey ep.eventPurchaseId
  kind := .purchaseRefund

/-- The purchase has its adjustment of a kind. -/
def Ledger.HasFeeAdjustment (l : Ledger) (purchase : Uuid) (kind : FeeAdjustmentKind) : Prop :=
  ∃ row ∈ l.feeAdjustments, row.order.eventPurchaseId = purchase ∧ row.order.kind = kind

instance (l : Ledger) (purchase : Uuid) (kind : FeeAdjustmentKind) :
    Decidable (l.HasFeeAdjustment purchase kind) :=
  inferInstanceAs (Decidable (∃ row ∈ l.feeAdjustments, _))

/-- `INSERT INTO event_purchase_application_fee_adjustment … WHERE` the amount is positive
`ON CONFLICT (event_purchase_id, kind) DO NOTHING`. -/
def queueFeeAdjustment (now : Timestamp) (order : FeeOrder) (l : Ledger) : Except DbError Ledger :=
  if order.amountMinor ≤ 0 ∨ l.HasFeeAdjustment order.eventPurchaseId order.kind then .ok l
  else do
    require (∀ row ∈ l.feeAdjustments, row.order.idempotencyKey ≠ order.idempotencyKey)
      (.violated "event_purchase_application_fee_adjustment_idempotency_key_idx")
    .ok { l with
      feeAdjustments := l.feeAdjustments ++ [newWorkItem l.nextWorkUuid now order]
      nextWorkUuid := l.nextWorkUuid + 1 }

/-- The refund has its credit note. -/
def Ledger.HasCreditNote (l : Ledger) (refund : Uuid) : Prop :=
  ∃ note ∈ l.creditNotes, note.order.eventPurchaseRefundId = refund

instance (l : Ledger) (refund : Uuid) : Decidable (l.HasCreditNote refund) :=
  inferInstanceAs (Decidable (∃ note ∈ l.creditNotes, _))

/-- `INSERT INTO event_purchase_credit_note … ON CONFLICT (event_purchase_refund_id) DO NOTHING`:
the amounts, the currency, the provider and its account are not-null columns. -/
def queueCreditNote (now : Timestamp) (ep : Purchase) (r : Refund) (l : Ledger) :
    Except DbError Ledger :=
  match ep.financialAmounts, ep.currencyCode, ep.paymentProviderId, ep.providerObjectAccountId with
  | some amounts, some currencyCode, some provider, some account => do
    require (0 < amounts.providerTotalMinor ∧ 0 ≤ amounts.taxAmountMinor)
      (.violated "event_purchase_credit_note_check")
    let order : CreditNoteOrder := ⟨amounts.providerTotalMinor, currencyCode,
      r.eventPurchaseRefundId, creditNoteKey r.eventPurchaseRefundId, provider, account,
      amounts.taxAmountMinor⟩
    if l.HasCreditNote r.eventPurchaseRefundId then .ok l else do
      require (∀ note ∈ l.creditNotes, note.order.idempotencyKey ≠ order.idempotencyKey)
        (.violated "event_purchase_credit_note_idempotency_key_key")
      .ok { l with
        creditNotes := l.creditNotes ++ [newWorkItem l.nextWorkUuid now order]
        nextWorkUuid := l.nextWorkUuid + 1 }
  | _, _, _, _ => .error (.violated "event_purchase_credit_note_not_null")

/-! ## The provider's reports -/

/-- The `CHECK` of `provider_application_fee_id`. -/
def Purchase.FeeIdChk (ep : Purchase) : Prop :=
  ∀ id ∈ ep.providerApplicationFeeId, nullIfBlank (some id) ≠ none

instance (ep : Purchase) : Decidable ep.FeeIdChk :=
  inferInstanceAs (Decidable (∀ id ∈ ep.providerApplicationFeeId, _))

/-- `reconcile_event_purchase_for_checkout_session`, with the fee it leaves to refund. -/
def Ledger.reconcileEventPurchaseForCheckoutSession (now : Timestamp) (report : CompletedSession)
    (l : Ledger) : Except DbError (WebhookOutcome × Ledger) := do
  match ← checkReport now report l.toEnrollment with
  | none => .ok (.noop, l)
  | some (ep, amounts) => do
    require (ep.recordReport report amounts).FeeIdChk
      (.violated "event_purchase_provider_application_fee_id_check")
    let (outcome, db) ← Ocg.reconcileEventPurchaseForCheckoutSession now report l.toDatabase
    let l ← queueFeeAdjustment now (taxFeeOrder ep amounts) { l with toDatabase := db }
    .ok (outcome, l)

/-- The row that a reported success is accepted for: neither superseded nor terminally failed. -/
def Database.acceptedRefund (db : Database) (result : RefundResult) : Option Refund :=
  match loadRefundForResult result db with
  | .ok (r, key, _) => if r.idempotencyKey ≠ key ∨ r.IsTerminal then none else some r
  | .error _ => none

/-- The purchase of an accepted refund gives back the rest of its fee, and its invoice is
credited. -/
def settleConfirmedRefund (now : Timestamp) (r : Refund) (ep : Purchase) (l : Ledger) :
    Except DbError Ledger := do
  let l ← match ep.financialAmounts with
    | none => .ok l
    | some amounts => queueFeeAdjustment now (refundFeeOrder ep amounts) l
  if l.providerInvoiceId ep.eventPurchaseId = none then .ok l
  else queueCreditNote now ep r l

/-- `record_event_purchase_refund_succeeded`, with the work that it queues. -/
def Ledger.recordEventPurchaseRefundSucceeded (now : Timestamp) (result : RefundResult)
    (l : Ledger) : Except DbError Ledger := do
  let db ← Ocg.recordEventPurchaseRefundSucceeded now result l.toDatabase
  let recorded := { l with toDatabase := db }
  match l.toDatabase.acceptedRefund result with
  | none => .ok recorded
  | some r =>
    match db.purchases.find? fun ep ↦ ep.eventPurchaseId = r.eventPurchaseId with
    | none => .ok recorded
    | some ep => settleConfirmedRefund now r ep recorded

/-- `attach_application_fee_to_event_purchase`. -/
def attachApplicationFeeToEventPurchase (provider : String)
    (connectedSellerId providerChargeId providerApplicationFeeId : Option String)
    (amountMinor : Option ℤ) (s : Enrollment) : Except DbError Enrollment := do
  require (nullIfBlank connectedSellerId ≠ none ∧ nullIfBlank providerChargeId ≠ none
      ∧ nullIfBlank providerApplicationFeeId ≠ none)
    (.raised "application fee is missing provider context")
  require (∃ amount ∈ amountMinor, 0 < amount)
    (.raised "application fee amount must be positive")
  match s.purchases.find? fun ep ↦ ep.paymentProviderId = some provider
      ∧ ep.connectedSellerId = connectedSellerId ∧ ep.providerChargeId = providerChargeId with
  | none => .error (.raised "direct-charge purchase not found for application fee")
  | some ep => do
    require (some ep.provisionalPlatformFeeAmountMinor = amountMinor)
      (.raised "application fee amount does not match the purchase")
    require (∀ known ∈ ep.providerApplicationFeeId, some known = providerApplicationFeeId)
      (.raised "purchase has a different provider application fee")
    storePurchase { ep with providerApplicationFeeId := providerApplicationFeeId } s

/-- `event_purchase_provider_invoice_id_idx`. -/
def Ledger.SharesInvoice (l : Ledger) (invoice : String) (ep other : Purchase) : Prop :=
  ep.paymentProviderId ≠ none ∧ other.paymentProviderId = ep.paymentProviderId
    ∧ other.providerObjectAccountId = ep.providerObjectAccountId
    ∧ l.providerInvoiceId other.eventPurchaseId = some invoice

instance (l : Ledger) (invoice : String) (ep other : Purchase) :
    Decidable (l.SharesInvoice invoice ep other) :=
  inferInstanceAs (Decidable (_ ∧ _ ∧ _ ∧ _))

/-- `attach_invoice_to_event_purchase`. -/
def attachInvoiceToEventPurchase (now : Timestamp) (purchase : Uuid)
    (connectedSellerId providerInvoiceId : String) (l : Ledger) : Except DbError Ledger :=
  match l.purchases.find? fun ep ↦ ep.eventPurchaseId = purchase with
  | none => .error (.raised "event purchase not found")
  | some ep => do
    require (ep.chargeModel = .directCharge ∧ ep.providerObjectAccountId = some connectedSellerId)
      (.raised "invoice account does not match the purchase seller")
    require (∀ known ∈ l.providerInvoiceId purchase, known = providerInvoiceId)
      (.raised "event purchase already has a different provider invoice")
    require (nullIfBlank (some providerInvoiceId) ≠ none)
      (.violated "event_purchase_provider_invoice_id_check")
    require (∀ other ∈ l.purchases, other.eventPurchaseId ≠ purchase →
        ¬ l.SharesInvoice providerInvoiceId ep other)
      (.violated "event_purchase_provider_invoice_id_idx")
    let attached := { l with
      providerInvoiceId := Function.update l.providerInvoiceId purchase (some providerInvoiceId) }
    match l.refunds.find? fun r ↦ r.eventPurchaseId = purchase ∧ r.providerRefundedAt ≠ none with
    | none => .ok attached
    -- the refund arrived before its invoice
    | some r => queueCreditNote now ep r attached

/-! ## The workers -/

/-- The purchase of a fee adjustment is paid through the provider. -/
def Ledger.PaysThrough (l : Ledger) (provider : String) (order : FeeOrder) : Prop :=
  ∃ ep ∈ l.purchases, ep.eventPurchaseId = order.eventPurchaseId
    ∧ ep.paymentProviderId = some provider

instance (l : Ledger) (provider : String) (order : FeeOrder) :
    Decidable (l.PaysThrough provider order) :=
  inferInstanceAs (Decidable (∃ ep ∈ l.purchases, _))

/-- The purchase of a fee adjustment has the fee that it adjusts. -/
def Ledger.HasFee (l : Ledger) (provider : String) (order : FeeOrder) : Prop :=
  ∃ ep ∈ l.purchases, ep.eventPurchaseId = order.eventPurchaseId
    ∧ ep.paymentProviderId = some provider ∧ ep.providerApplicationFeeId ≠ none

instance (l : Ledger) (provider : String) (order : FeeOrder) :
    Decidable (l.HasFee provider order) :=
  inferInstanceAs (Decidable (∃ ep ∈ l.purchases, _))

/-- The seller and the fee of an adjustment are not blank. -/
def Ledger.HasFeeContext (l : Ledger) (order : FeeOrder) : Prop :=
  ∃ ep ∈ l.purchases, ep.eventPurchaseId = order.eventPurchaseId
    ∧ nullIfBlank ep.connectedSellerId ≠ none ∧ nullIfBlank ep.providerApplicationFeeId ≠ none

instance (l : Ledger) (order : FeeOrder) : Decidable (l.HasFeeContext order) :=
  inferInstanceAs (Decidable (∃ ep ∈ l.purchases, _))

/-- `claim_event_purchase_application_fee_adjustment`. -/
def claimEventPurchaseApplicationFeeAdjustment (locked : Uuid → Bool) (now : Timestamp)
    (provider : String) (l : Ledger) : Except DbError (Option FeeAdjustment × Ledger) := do
  let (claimed, rows) ← claimWork locked feeTexts (l.PaysThrough provider) (l.HasFee provider)
    l.HasFeeContext now l.nextWorkUuid l.feeAdjustments
  .ok (claimed, { l with feeAdjustments := rows, nextWorkUuid := l.nextWorkUuid + 1 })

/-- The customer refund of a credit note is confirmed. -/
def Ledger.HasRefundToCredit (l : Ledger) (provider : String) (order : CreditNoteOrder) : Prop :=
  order.paymentProviderId = provider ∧ ∃ r ∈ l.refunds,
    r.eventPurchaseRefundId = order.eventPurchaseRefundId ∧ r.providerRefundedAt ≠ none

instance (l : Ledger) (provider : String) (order : CreditNoteOrder) :
    Decidable (l.HasRefundToCredit provider order) :=
  inferInstanceAs (Decidable (_ ∧ ∃ r ∈ l.refunds, _))

/-- The seller, the invoice and the provider's refund of a credit note are not blank. -/
def Ledger.HasCreditContext (l : Ledger) (order : CreditNoteOrder) : Prop :=
  ∃ r ∈ l.refunds, r.eventPurchaseRefundId = order.eventPurchaseRefundId
    ∧ nullIfBlank r.providerRefundId ≠ none
    ∧ ∃ ep ∈ l.purchases, ep.eventPurchaseId = r.eventPurchaseId
      ∧ nullIfBlank ep.connectedSellerId ≠ none
      ∧ nullIfBlank (l.providerInvoiceId ep.eventPurchaseId) ≠ none

instance (l : Ledger) (order : CreditNoteOrder) : Decidable (l.HasCreditContext order) :=
  inferInstanceAs (Decidable (∃ r ∈ l.refunds, _))

/-- `claim_event_purchase_credit_note`. -/
def claimEventPurchaseCreditNote (locked : Uuid → Bool) (now : Timestamp) (provider : String)
    (l : Ledger) : Except DbError (Option CreditNote × Ledger) := do
  let (claimed, rows) ← claimWork locked creditNoteTexts (·.paymentProviderId = provider)
    (l.HasRefundToCredit provider) l.HasCreditContext now l.nextWorkUuid l.creditNotes
  .ok (claimed, { l with creditNotes := rows, nextWorkUuid := l.nextWorkUuid + 1 })

/-- A work function on the fee adjustments. -/
def onFeeAdjustments (f : List FeeAdjustment → Except DbError (List FeeAdjustment)) (l : Ledger) :
    Except DbError Ledger := do
  let rows ← f l.feeAdjustments
  .ok { l with feeAdjustments := rows }

/-- A work function on the credit notes. -/
def onCreditNotes (f : List CreditNote → Except DbError (List CreditNote)) (l : Ledger) :
    Except DbError Ledger := do
  let rows ← f l.creditNotes
  .ok { l with creditNotes := rows }

/-- `record_event_purchase_application_fee_adjustment_succeeded`. -/
def recordEventPurchaseApplicationFeeAdjustmentSucceeded (now : Timestamp) (item claimId : Uuid)
    (providerObjectId : Option String) : Ledger → Except DbError Ledger :=
  onFeeAdjustments (recordWorkSucceeded feeTexts now item claimId providerObjectId)

/-- `record_event_purchase_application_fee_adjustment_failure`. -/
def recordEventPurchaseApplicationFeeAdjustmentFailure (now : Timestamp) (item claimId : Uuid)
    (failureMessage : Option String) : Ledger → Except DbError Ledger :=
  onFeeAdjustments (recordWorkFailure feeTexts now item claimId failureMessage)

/-- `requeue_event_purchase_application_fee_adjustment`. -/
def requeueEventPurchaseApplicationFeeAdjustment (now : Timestamp) (groupId item : Uuid)
    (l : Ledger) : Except DbError Ledger :=
  onFeeAdjustments (requeueWork feeTexts (l.group.groupId = groupId) now item) l

/-- `requeue_stale_event_purchase_application_fee_adjustment_claims`. -/
def requeueStaleEventPurchaseApplicationFeeAdjustmentClaims (now : Timestamp) :
    Ledger → Except DbError Ledger :=
  onFeeAdjustments fun rows ↦ .ok (requeueStaleWork feeTexts now rows).2

/-- `complete_event_purchase_application_fee_adjustment_recovery`. -/
def completeEventPurchaseApplicationFeeAdjustmentRecovery (env : Env) (now : Timestamp)
    (item : Uuid) (evidence : WorkEvidence) (l : Ledger) : Except DbError Ledger :=
  onFeeAdjustments (completeWorkRecovery feeTexts (l.group.groupId = ·)
    (env.hasEventsWrite · = true) now item evidence) l

/-- `record_event_purchase_credit_note_succeeded`. -/
def recordEventPurchaseCreditNoteSucceeded (now : Timestamp) (item claimId : Uuid)
    (providerObjectId : Option String) : Ledger → Except DbError Ledger :=
  onCreditNotes (recordWorkSucceeded creditNoteTexts now item claimId providerObjectId)

/-- `record_event_purchase_credit_note_failure`. -/
def recordEventPurchaseCreditNoteFailure (now : Timestamp) (item claimId : Uuid)
    (failureMessage : Option String) : Ledger → Except DbError Ledger :=
  onCreditNotes (recordWorkFailure creditNoteTexts now item claimId failureMessage)

/-- `requeue_event_purchase_credit_note`. -/
def requeueEventPurchaseCreditNote (now : Timestamp) (groupId item : Uuid) (l : Ledger) :
    Except DbError Ledger :=
  onCreditNotes (requeueWork creditNoteTexts (l.group.groupId = groupId) now item) l

/-- `requeue_stale_event_purchase_credit_note_claims`. -/
def requeueStaleEventPurchaseCreditNoteClaims (now : Timestamp) : Ledger → Except DbError Ledger :=
  onCreditNotes fun rows ↦ .ok (requeueStaleWork creditNoteTexts now rows).2

/-- `complete_event_purchase_credit_note_recovery`. -/
def completeEventPurchaseCreditNoteRecovery (env : Env) (now : Timestamp) (item : Uuid)
    (evidence : WorkEvidence) (l : Ledger) : Except DbError Ledger :=
  onCreditNotes (completeWorkRecovery creditNoteTexts (l.group.groupId = ·)
    (env.hasEventsWrite · = true) now item evidence) l

/-! ## Histories -/

inductive LedgerOperation
  | operation (op : Operation)
  | attachApplicationFeeToEventPurchase (provider : String)
      (connectedSellerId providerChargeId providerApplicationFeeId : Option String)
      (amountMinor : Option ℤ)
  | attachInvoiceToEventPurchase (purchase : Uuid) (connectedSellerId providerInvoiceId : String)
  | claimEventPurchaseApplicationFeeAdjustment (locked : Uuid → Bool) (provider : String)
  | recordEventPurchaseApplicationFeeAdjustmentSucceeded (item claimId : Uuid)
      (providerObjectId : Option String)
  | recordEventPurchaseApplicationFeeAdjustmentFailure (item claimId : Uuid)
      (failureMessage : Option String)
  | requeueEventPurchaseApplicationFeeAdjustment (groupId item : Uuid)
  | requeueStaleEventPurchaseApplicationFeeAdjustmentClaims
  | completeEventPurchaseApplicationFeeAdjustmentRecovery (item : Uuid) (evidence : WorkEvidence)
  | claimEventPurchaseCreditNote (locked : Uuid → Bool) (provider : String)
  | recordEventPurchaseCreditNoteSucceeded (item claimId : Uuid) (providerObjectId : Option String)
  | recordEventPurchaseCreditNoteFailure (item claimId : Uuid) (failureMessage : Option String)
  | requeueEventPurchaseCreditNote (groupId item : Uuid)
  | requeueStaleEventPurchaseCreditNoteClaims
  | completeEventPurchaseCreditNoteRecovery (item : Uuid) (evidence : WorkEvidence)

/-- An operation of the partition that queues no work. -/
def onDatabase (f : Database → Except DbError Database) (l : Ledger) : Except DbError Ledger := do
  let db ← f l.toDatabase
  .ok { l with toDatabase := db }

/-- The transaction of an operation of the partition, with the work that it queues. -/
def Operation.runOnLedger (env : Env) (now : Timestamp) (op : Operation) :
    Ledger → Except DbError Ledger :=
  match op with
  | .reconcileEventPurchaseForCheckoutSession report => fun l ↦
      stateOf (l.reconcileEventPurchaseForCheckoutSession now report)
  | .recordEventPurchaseRefundSucceeded result => fun l ↦
      l.recordEventPurchaseRefundSucceeded now result
  | op => onDatabase (op.run env now)

/-- The transaction of an operation that starts at `now`. -/
def LedgerOperation.run (env : Env) (now : Timestamp) :
    LedgerOperation → Ledger → Except DbError Ledger
  | .operation op => op.runOnLedger env now
  | .attachApplicationFeeToEventPurchase provider seller charge fee amountMinor =>
      onDatabase (onEnrollment
        (Ocg.attachApplicationFeeToEventPurchase provider seller charge fee amountMinor))
  | .attachInvoiceToEventPurchase purchase seller invoice =>
      Ocg.attachInvoiceToEventPurchase now purchase seller invoice
  | .claimEventPurchaseApplicationFeeAdjustment locked provider => fun l ↦
      stateOf (Ocg.claimEventPurchaseApplicationFeeAdjustment locked now provider l)
  | .recordEventPurchaseApplicationFeeAdjustmentSucceeded item claimId providerObjectId =>
      Ocg.recordEventPurchaseApplicationFeeAdjustmentSucceeded now item claimId providerObjectId
  | .recordEventPurchaseApplicationFeeAdjustmentFailure item claimId failureMessage =>
      Ocg.recordEventPurchaseApplicationFeeAdjustmentFailure now item claimId failureMessage
  | .requeueEventPurchaseApplicationFeeAdjustment groupId item =>
      Ocg.requeueEventPurchaseApplicationFeeAdjustment now groupId item
  | .requeueStaleEventPurchaseApplicationFeeAdjustmentClaims =>
      Ocg.requeueStaleEventPurchaseApplicationFeeAdjustmentClaims now
  | .completeEventPurchaseApplicationFeeAdjustmentRecovery item evidence =>
      Ocg.completeEventPurchaseApplicationFeeAdjustmentRecovery env now item evidence
  | .claimEventPurchaseCreditNote locked provider => fun l ↦
      stateOf (Ocg.claimEventPurchaseCreditNote locked now provider l)
  | .recordEventPurchaseCreditNoteSucceeded item claimId providerObjectId =>
      Ocg.recordEventPurchaseCreditNoteSucceeded now item claimId providerObjectId
  | .recordEventPurchaseCreditNoteFailure item claimId failureMessage =>
      Ocg.recordEventPurchaseCreditNoteFailure now item claimId failureMessage
  | .requeueEventPurchaseCreditNote groupId item =>
      Ocg.requeueEventPurchaseCreditNote now groupId item
  | .requeueStaleEventPurchaseCreditNoteClaims => Ocg.requeueStaleEventPurchaseCreditNoteClaims now
  | .completeEventPurchaseCreditNoteRecovery item evidence =>
      Ocg.completeEventPurchaseCreditNoteRecovery env now item evidence

/-- A fresh event without any work. -/
structure Ledger.Fresh (l : Ledger) : Prop where
  database : l.toDatabase.Fresh
  creditNotes : l.creditNotes = []
  feeAdjustments : l.feeAdjustments = []
  providerInvoiceId : ∀ purchase, l.providerInvoiceId purchase = none

/-- One committed transaction. -/
def LedgerStep (now : Timestamp) (l l' : Ledger) : Prop :=
  ∃ (env : Env) (op : LedgerOperation), op.run env now l = .ok l'

/-- A state of the ledger, under any order of start times. -/
def Ledger.Reached (now : Timestamp) (l : Ledger) : Prop :=
  Reachable LedgerStep AnyOrder Ledger.Fresh now l

end Ocg
