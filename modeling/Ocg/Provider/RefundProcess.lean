import Ocg.Provider.Refunds

/-!
# The refund worker and the refund webhook

Both are sequences of calls: a transaction, a request to the provider, another transaction. Between
two calls everything else may happen, and a process may be stopped for good. `RefundProcess` is
where a process stands, with what it has loaded by then; `RefundProcess.Next` is one call. A call to
the provider may be executed although its answer is lost, and a transaction may commit although the
caller sees an error.

`PaymentStep` lets any number of such processes run beside the operations of the event. Reports of
the provider are recorded by processes only.
-/

namespace Ocg

open Relational

/-! ## The worker's decisions -/

/-- `ClaimedEventPurchaseRefund`, as far as the worker reads it. -/
structure ClaimedRefund where
  refund : Refund
  connectedSellerId : String
  providerPaymentReference : Option String
  deriving DecidableEq, Repr

/-- The answer of `claim_event_purchase_refund` about the claimed row. -/
def Database.claimedRefund (r : Refund) (db : Database) : Option ClaimedRefund := do
  let ep ← db.purchases.find? fun ep ↦ ep.eventPurchaseId = r.eventPurchaseId
  let seller ← ep.connectedSellerId
  some ⟨r, seller, ep.providerPaymentReference⟩

def ClaimedRefund.findInput (reference : String) (claimed : ClaimedRefund) : FindRefundInput where
  amountMinor := claimed.refund.amountMinor
  connectedSellerId := claimed.connectedSellerId
  providerPaymentReference := reference
  purchaseId := claimed.refund.eventPurchaseId
  providerRefundId := claimed.refund.providerRefundId

/-- `build_refund_form_fields`, with the headers of the request. -/
def ClaimedRefund.creation (reference : String) (claimed : ClaimedRefund) : RefundCreation where
  account := claimed.connectedSellerId
  amount := claimed.refund.amountMinor
  idempotencyKey := claimed.refund.idempotencyKey
  metadata := [("event_purchase_id", toString claimed.refund.eventPurchaseId)]
  paymentIntent := reference

/-- Where a worker or a webhook request stands: what it does next, with what it has loaded. -/
inductive RefundProcess
  | finding (claimed : ClaimedRefund)
  | creating (claimed : ClaimedRefund) (reference : String)
  | recordingAttempt (claimed : ClaimedRefund) (result : RefundPaymentResult)
  | finalizing (claimed : ClaimedRefund)
  | releasing (claimed : ClaimedRefund) (message : String)
  | received (event : RefundUpdatedInput)
  | loading (event : RefundUpdatedInput) (purchase : Purchase)
  | refreshing (event : RefundUpdatedInput) (purchase : Purchase) (refund : Refund)
  | recordingEvent (refund : Refund) (result : RefundPaymentResult)

/-- `process_next_refund`, after its claim. -/
def ClaimedRefund.start (claimed : ClaimedRefund) : RefundProcess :=
  if claimed.refund.providerRefundedAt ≠ none then .finalizing claimed else .finding claimed

/-- `reconcile_provider_refund`, after its lookup. -/
def ClaimedRefund.afterFind (reference : String)
    (response : Except String (Option RefundPaymentResult)) (claimed : ClaimedRefund) :
    RefundProcess :=
  match response with
  | .error message => .releasing claimed message
  | .ok (some result) => .recordingAttempt claimed result
  | .ok none =>
    if claimed.refund.providerRefundId ≠ none then .releasing claimed "provider refund not found"
    else .creating claimed reference

/-- `reconcile_provider_refund`, after its creation. -/
def ClaimedRefund.afterCreate (response : Except String RefundPaymentResult)
    (claimed : ClaimedRefund) : RefundProcess :=
  match response with
  | .error message => .releasing claimed message
  | .ok result => .recordingAttempt claimed result

/-- `persist_provider_refund_result`: the transaction that records a result for the loaded row,
unless the row already has that terminal failure. -/
def Refund.persist (result : RefundPaymentResult) (refund : Refund) : Option Operation :=
  let report : RefundResult := ⟨refund.eventPurchaseRefundId, some refund.idempotencyKey,
    some result.providerRefundId, refund.claimId⟩
  match result.status with
  | .failed =>
    if refund.terminalFailure = true ∧ refund.providerRefundId = some result.providerRefundId then
      none
    else some (.recordEventPurchaseRefundTerminalFailed report (some "provider refund failed"))
  | .pending => some (.recordEventPurchaseRefundPending report)
  | .succeeded => some (.recordEventPurchaseRefundSucceeded report)

/-- What the worker does once the result is durable. -/
def ClaimedRefund.afterRecord (result : RefundPaymentResult) (claimed : ClaimedRefund) :
    Option RefundProcess :=
  if result.status = .succeeded then some (.finalizing claimed) else none

/-! ## The webhook's decisions -/

/-- `validate_provider_account`. -/
def validateProviderAccount (purchase : Purchase) (connectedAccountId : String) :
    Except String Unit :=
  if purchase.providerObjectAccountId ≠ some connectedAccountId then
    .error "webhook connected account does not match purchase"
  else .ok ()

/-- `validate_refund_purchase_event`. -/
def validateRefundPurchaseEvent (purchase : Purchase) (event : RefundUpdatedInput) :
    Except String Unit :=
  if (purchase.financialAmounts.map (·.providerTotalMinor)).getD purchase.amountMinor
      ≠ event.amountMinor then
    .error "refund webhook amount does not match purchase"
  else if ¬ ∃ currency ∈ purchase.currencyCode, currency.toLower = event.currencyCode.toLower then
    .error "refund webhook currency does not match purchase"
  else if purchase.providerPaymentReference ≠ some event.providerPaymentReference then
    .error "refund webhook payment reference does not match purchase"
  else .ok ()

/-- The check of `load_refund_for_purchase` before it reads the refund. -/
def checkAwaitsRefund (purchase : Purchase) : Except String Unit :=
  if purchase.status ∈ [PurchaseStatus.refundPending, .refundRequested, .refunded,
      .refundRecoveryPending] then .ok ()
  else .error "event purchase is not awaiting a refund"

/-- What `handle_refund_updated` checks of the purchase. -/
def validateEventPurchase (event : RefundUpdatedInput) (purchase : Purchase) :
    Except String Unit := do
  validateProviderAccount purchase event.connectedAccountId
  validateRefundPurchaseEvent purchase event
  checkAwaitsRefund purchase

/-- `validate_refund_event`: whether the event is about the row's current attempt. -/
def validateRefundEvent (provider : String) (event : RefundUpdatedInput) (purchase : Purchase)
    (refund : Refund) : Except String Bool := do
  validateRefundPurchaseEvent purchase event
  if refund.paymentProviderId ≠ provider then
    .error "refund webhook provider does not match purchase"
  else if refund.amountMinor ≠ event.amountMinor then
    .error "refund webhook amount does not match purchase"
  else .ok (decide (∀ id ∈ refund.providerRefundId, id = event.providerRefundId))

/-- The event comes after an outcome that only a failure may replace. -/
def Refund.Outlives (refund : Refund) (event : RefundUpdatedInput) : Prop :=
  event.status ≠ .failed ∧ (refund.IsTerminal
    ∨ refund.status ∈ [RefundStatus.finalized, .providerSucceeded])

instance (refund : Refund) (event : RefundUpdatedInput) : Decidable (refund.Outlives event) :=
  inferInstanceAs (Decidable (_ ∧ _))

/-- `handle_refund_updated`, after it loaded the refund: nothing for a stale event, a refresh for a
success that the row is not pinned to, and the event's own status otherwise. -/
def decideRefundEvent (provider : String) (event : RefundUpdatedInput) (purchase : Purchase)
    (refund : Refund) : Except String (Option RefundProcess) := do
  let isCurrentAttempt ← validateRefundEvent provider event purchase refund
  if isCurrentAttempt = false ∨ refund.Outlives event then .ok none
  else if event.status = .succeeded ∧ refund.providerRefundId = none then
    .ok (some (.refreshing event purchase refund))
  else .ok (some (.recordingEvent refund ⟨event.providerRefundId, event.status⟩))

/-- The lookup of `refresh_unpinned_success_status`. -/
def refreshInput (event : RefundUpdatedInput) (seller : String) (refund : Refund) :
    FindRefundInput where
  amountMinor := refund.amountMinor
  connectedSellerId := seller
  providerPaymentReference := event.providerPaymentReference
  purchaseId := refund.eventPurchaseId
  providerRefundId := some event.providerRefundId

/-- `refresh_unpinned_success_status`, after its lookup. -/
def afterRefresh (event : RefundUpdatedInput) (refund : Refund)
    (response : Except String (Option RefundPaymentResult)) : Option RefundProcess :=
  match response with
  | .ok (some result) =>
    if result.providerRefundId ≠ event.providerRefundId then none
    else some (.recordingEvent refund ⟨event.providerRefundId, result.status⟩)
  | _ => none

/-! ## One call -/

/-- The database, the provider, and every process that has not ended. -/
structure PaymentSystem where
  db : Database
  stripe : Stripe
  processes : List RefundProcess

/-- One call of a process, and where it stands afterwards; it ends in `none`. -/
inductive RefundProcess.Next (env : Env) (now : Timestamp) (db : Database) (stripe : Stripe) :
    RefundProcess → Database → Stripe → Option RefundProcess → Prop
  /-- The process is stopped. -/
  | stop (process : RefundProcess) : process.Next env now db stripe db stripe none
  | missReference {claimed : ClaimedRefund} (hnone : claimed.providerPaymentReference = none) :
    RefundProcess.Next env now db stripe (.finding claimed) db stripe
      (some (.releasing claimed "provider payment reference is missing"))
  | find {claimed : ClaimedRefund} {reference : String}
      (hreference : claimed.providerPaymentReference = some reference) :
    RefundProcess.Next env now db stripe (.finding claimed) db stripe
      (some (claimed.afterFind reference (findMatchingRefundResult (claimed.findInput reference)
        (stripe.listRefunds claimed.connectedSellerId reference))))
  | failToFind {claimed : ClaimedRefund} {reference : String} (message : String)
      (hreference : claimed.providerPaymentReference = some reference) :
    RefundProcess.Next env now db stripe (.finding claimed) db stripe
      (some (claimed.afterFind reference (.error message)))
  | refuseAmount {claimed : ClaimedRefund} {reference : String}
      (hamount : claimed.refund.amountMinor ≤ 0) :
    RefundProcess.Next env now db stripe (.creating claimed reference) db stripe
      (some (claimed.afterCreate (.error "cannot refund a non-positive purchase amount")))
  /-- The request is not executed, or it was executed before and the answer is lost. -/
  | failToCreate {claimed : ClaimedRefund} {reference : String} (message : String) :
    RefundProcess.Next env now db stripe (.creating claimed reference) db stripe
      (some (claimed.afterCreate (.error message)))
  | create {claimed : ClaimedRefund} {reference id currency status : String}
      {response : Except String RefundPaymentResult} (hamount : 0 < claimed.refund.amountMinor)
      (hnew : ¬ stripe.Remembers claimed.connectedSellerId claimed.refund.idempotencyKey)
      (hid : ∀ old ∈ stripe.refunds, old.id ≠ id)
      (hroom : stripe.HasRoom claimed.connectedSellerId reference)
      (hresponse : response = refundResult id status ∨ ∃ message, response = .error message) :
    RefundProcess.Next env now db stripe (.creating claimed reference) db
      (stripe.execute (claimed.creation reference) id currency status)
      (some (claimed.afterCreate response))
  | repeatCreate {claimed : ClaimedRefund} {reference : String} {answer : RefundAnswer}
      (hanswer : answer ∈ stripe.answers) (hrequest : answer.request = claimed.creation reference) :
    RefundProcess.Next env now db stripe (.creating claimed reference) db stripe
      (some (claimed.afterCreate (refundResult answer.id answer.status)))
  | keepFailure {claimed : ClaimedRefund} {result : RefundPaymentResult}
      (hnone : claimed.refund.persist result = none) :
    RefundProcess.Next env now db stripe (.recordingAttempt claimed result) db stripe
      (claimed.afterRecord result)
  | recordAttempt {claimed : ClaimedRefund} {result : RefundPaymentResult} {op : Operation}
      {db' : Database} (hop : claimed.refund.persist result = some op)
      (hrun : op.run env now db = .ok db') :
    RefundProcess.Next env now db stripe (.recordingAttempt claimed result) db' stripe
      (claimed.afterRecord result)
  /-- The transaction commits, but the worker does not hear of it. -/
  | recordUnheard {claimed : ClaimedRefund} {result : RefundPaymentResult} {op : Operation}
      {db' : Database} (message : String) (hop : claimed.refund.persist result = some op)
      (hrun : op.run env now db = .ok db') :
    RefundProcess.Next env now db stripe (.recordingAttempt claimed result) db' stripe
      (some (.releasing claimed message))
  | failToRecord {claimed : ClaimedRefund} {result : RefundPaymentResult} (message : String) :
    RefundProcess.Next env now db stripe (.recordingAttempt claimed result) db stripe
      (some (.releasing claimed message))
  | finalize {claimed : ClaimedRefund} {claim : Uuid} {db' : Database}
      {process : Option RefundProcess} (hclaim : claimed.refund.claimId = some claim)
      (hrun : (Operation.finalizeEventPurchaseRefund claimed.refund.eventPurchaseRefundId
        (some claim) true (some claimed.refund.paymentProviderId)).run env now db = .ok db')
      (hprocess : process = none ∨ ∃ message, process = some (.releasing claimed message)) :
    RefundProcess.Next env now db stripe (.finalizing claimed) db' stripe process
  | failToFinalize {claimed : ClaimedRefund} (message : String) :
    RefundProcess.Next env now db stripe (.finalizing claimed) db stripe
      (some (.releasing claimed message))
  | release {claimed : ClaimedRefund} {message : String} {claim : Uuid} {db' : Database}
      (hclaim : claimed.refund.claimId = some claim)
      (hrun : (Operation.recordEventPurchaseRefundRetryableFailure
        claimed.refund.eventPurchaseRefundId claim (some message)).run env now db = .ok db') :
    RefundProcess.Next env now db stripe (.releasing claimed message) db' stripe none
  | loadPurchase {event : RefundUpdatedInput} {purchase : Purchase} (hep : purchase ∈ db.purchases)
      (hid : purchase.eventPurchaseId = event.purchaseId)
      (hvalid : validateEventPurchase event purchase = .ok ()) :
    RefundProcess.Next env now db stripe (.received event) db stripe
      (some (.loading event purchase))
  | loadRefund {event : RefundUpdatedInput} {purchase : Purchase} {refund : Refund}
      {process : Option RefundProcess} (hr : refund ∈ db.refunds)
      (hid : refund.eventPurchaseId = purchase.eventPurchaseId)
      (hdecide : decideRefundEvent "stripe" event purchase refund = .ok process) :
    RefundProcess.Next env now db stripe (.loading event purchase) db stripe process
  | refresh {event : RefundUpdatedInput} {purchase : Purchase} {refund : Refund} {seller : String}
      (hseller : purchase.providerObjectAccountId = some seller) :
    RefundProcess.Next env now db stripe (.refreshing event purchase refund) db stripe
      (afterRefresh event refund (findMatchingRefundResult (refreshInput event seller refund)
        (stripe.listRefunds seller event.providerPaymentReference)))
  | recordEvent {refund : Refund} {result : RefundPaymentResult} {op : Operation} {db' : Database}
      (hop : refund.persist result = some op) (hrun : op.run env now db = .ok db') :
    RefundProcess.Next env now db stripe (.recordingEvent refund result) db' stripe none

/-! ## All processes -/

/-- The process may still ask the provider for a refund under the key, in the account. -/
def RefundProcess.MayCreate (process : RefundProcess) (account idempotencyKey : String) : Prop :=
  ∃ claimed reference, process = .creating claimed reference
    ∧ claimed.connectedSellerId = account ∧ claimed.refund.idempotencyKey = idempotencyKey

/-- One step of the installation. -/
inductive PaymentStep (parseUuid : String → Option Uuid) (now : Timestamp) (s : PaymentSystem) :
    PaymentSystem → Prop
  /-- A transaction that records no report of the provider. -/
  | transaction {env : Env} {op : Operation} {db : Database} (hop : op.report = none)
      (hrun : op.run env now s.db = .ok db) : PaymentStep parseUuid now s { s with db := db }
  /-- A worker claims a row and starts. -/
  | claim {r : Refund} {claimed : ClaimedRefund} {locked : Uuid → Bool} {db : Database}
      (hclaim : claimEventPurchaseRefund locked now "stripe" s.db = .ok (some r, db))
      (hclaimed : db.claimedRefund r = some claimed) :
    PaymentStep parseUuid now s { s with db := db, processes := claimed.start :: s.processes }
  /-- An event is delivered, be it again or late. -/
  | deliver {object : StripeRefund} {event : RefundUpdatedInput}
    (hobject : object ∈ s.stripe.events)
      (hevent : parseRefundEvent parseUuid object = .ok (some event)) :
    PaymentStep parseUuid now s { s with processes := .received event :: s.processes }
  | process {env : Env} {before after : List RefundProcess} {process : RefundProcess}
      {next : Option RefundProcess} {db : Database} {stripe : Stripe}
      (hprocess : s.processes = before ++ process :: after)
      (hnext : process.Next env now s.db s.stripe db stripe next) :
    PaymentStep parseUuid now s ⟨db, stripe, before ++ next.toList ++ after⟩
  | provider {stripe : Stripe} (hevolves : s.stripe.Evolves stripe) :
    PaymentStep parseUuid now s { s with stripe := stripe }
  /-- The provider forgets answers, but none that a process may still ask for: keys are kept for
  longer than a worker takes from its lookup to its creation. -/
  | forget {answers : List RefundAnswer} (hsub : ∀ answer ∈ answers, answer ∈ s.stripe.answers)
      (hkept : ∀ answer ∈ s.stripe.answers, answer ∉ answers → ∀ process ∈ s.processes,
        ¬ process.MayCreate answer.request.account answer.request.idempotencyKey) :
    PaymentStep parseUuid now s { s with stripe := { s.stripe with answers := answers } }

/-- An installation that starts with an event nobody has enrolled in. -/
structure PaymentSystem.Fresh (s : PaymentSystem) : Prop where
  database : s.db.Fresh
  refunds : s.stripe.refunds = []
  answers : s.stripe.answers = []
  events : s.stripe.events = []
  processes : s.processes = []

/-- What an installation reaches, in whatever order transactions start and commit. -/
def PaymentSystem.Reached (parseUuid : String → Option Uuid) (now : Timestamp) (s : PaymentSystem) :
    Prop :=
  Reachable (PaymentStep parseUuid) AnyOrder PaymentSystem.Fresh now s

end Ocg
