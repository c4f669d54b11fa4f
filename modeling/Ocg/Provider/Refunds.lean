import Mathlib.Data.List.Sort
import Ocg.Refinement.RefundWrites

/-!
# Refunds at the provider

The code asks the provider for the refunds of a payment and for a new refund, and it receives the
provider's events. Its own part is the selection of a listed refund and the reading of its status.
The provider is outside the repository; `Stripe` is what its documentation promises: it executes a
request once under an idempotency key that it remembers, answers a repetition with the first answer,
lists refunds with the newest first, and emits an event for every state that a refund enters.
-/

namespace Ocg

open Relational

/-! ## Listed refunds -/

/-- `StripeListedRefund`, with the account, the currency and the payment that it belongs to. -/
structure StripeRefund where
  id : String
  account : String
  amount : ℤ
  currency : String
  metadata : List (String × String)
  paymentIntent : String
  status : String
  deriving DecidableEq, Repr

structure RefundPaymentResult where
  providerRefundId : String
  status : RefundPaymentStatus
  deriving DecidableEq, Repr

structure FindRefundInput where
  amountMinor : ℤ
  connectedSellerId : String
  providerPaymentReference : String
  purchaseId : Uuid
  providerRefundId : Option String
  deriving DecidableEq, Repr

/-- The refund cannot complete later. -/
def IsTerminalFailureStatus (status : String) : Prop := status ∈ ["canceled", "failed"]

instance (status : String) : Decidable (IsTerminalFailureStatus status) :=
  inferInstanceAs (Decidable (status ∈ _))

/-- `refund_result`. -/
def refundResult (id status : String) : Except String RefundPaymentResult :=
  if status = "succeeded" then .ok ⟨id, .succeeded⟩
  else if status ∈ ["pending", "requires_action"] then .ok ⟨id, .pending⟩
  else if status ∈ ["canceled", "failed"] then .ok ⟨id, .failed⟩
  else .error ("unsupported Stripe refund status: " ++ status)

/-- `refund_status_rank`. -/
def refundStatusRank (status : String) : ℕ :=
  if status = "succeeded" then 0
  else if status ∈ ["pending", "requires_action"] then 1
  else if status ∈ ["canceled", "failed"] then 2
  else 3

/-- The metadata name the purchase. -/
def StripeRefund.Names (refund : StripeRefund) (purchase : Uuid) : Prop :=
  refund.metadata.lookup "event_purchase_id" = some (toString purchase)

instance (refund : StripeRefund) (purchase : Uuid) : Decidable (refund.Names purchase) :=
  inferInstanceAs (Decidable (_ = _))

/-- A listed refund that the lookup may return: any state of the pinned one, or else any refund of
the purchase that has not failed. -/
def FindRefundInput.Selects (input : FindRefundInput) (refund : StripeRefund) : Prop :=
  refund.amount = input.amountMinor ∧ refund.Names input.purchaseId
    ∧ (∀ id ∈ input.providerRefundId, refund.id = id)
    ∧ (input.providerRefundId ≠ none ∨ ¬ IsTerminalFailureStatus refund.status)

instance (input : FindRefundInput) (refund : StripeRefund) : Decidable (input.Selects refund) :=
  inferInstanceAs (Decidable (_ ∧ _ ∧ (∀ id ∈ input.providerRefundId, refund.id = id) ∧ _))

/-- `find_matching_refund_result`: the first of the most useful selected refunds. -/
def findMatchingRefundResult (input : FindRefundInput) (refunds : List StripeRefund) :
    Except String (Option RefundPaymentResult) :=
  match ((refunds.filter fun refund ↦ input.Selects refund).insertionSort
      fun a b ↦ refundStatusRank a.status ≤ refundStatusRank b.status).head? with
  | none => .ok none
  | some refund => do
    let result ← refundResult refund.id refund.status
    .ok (some result)

theorem findMatchingRefundResult_eq_none {input : FindRefundInput} {refunds : List StripeRefund}
    (h : findMatchingRefundResult input refunds = .ok none) :
    ∀ refund ∈ refunds, ¬ input.Selects refund := by
  intro refund hrefund hselects
  rw [findMatchingRefundResult] at h
  split at h
  · next hnone =>
    rw [List.head?_eq_none_iff] at hnone
    have hmem : refund ∈ refunds.filter fun refund ↦ input.Selects refund :=
      List.mem_filter.2 ⟨hrefund, decide_eq_true hselects⟩
    rw [← List.mem_insertionSort (fun a b : StripeRefund ↦
      refundStatusRank a.status ≤ refundStatusRank b.status), hnone] at hmem
    cases hmem
  · rw [bind_eq_ok] at h
    obtain ⟨result, -, h⟩ := h
    cases h

/-- What is found is a selected refund, in the state that it is listed with. -/
theorem findMatchingRefundResult_eq_some {input : FindRefundInput} {refunds : List StripeRefund}
    {result : RefundPaymentResult}
    (h : findMatchingRefundResult input refunds = .ok (some result)) :
    ∃ refund ∈ refunds, input.Selects refund
      ∧ refundResult refund.id refund.status = .ok result := by
  rw [findMatchingRefundResult] at h
  split at h
  · cases h
  · next refund hhead =>
    simp only [bind_eq_ok, Except.ok.injEq, Option.some.injEq] at h
    obtain ⟨_, hresult, rfl⟩ := h
    have hmem := List.mem_of_head? hhead
    rw [List.mem_insertionSort, List.mem_filter, decide_eq_true_eq] at hmem
    exact ⟨refund, hmem.1, hmem.2, hresult⟩

/-! ## The provider -/

/-- `RefundPaymentInput`, as it is sent: in the seller's account, with the purchase in the
metadata. -/
structure RefundCreation where
  account : String
  amount : ℤ
  idempotencyKey : String
  metadata : List (String × String)
  paymentIntent : String
  deriving DecidableEq, Repr

/-- What the provider answered to an executed request. -/
structure RefundAnswer where
  request : RefundCreation
  id : String
  status : String
  deriving DecidableEq, Repr

/-- Refunds with the newest first, the answers that are remembered, and the refunds as they were
when each event was emitted. -/
structure Stripe where
  refunds : List StripeRefund
  answers : List RefundAnswer
  events : List StripeRefund
  deriving DecidableEq, Repr

/-- The refunds of one payment of an account. -/
def Stripe.refundsOf (account paymentIntent : String) (stripe : Stripe) : List StripeRefund :=
  stripe.refunds.filter fun refund ↦ refund.account = account ∧ refund.paymentIntent = paymentIntent

/-- `GET /refunds?payment_intent=…&limit=100`. -/
def Stripe.listRefunds (account paymentIntent : String) (stripe : Stripe) : List StripeRefund :=
  (stripe.refundsOf account paymentIntent).take 100

/-- The page of the listing holds one more refund of the payment. -/
def Stripe.HasRoom (account paymentIntent : String) (stripe : Stripe) : Prop :=
  (stripe.refundsOf account paymentIntent).length < 100

/-- The provider remembers an answer under the request's key. -/
def Stripe.Remembers (account idempotencyKey : String) (stripe : Stripe) : Prop :=
  ∃ answer ∈ stripe.answers,
    answer.request.account = account ∧ answer.request.idempotencyKey = idempotencyKey

/-- A refund with an identifier of its own is added, and its event emitted. -/
def Stripe.add (refund : StripeRefund) (stripe : Stripe) : Stripe where
  refunds := refund :: stripe.refunds
  answers := stripe.answers
  events := refund :: stripe.events

/-- The refund that a request creates. -/
def RefundCreation.refund (request : RefundCreation) (id currency status : String) :
    StripeRefund where
  id := id
  account := request.account
  amount := request.amount
  currency := currency
  metadata := request.metadata
  paymentIntent := request.paymentIntent
  status := status

/-- Executes a request under a key that is not remembered. -/
def Stripe.execute (request : RefundCreation) (id currency status : String) (stripe : Stripe) :
    Stripe :=
  { stripe.add (request.refund id currency status) with
    answers := ⟨request, id, status⟩ :: stripe.answers }

/-- A refund enters another state. -/
def Stripe.enter (refund : StripeRefund) (status : String) (stripe : Stripe) : Stripe :=
  { stripe with
    refunds := replaceRow StripeRefund.id { refund with status := status } stripe.refunds
    events := { refund with status := status } :: stripe.events }

/-- What happens at the provider without the code: a refund that has not failed enters another
state, or somebody refunds a part of the payment by hand, without the code's metadata. -/
inductive Stripe.Evolves (stripe : Stripe) : Stripe → Prop
  | enter {refund : StripeRefund} (status : String) (hrefund : refund ∈ stripe.refunds)
      (hopen : ¬ IsTerminalFailureStatus refund.status) :
    Stripe.Evolves stripe (stripe.enter refund status)
  | add {refund : StripeRefund} (hid : ∀ old ∈ stripe.refunds, old.id ≠ refund.id)
      (hmetadata : refund.metadata.lookup "event_purchase_id" = none)
      (hroom : stripe.HasRoom refund.account refund.paymentIntent) :
    Stripe.Evolves stripe (stripe.add refund)

/-! ## Events -/

/-- `RefundUpdatedInput`. -/
structure RefundUpdatedInput where
  amountMinor : ℤ
  connectedAccountId : String
  currencyCode : String
  providerPaymentReference : String
  providerRefundId : String
  purchaseId : Uuid
  status : RefundPaymentStatus
  deriving DecidableEq, Repr

/-- `parse_refund_event`, of an emitted event: nothing when its refund is not one of the code's. The
parser of identifiers is a parameter. -/
def parseRefundEvent (parseUuid : String → Option Uuid) (object : StripeRefund) :
    Except String (Option RefundUpdatedInput) :=
  match object.metadata.lookup "event_purchase_id" with
  | none => .ok none
  | some text =>
    match parseUuid text with
    | none => .error "Stripe refund webhook has invalid event purchase metadata"
    | some purchase => do
      let refund ← refundResult object.id object.status
      .ok (some ⟨object.amount, object.account, object.currency, object.paymentIntent,
        refund.providerRefundId, purchase, refund.status⟩)

theorem parseRefundEvent_eq_some {parseUuid : String → Option Uuid} {object : StripeRefund}
    {event : RefundUpdatedInput} (h : parseRefundEvent parseUuid object = .ok (some event)) :
    ((object.metadata.lookup "event_purchase_id").bind parseUuid) = some event.purchaseId
      ∧ object.amount = event.amountMinor
      ∧ refundResult object.id object.status = .ok ⟨event.providerRefundId, event.status⟩ := by
  rw [parseRefundEvent] at h
  split at h
  · cases h
  · next text htext =>
    split at h
    · cases h
    · next purchase hpurchase =>
      simp only [bind_eq_ok, Except.ok.injEq, Option.some.injEq] at h
      obtain ⟨refund, hrefund, rfl⟩ := h
      refine ⟨?_, rfl, hrefund⟩
      rw [htext, Option.bind_some, hpurchase]

end Ocg
