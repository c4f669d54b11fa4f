import Ocg.Checkout.Pricing
import Ocg.Enrollment.Reconcile

/-!
# Preparing and abandoning a checkout

`prepare_event_checkout_purchase` reuses the user's active purchase or opens a pending hold, either
directly or by claiming an admission offer. The function is split where the source changes topic:
select the offer, look for a reusable purchase, resolve the terms, reserve. A conflict commits what
was written before it.
-/

namespace Ocg

open Relational

/-- What the functions take from outside the event's partition. -/
structure Env where
  /-- `validate_questionnaire_answers_payload`. -/
  validateQuestionnaireAnswersPayload : List Question → Option Answers → Except DbError Unit
  /-- `user_has_group_permission(community, group, user, 'group.events.write')`. -/
  hasEventsWrite : Uuid → Bool
  /-- Someone verified may review refund requests of the group. -/
  hasRefundReviewers : Bool

structure CheckoutRequest where
  communityId : Uuid
  eventTicketTypeId : Uuid
  userId : Uuid
  discountCode : Option String
  configuredProvider : Option String
  registrationAnswers : Option Answers
  admissionOfferId : Option Uuid
  platformFeeBps : Option ℤ
  deriving DecidableEq, Repr

/-- The answer of checkout preparation: a stable conflict, or the purchase it summarizes. -/
inductive CheckoutOutcome
  | conflict (reason : String)
  | checkout (ep : Purchase)
  deriving DecidableEq, Repr

/-! ## The parts -/

/-- `prepare_event_checkout_validate_event`: the configured currency of an open event. -/
def prepareEventCheckoutValidateEvent (now : Timestamp) (communityId : Uuid) (s : Enrollment) :
    Except DbError (Option String) := do
  require (s.group.communityId = communityId ∧ s.group.active = true ∧ s.event.deleted = false
      ∧ s.event.published = true ∧ s.event.canceled = false
      ∧ ∀ t ∈ s.event.endInstant, now < t)
    (.raised "event not found or inactive")
  .ok s.event.paymentCurrencyCode

/-- The questionnaire row that a checkout proposes. -/
def pendingAnswers (user : Uuid) (answers : Option Answers) : Attendee where
  userId := user
  manuallyInvited := false
  registrationAnswers := answers
  status := .registrationQuestionsPending

/-- `upsert_pending_registration_answers`. -/
def upsertPendingRegistrationAnswers (env : Env) (user : Uuid) (answers : Option Answers)
    (s : Enrollment) : Except DbError Enrollment :=
  if s.event.registrationQuestions = [] then .ok s else do
    env.validateQuestionnaireAnswersPayload s.event.registrationQuestions answers
    let (_, s) ← upsertAttendee (pendingAnswers user answers)
      (· ∈ [AttendeeStatus.attendanceCanceled, .registrationQuestionsPending])
      (fun ea ↦
        { ea with registrationAnswers := answers, status := .registrationQuestionsPending }) s
    .ok s

/-- `order by` status class, newest first. -/
def Purchase.reusedBefore (ep ep' : Purchase) : Bool :=
  let rank (status : PurchaseStatus) : ℕ :=
    if status = .completed then 0
    else if status ∈ [PurchaseStatus.refundPending, .refundRecoveryPending, .refundRequested] then 1
    else 2
  decide (rank ep.status < rank ep'.status
    ∨ (rank ep.status = rank ep'.status
      ∧ (ep'.createdAt < ep.createdAt
        ∨ (ep'.createdAt = ep.createdAt ∧ ep'.eventPurchaseId < ep.eventPurchaseId))))

/-- `prepare_event_checkout_find_existing_purchase`. -/
def prepareEventCheckoutFindExistingPurchase (now : Timestamp) (user : Uuid)
    (offer : Option Uuid) (s : Enrollment) : Option Purchase :=
  firstBy Purchase.reusedBefore (s.purchases.filter fun ep ↦
    ep.userId = user ∧ ep.admissionOfferId = offer
      ∧ (ep.status.IsSeated ∨ ep.HasLiveHold now))

/-- The existing purchase buys the selected tier at the selected code. -/
def Purchase.MatchesSelection (ep : Purchase) (tier : Uuid) (code : Option String) : Prop :=
  ep.eventTicketTypeId = tier ∧ normalizeCode ep.discountCode = code

instance (ep : Purchase) (tier : Uuid) (code : Option String) :
    Decidable (ep.MatchesSelection tier code) :=
  inferInstanceAs (Decidable (_ ∧ _))

/-! ## Terms -/

/-- What a checkout charges, and to whom. -/
structure CheckoutTerms where
  price : ResolvedPrice
  currencyCode : Option String
  recipient : Option PaymentRecipient
  deriving DecidableEq, Repr

/-- The conflict that a pricing exception is reported as, if any. -/
def pricingConflict (message : String) : Option String :=
  if message = "admission offer is no longer available" then some "admission-offer-unavailable"
  else if message = "ticket type does not have an active price window" then
    some "ticket-type-price-unavailable"
  else if message = "ticket type is not active" then some "ticket-type-inactive"
  else if message = "ticket type is not available for direct checkout"
      ∨ message = "ticket type not found" then some "ticket-type-unavailable"
  else if message = "ticket type is sold out" then some "ticket-type-sold-out"
  else if message = "ticket type has queued users" then some "ticket-type-sold-out"
  else none

/-- The price and currency of a checkout: the immutable snapshot of a claimed offer, or live pricing
with its exceptions turned into conflicts. -/
def resolveCheckoutPrice (now : Timestamp) (req : CheckoutRequest) (offer : Option AdmissionOffer)
    (code : Option String) (s : Enrollment) :
    Except DbError (Except String (ResolvedPrice × Option String)) :=
  match offer.bind (·.snapshot) with
  | some snapshot =>
    .ok (.ok (⟨snapshot.discountAmountMinor, snapshot.eventDiscountCodeId, snapshot.amountMinor,
      snapshot.ticketTitle⟩, snapshot.currencyCode))
  | none =>
    match prepareEventCheckoutValidateAndResolvePricing now req.eventTicketTypeId req.userId code
        req.admissionOfferId s with
    | .ok price => .ok (.ok (price, s.event.paymentCurrencyCode))
    | .error (.raised message) =>
      match pricingConflict message with
      | some reason => .ok (.error reason)
      | none => .error (.raised message)
    | .error err => .error err

/-- Require payment configuration only when the final amount needs a provider. -/
def settleCheckoutPayment (req : CheckoutRequest) (price : ResolvedPrice)
    (currencyCode : Option String) (s : Enrollment) :
    Except DbError (Except String CheckoutTerms) :=
  if 0 < price.finalAmountMinor then
    match validateEventTicketingPaymentReadiness req.configuredProvider true currencyCode
        s.group.paymentRecipient s.event with
    | .error (.raised _) => .ok (.error "payment-setup-unavailable")
    | .error err => .error err
    | .ok () => do
      validatePaymentAmount currencyCode price.finalAmountMinor
      .ok (.ok ⟨price, currencyCode, s.group.paymentRecipient⟩)
  else if 0 < price.discountAmountMinor then
    if currencyCode = none then .ok (.error "payment-setup-unavailable")
    else match validatePaymentCurrencyCode currencyCode with
      | .error (.raised _) => .ok (.error "payment-setup-unavailable")
      | .error err => .error err
      | .ok () => .ok (.ok ⟨price, currencyCode, s.group.paymentRecipient⟩)
  else .ok (.ok ⟨price, none, none⟩)

/-! ## Reserving -/

/-- The hold of a new checkout: a quarter of an hour, never past the claimed offer. -/
def checkoutHold (now : Timestamp) (offer : Option AdmissionOffer) : Timestamp :=
  boundedBy (now + minutes 15) (offer.map (·.expiresAt))

/-- The snapshot that the first claim of an offer stores. -/
def CheckoutTerms.snapshot (terms : CheckoutTerms) (code : Option String) : PriceSnapshot where
  amountMinor := terms.price.finalAmountMinor
  currencyCode := terms.currencyCode
  discountAmountMinor := terms.price.discountAmountMinor
  discountCode := code
  eventDiscountCodeId := terms.price.eventDiscountCodeId
  ticketTitle := terms.price.ticketTitle

/-- `coalesce` of each column, over a snapshot whose amounts and title are set. -/
def PriceSnapshot.coalesce (stored new : PriceSnapshot) : PriceSnapshot where
  amountMinor := stored.amountMinor
  currencyCode := stored.currencyCode.or new.currencyCode
  discountAmountMinor := stored.discountAmountMinor
  discountCode := stored.discountCode.or new.discountCode
  eventDiscountCodeId := stored.eventDiscountCodeId.or new.eventDiscountCodeId
  ticketTitle := stored.ticketTitle

/-- The claimed offer: in checkout, each unset column of its price filled in by the claim. -/
def AdmissionOffer.claim (terms : CheckoutTerms) (code : Option String) (ao : AdmissionOffer) :
    AdmissionOffer :=
  { ao with
    status := .checkoutPending
    snapshot := some (match ao.snapshot with
      | none => terms.snapshot code
      | some stored => stored.coalesce (terms.snapshot code)) }

/-- The pending purchase of a checkout. -/
def newPurchase (id : Uuid) (now : Timestamp) (req : CheckoutRequest)
    (offer : Option AdmissionOffer) (code : Option String) (terms : CheckoutTerms)
    (e : Event) : Purchase :=
  let paid {α : Type} (value : Option α) : Option α :=
    if 0 < terms.price.finalAmountMinor then value else none
  { eventPurchaseId := id
    admissionOfferId := req.admissionOfferId
    amountMinor := terms.price.finalAmountMinor
    chargeModel := if 0 < terms.price.finalAmountMinor then .directCharge else .ocgFree
    connectedSellerId := paid (terms.recipient.bind (·.recipientId))
    createdAt := now
    currencyCode := terms.currencyCode
    discountAmountMinor := terms.price.discountAmountMinor
    discountCode := code
    eventDiscountCodeId := terms.price.eventDiscountCodeId
    eventTicketTypeId := req.eventTicketTypeId
    financialAmounts := none
    holdExpiresAt := some (checkoutHold now offer)
    paymentProviderId := paid req.configuredProvider
    platformFeeBps := req.platformFeeBps.getD 0
    providerApplicationFeeId := none
    providerChargeId := none
    providerCheckoutSessionId := none
    providerCheckoutUrl := none
    providerObjectAccountId := paid (terms.recipient.bind (·.recipientId))
    providerPaymentReference := none
    provisionalPlatformFeeAmountMinor :=
      (terms.price.finalAmountMinor * req.platformFeeBps.getD 0).tdiv 10000
    status := .pending
    taxBehavior := paid (some e.taxBehavior)
    taxCalculationMode := paid (some e.taxCalculationMode)
    ticketTitle := terms.price.ticketTitle
    userId := req.userId }

/-- Claims the offer of a checkout, if it has one; `none` when the offer is no longer active. -/
def claimOffer (offer : Option AdmissionOffer) (code : Option String) (terms : CheckoutTerms)
    (s : Enrollment) : Except DbError (Option Enrollment) :=
  match offer with
  | none => .ok (some s)
  | some ao =>
    updateAdmissionOffer ao.admissionOfferId OfferStatus.IsActive (AdmissionOffer.claim terms code)
      s

/-- Stores the answers, reserves the discount and inserts the pending purchase. -/
def openHold (env : Env) (now : Timestamp) (req : CheckoutRequest) (offer : Option AdmissionOffer)
    (code : Option String) (terms : CheckoutTerms) (s : Enrollment) :
    Except DbError (CheckoutOutcome × Enrollment) := do
  let s ← upsertPendingRegistrationAnswers env req.userId req.registrationAnswers s
  let s ← reserveEventDiscountCodeAvailability terms.price.eventDiscountCodeId s
  let ep := newPurchase s.nextUuid now req offer code terms s.event
  let s ← insertPurchase ep { s with nextUuid := s.nextUuid + 1 }
  .ok (.checkout ep, s)

/-- Replaces the user's previous hold, claims the offer and opens the new hold. -/
def reserveCheckout (env : Env) (now : Timestamp) (req : CheckoutRequest)
    (offer : Option AdmissionOffer) (code : Option String) (replaced : Option Purchase)
    (terms : CheckoutTerms) (s : Enrollment) : Except DbError (CheckoutOutcome × Enrollment) := do
  -- `prepare_event_checkout_expire_previous_hold`
  let s ← match replaced with
    | none => .ok s
    | some ep => expireHold now now ep s
  match ← claimOffer offer code terms s with
  | none => .ok (.conflict "admission-offer-unavailable", s)
  | some s => openHold env now req offer code terms s

/-- Resolves the terms of a new hold and reserves it. -/
def openCheckout (env : Env) (now : Timestamp) (req : CheckoutRequest)
    (offer : Option AdmissionOffer) (code : Option String) (replaced : Option Purchase)
    (s : Enrollment) : Except DbError (CheckoutOutcome × Enrollment) := do
  require (req.admissionOfferId ≠ none
      ∨ isRegistrationWindowOpen now s.event.registrationStartsAt s.event.registrationEndsAt
        s.event.startsAt)
    (.raised "event registration is not open")
  match ← resolveCheckoutPrice now req offer code s with
  | .error reason => .ok (.conflict reason, s)
  | .ok (price, currencyCode) =>
    match ← settleCheckoutPayment req price currencyCode s with
    | .error reason => .ok (.conflict reason, s)
    | .ok terms => reserveCheckout env now req offer code replaced terms s

/-- Returns a purchase that already answers the request, or opens a hold. -/
def resumeCheckout (env : Env) (now : Timestamp) (req : CheckoutRequest)
    (offer : Option AdmissionOffer) (code : Option String) (s : Enrollment) :
    Except DbError (CheckoutOutcome × Enrollment) :=
  match prepareEventCheckoutFindExistingPurchase now req.userId req.admissionOfferId s with
  | none => openCheckout env now req offer code none s
  | some ep =>
    if ep.status ≠ .pending then .ok (.checkout ep, s)
    else if ep.MatchesSelection req.eventTicketTypeId code then do
      prepareEventCheckoutValidateAttendeeState req.userId s
      let s ← upsertPendingRegistrationAnswers env req.userId req.registrationAnswers s
      .ok (.checkout ep, s)
    else openCheckout env now req offer code (some ep) s

/-- The code of a checkout by offer: a snapshotted offer keeps the code of its first claim. -/
def offerDiscountCode (ao : AdmissionOffer) (code : Option String) :
    Except DbError (Option String) :=
  match ao.snapshot with
  | none => .ok code
  | some snapshot => do
    require (code = none ∨ normalizeCode snapshot.discountCode = code)
      (.raised "admission offer price selection cannot be changed")
    .ok (normalizeCode snapshot.discountCode)

/-- `prepare_event_checkout_purchase`. -/
def prepareEventCheckoutPurchase (env : Env) (now : Timestamp) (req : CheckoutRequest)
    (s : Enrollment) : Except DbError (CheckoutOutcome × Enrollment) := do
  require (∃ bps ∈ req.platformFeeBps, 0 ≤ bps ∧ bps < 10000)
    (.raised "platform fee basis points must be between 0 and 9999")
  let _ ← prepareEventCheckoutValidateEvent now req.communityId s
  let (_, s) ← reconcileEventEnrollment now (some req.eventTicketTypeId) req.configuredProvider s
  match req.admissionOfferId with
  | none =>
    if ∃ ao ∈ s.admissionOffers, ao.userId = req.userId ∧ ao.IsReserving now then
      .ok (.conflict "admission-offer-required", s)
    else resumeCheckout env now req none (normalizeCode req.discountCode) s
  | some id =>
    match s.admissionOffers.find? fun ao ↦ ao.admissionOfferId = id
        ∧ ao.eventTicketTypeId = req.eventTicketTypeId ∧ ao.userId = req.userId with
    | none => .ok (.conflict "admission-offer-unavailable", s)
    | some ao =>
      if ao.IsReserving now then do
        let code ← offerDiscountCode ao (normalizeCode req.discountCode)
        resumeCheckout env now req (some ao) code s
      else .ok (.conflict "admission-offer-unavailable", s)

/-! ## Abandoning a checkout -/

/-- `cancel_event_checkout`. -/
def cancelEventCheckout (now : Timestamp) (communityId user : Uuid)
    (configuredProvider : Option String) (s : Enrollment) : Except DbError Enrollment :=
  match s.purchases.find? fun ep ↦ s.group.communityId = communityId ∧ ep.userId = user
      ∧ ep.HasLiveHold now with
  | none => .ok s
  | some active => do
    let (_, s) ← reconcileEventEnrollment now (some active.eventTicketTypeId) configuredProvider s
    match s.purchases.find? fun ep ↦
        ep.eventPurchaseId = active.eventPurchaseId ∧ ep.status = .pending with
    | none => .ok s
    | some ep => do
      let s ← expireHold now (ep.holdEndedBy now) ep s
      let (_, s) ←
        reconcileEventEnrollment now (some active.eventTicketTypeId) configuredProvider s
      .ok s

/-- A provider checkout session, by provider, connected account and session identifier. -/
structure SessionRef where
  provider : String
  providerObjectAccountId : Option String
  providerSessionId : String
  deriving DecidableEq, Repr

/-- The purchase that a provider session was attached to. -/
def Purchase.HasSession (ref : SessionRef) (ep : Purchase) : Prop :=
  ep.paymentProviderId = some ref.provider
    ∧ ref.providerObjectAccountId ≠ none
    ∧ ep.providerObjectAccountId = ref.providerObjectAccountId
    ∧ ep.providerCheckoutSessionId = some ref.providerSessionId

instance (ref : SessionRef) (ep : Purchase) : Decidable (ep.HasSession ref) :=
  inferInstanceAs (Decidable (_ ∧ _ ∧ _ ∧ _))

/-- `attach_checkout_session_to_event_purchase`, less the tax resource caches; the flag tells that
the automatic-tax resources were given. -/
def attachCheckoutSessionToEventPurchase (purchase : Uuid) (ref : SessionRef)
    (checkoutUrl : Option String) (hasTaxResources : Bool) (s : Enrollment) :
    Except DbError Enrollment :=
  match s.purchases.find? fun ep ↦ ep.eventPurchaseId = purchase with
  | none => .error (.raised "event purchase not found")
  | some ep =>
    if ep.status ≠ .pending then .ok s else do
      -- `<>` against a null account is not true, so only a known, different account is refused
      require (ep.chargeModel = .directCharge ∧ ep.paymentProviderId = some ref.provider
          ∧ (ep.providerObjectAccountId = none ∨ ref.providerObjectAccountId = none
            ∨ ep.providerObjectAccountId = ref.providerObjectAccountId))
        (.raised "provider account does not match the purchase seller")
      require (ep.taxCalculationMode = some .automatic → hasTaxResources = true)
        (.raised "automatic ticket tax resources are required")
      if ep.providerCheckoutSessionId ≠ none then .ok s
      else storePurchase { ep with
        paymentProviderId := some ref.provider
        providerCheckoutSessionId := some ref.providerSessionId
        providerCheckoutUrl := checkoutUrl } s

/-- `expire_event_purchase_for_checkout_session`. -/
def expireEventPurchaseForCheckoutSession (now : Timestamp) (ref : SessionRef) (s : Enrollment) :
    Except DbError Enrollment :=
  match s.purchases.find? fun ep ↦ ep.HasSession ref with
  | none => .ok s
  | some attached => do
    let (_, s) ← reconcileEventEnrollment now (some attached.eventTicketTypeId) (some ref.provider)
      s
    match s.purchases.find? fun ep ↦ ep.HasSession ref ∧ ep.status = .pending with
    | none => .ok s
    | some ep => do
      let s ← expireHold now (ep.holdEndedBy now) ep s
      let (_, s) ←
        reconcileEventEnrollment now (some attached.eventTicketTypeId) (some ref.provider) s
      .ok s

end Ocg
