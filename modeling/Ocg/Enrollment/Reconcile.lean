import Ocg.Enrollment.Seats

/-!
# Reconciling enrollment

`reconcile_event_enrollment` runs inside almost every other operation. It expires the checkout holds
that are due, expires due offers and returns abandoned ones to pending, and then fills the free
seats of every public tier from the tier's queue.

Tables are kept in the order of their identifiers, so a loop `order by` the primary key visits rows
in table order.
-/

namespace Ocg

open Relational

/-! ## Releasing a checkout hold -/

/-- `release_event_checkout_attendee_hold`: drops the questionnaire row of a checkout unless another
purchase of the user still needs it, or the organizer invited the user. -/
def releaseEventCheckoutAttendeeHold (now : Timestamp) (user : Uuid) (s : Enrollment) :
    Enrollment :=
  { s with
    attendees := s.attendees.filter fun ea ↦
      ¬ (ea.userId = user ∧ ea.status = .registrationQuestionsPending
        ∧ ea.manuallyInvited = false
        ∧ ¬ ∃ ep ∈ s.purchases, ep.userId = ea.userId
          ∧ (ep.status.IsEntitled ∨ ep.HasLiveHold now)) }

/-- The row of a hold that ended at `hold`. -/
def Purchase.expire (hold : Timestamp) (ep : Purchase) : Purchase :=
  { ep with holdExpiresAt := some hold, status := .expired }

/-- `least(hold_expires_at, current_timestamp)`, which skips a null hold. -/
def Purchase.holdEndedBy (now : Timestamp) (ep : Purchase) : Timestamp :=
  ep.holdExpiresAt.elim now (min · now)

/-- Expires a pending purchase and gives back the discount and the questionnaire row it held. -/
def expireHold (now hold : Timestamp) (ep : Purchase) (s : Enrollment) :
    Except DbError Enrollment := do
  let s ← writePurchase ep (ep.expire hold) s
  .ok (releaseEventCheckoutAttendeeHold now ep.userId
    (releaseEventDiscountCodeAvailability ep.eventDiscountCodeId s))

/-! ## Due holds and offers -/

/-- The offer of a hold reached its deadline. -/
def AdmissionOffer.IsDue (now : Timestamp) (ao : AdmissionOffer) : Prop :=
  ao.status.IsActive ∧ ao.expiresAt ≤ now

instance (now : Timestamp) (ao : AdmissionOffer) : Decidable (ao.IsDue now) :=
  inferInstanceAs (Decidable (_ ∧ _))

/-- A stale hold, including one that outlives its offer. -/
def Enrollment.HoldIsDue (s : Enrollment) (now : Timestamp) (ep : Purchase) : Prop :=
  ep.status = .pending
    ∧ ((∃ hold ∈ ep.holdExpiresAt, hold ≤ now)
      ∨ ∃ ao ∈ s.admissionOffers, some ao.admissionOfferId = ep.admissionOfferId ∧ ao.IsDue now)

instance (s : Enrollment) (now : Timestamp) (ep : Purchase) : Decidable (s.HoldIsDue now ep) :=
  inferInstanceAs (Decidable (_ ∧ _))

/-- One iteration of the hold loop; the row is read again because the loop runs over a snapshot. -/
def expireDueHold (now : Timestamp) (s : Enrollment) (due : Purchase) :
    Except DbError Enrollment :=
  match s.purchases.find? fun ep ↦
      ep.eventPurchaseId = due.eventPurchaseId ∧ ep.status = .pending with
  | none => .ok s
  | some ep => expireHold now (ep.holdEndedBy now) ep s

/-- Expire stale checkout holds. -/
def expireDueHolds (now : Timestamp) (s : Enrollment) : Except DbError Enrollment :=
  (s.purchases.filter fun ep ↦ s.HoldIsDue now ep).foldlM (expireDueHold now) s

/-- A linked purchase that keeps a claimed offer in checkout: any seated purchase, or a live
hold. -/
def Enrollment.HasCheckout (s : Enrollment) (now : Timestamp) (ao : AdmissionOffer) : Prop :=
  ∃ ep ∈ s.purchases, ep.admissionOfferId = some ao.admissionOfferId
    ∧ (ep.status.IsSeated ∨ ep.HasLiveHold now)

instance (s : Enrollment) (now : Timestamp) (ao : AdmissionOffer) :
    Decidable (s.HasCheckout now ao) :=
  inferInstanceAs (Decidable (∃ ep ∈ s.purchases, _))

/-- One iteration of the offer loop: expire a due offer, or return an abandoned one to pending. -/
def settleOffer (now : Timestamp) (s : Enrollment) (ao : AdmissionOffer) :
    Except DbError Enrollment :=
  if ao.expiresAt ≤ now then do
    let updated ← updateAdmissionOffer ao.admissionOfferId (· = ao.status)
      (fun row ↦ { row with status := .expired }) s
    .ok (updated.getD s)
  else if ao.status = .checkoutPending ∧ ¬ s.HasCheckout now ao then do
    let updated ← updateAdmissionOffer ao.admissionOfferId (· = .checkoutPending)
      (fun row ↦ { row with status := .pending }) s
    .ok (updated.getD s)
  else .ok s

/-- Expire due offers or return abandoned checkout offers to pending. -/
def settleOffers (now : Timestamp) (s : Enrollment) : Except DbError Enrollment :=
  (s.admissionOffers.filter fun ao ↦ ao.status.IsActive).foldlM (settleOffer now) s

/-! ## Filling tiers from their queues -/

/-- `order by created_at, user_id`. -/
def WaitlistEntry.before (ew ew' : WaitlistEntry) : Bool :=
  decide (ew.createdAt < ew'.createdAt
    ∨ (ew.createdAt = ew'.createdAt ∧ ew.userId < ew'.userId))

/-- The FIFO head of a tier's queue. -/
def queueHead (tier : Uuid) (s : Enrollment) : Option WaitlistEntry :=
  firstBy WaitlistEntry.before (s.waitlist.filter fun ew ↦ ew.eventTicketTypeId = tier)

/-- The payment setup that a paid queue head waits for. -/
def PaymentReady (provider : Option String) (s : Enrollment) : Prop :=
  ∃ p ∈ provider, s.event.paymentCurrencyCode ≠ none ∧ ∃ r ∈ s.group.paymentRecipient,
    r.provider.getD "" = p ∧ nullIfBlank r.recipientId ≠ none

instance (provider : Option String) (s : Enrollment) : Decidable (PaymentReady provider s) :=
  inferInstanceAs (Decidable (∃ p ∈ provider, _))

/-- `least(t, coalesce(deadline, 'infinity'))`. -/
def boundedBy (t : Timestamp) (deadline : Option Timestamp) : Timestamp := deadline.elim t (min t)

/-- The deadline of a promoted offer: a day, registration close, or event start. -/
def promotionDeadline (now : Timestamp) (e : Event) : Timestamp :=
  boundedBy (boundedBy (now + hours 24) e.registrationEndsAt) e.startsAt

/-- A pending, unpriced offer of a tier to a user. -/
def newOffer (id : Uuid) (now : Timestamp) (tier user : Uuid) (deadline : Timestamp)
    (source : OfferSource) (organizer : Option Uuid) : AdmissionOffer where
  admissionOfferId := id
  createdAt := now
  eventTicketTypeId := tier
  expiresAt := deadline
  organizerUserId := organizer
  source := source
  status := .pending
  userId := user
  snapshot := none

/-- Inserts a pending offer under a fresh identifier. -/
def issueOffer (now : Timestamp) (tier user : Uuid) (deadline : Timestamp) (source : OfferSource)
    (organizer : Option Uuid) (s : Enrollment) : Except DbError Enrollment :=
  insertAdmissionOffer (newOffer s.nextUuid now tier user deadline source organizer)
    { s with nextUuid := s.nextUuid + 1 }

/-- The conditions under which one turn of the tier loop does not exit, with the queue head. -/
def promotable (now : Timestamp) (provider : Option String) (ett : TicketType) (s : Enrollment) :
    Option WaitlistEntry :=
  if ett.seatsTotal ≤ allocatedSeatCount now ett.eventTicketTypeId s then none
  else match queueHead ett.eventTicketTypeId s, ett.currentPrice now with
    | some head, some price =>
      if 0 < price ∧ ¬ PaymentReady provider s then none
      else if promotionDeadline now s.event ≤ now then none
      else some head
    | _, _ => none

/-- Moves a queue head into a capacity-reserving offer. -/
def promote (now : Timestamp) (ett : TicketType) (head : WaitlistEntry) (s : Enrollment) :
    Except DbError Enrollment :=
  issueOffer now ett.eventTicketTypeId head.userId (promotionDeadline now s.event) .waitlist none
    { s with
      waitlist := s.waitlist.filter fun ew ↦
        ¬ (ew.userId = head.userId ∧ ew.eventTicketTypeId = ett.eventTicketTypeId) }

/-- The inner loop over one tier. Each turn takes an entry from the queue, so `fuel` turns are
enough once `fuel` is the length of the queue. -/
def fillTier (now : Timestamp) (provider : Option String) (ett : TicketType) :
    ℕ → List Uuid × Enrollment → Except DbError (List Uuid × Enrollment)
  | 0, st => .ok st
  | fuel + 1, (promoted, s) =>
    match promotable now provider ett s with
    | none => .ok (promoted, s)
    | some head => do
      let s ← promote now ett head s
      fillTier now provider ett fuel (promoted ++ [head.userId], s)

/-- The tiers that reconciliation fills: active and public, or the one it is scoped to. -/
def fillableTiers (tier : Option Uuid) (s : Enrollment) : List TicketType :=
  s.ticketTypes.filter fun ett ↦ ett.active = true ∧ ett.availability = .publicTier
    ∧ ∀ id ∈ tier, ett.eventTicketTypeId = id

/-- Fill public tier capacity from each FIFO queue without skipping blocked heads. -/
def fillTiers (now : Timestamp) (tier : Option Uuid) (provider : Option String) (s : Enrollment) :
    Except DbError (List Uuid × Enrollment) :=
  (fillableTiers tier s).foldlM
    (fun st ett ↦ fillTier now provider ett st.2.waitlist.length st) ([], s)

/-- Offers are promoted only while the event can still be joined. -/
def Enrollment.AcceptsPromotion (s : Enrollment) (now : Timestamp) : Prop :=
  (s.group.active = true ∧ s.event.canceled = false ∧ s.event.deleted = false
    ∧ s.event.published = true ∧ ∀ t ∈ s.event.startsAt, now < t)
  ∧ isRegistrationWindowOpen now s.event.registrationStartsAt s.event.registrationEndsAt
    s.event.startsAt

instance (s : Enrollment) (now : Timestamp) : Decidable (s.AcceptsPromotion now) :=
  inferInstanceAs (Decidable (_ ∧ _))

/-- `reconcile_event_enrollment`: the promoted users and the reconciled state. -/
def reconcileEventEnrollment (now : Timestamp) (tier : Option Uuid) (provider : Option String)
    (s : Enrollment) : Except DbError (List Uuid × Enrollment) := do
  require (∀ id ∈ tier, ∃ ett ∈ s.ticketTypes, ett.eventTicketTypeId = id)
    (.raised "ticket type not found")
  let s ← expireDueHolds now s
  let s ← settleOffers now s
  if s.AcceptsPromotion now then fillTiers now tier provider s else .ok ([], s)

end Ocg
