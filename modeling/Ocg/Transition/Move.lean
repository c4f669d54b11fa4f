import Mathlib.Data.Finset.Card
import Ocg.Checkout.Complete
import Ocg.Enrollment.Attend

/-!
# Enrollment moves

Every operation, whatever it is called and however many statements it runs, changes enrollment by a
sequence of a few kinds of row movement. `EnrollmentMove` lists them, each with what the code has
checked by the time it writes. An operation is shown once to be a run of moves; an invariant is then
a case analysis over the moves and never looks at an operation.

Some moves of a purchase go together with a change of its refund row. The effect of a move says
which, so that the refund layer can pair the two halves.

The mode of a run restricts its moves. In a strict one, a purchase that comes back from a settled
status to an unsettled refund, and a canceled attendee whose questionnaire row is revived, leave the
user's queue position and claimed offer alone; the code as it is also makes the others. And a run
may be one that claims no offer, or one that completes no checkout.
-/

namespace Ocg

open Relational

/-- An offer beside which an unlinked purchase of its user may not be unsettled: a claimed offer,
and for a direct purchase any active one. -/
def AdmissionOffer.Excludes (ao : AdmissionOffer) (ep : Purchase) : Prop :=
  ao.status = .checkoutPending ∨ (ao.status.IsActive ∧ ep.admissionOfferId = none)

instance (ao : AdmissionOffer) (ep : Purchase) : Decidable (ao.Excludes ep) :=
  inferInstanceAs (Decidable (_ ∨ _))

theorem AdmissionOffer.Excludes.isActive {ao : AdmissionOffer} {ep : Purchase}
    (h : ao.Excludes ep) : ao.status.IsActive := by
  rcases h with hclaimed | ⟨hactive, -⟩
  · simp [hclaimed]
  · exact hactive

/-- An unsettled refund of the purchase conflicts with nothing its user waits for: no queue
position, and no offer that excludes it but its own. -/
def Enrollment.MayReopen (s : Enrollment) (ep : Purchase) : Prop :=
  (∀ ew ∈ s.waitlist, ew.userId ≠ ep.userId)
    ∧ ∀ ao ∈ s.admissionOffers, ao.userId = ep.userId → ao.Excludes ep →
      ep.admissionOfferId = some ao.admissionOfferId

instance (s : Enrollment) (ep : Purchase) : Decidable (s.MayReopen ep) :=
  inferInstanceAs (Decidable (_ ∧ _))

/-- A revived questionnaire row is dropped again with its checkout, or stands beside no claimed
offer. -/
def Enrollment.MayRevive (s : Enrollment) (ea : Attendee) : Prop :=
  ea.manuallyInvited = false
    ∨ ∀ ao ∈ s.admissionOffers, ao.userId = ea.userId → ao.status ≠ .checkoutPending

/-- What the moves of a run are restricted to. -/
structure MoveMode where
  /-- No purchase is reopened, and no attendee revived, beside what its user waits for. -/
  strict : Prop
  /-- Offers may be claimed. -/
  claims : Prop
  /-- Checkouts may be completed. -/
  completes : Prop

/-- Every move is made. -/
def MoveMode.any : MoveMode := ⟨False, True, True⟩

/-- Every move is made that leaves waiting users alone. -/
def MoveMode.quiet : MoveMode := ⟨True, True, True⟩

/-- The half of a move that concerns the refund row of a purchase. -/
inductive Effect
  | plain
  /-- A paid checkout cannot be fulfilled and waits for its refund. -/
  | reserve (ep : Purchase)
  /-- A canceled event hands an entitled purchase to the refund worker. -/
  | handOver (ep : Purchase)
  /-- The refund of a purchase is settled, giving the discount back or not. -/
  | settle (ep : Purchase) (released : Bool)
  /-- A refund that failed after it was settled. -/
  | reopen (ep : Purchase)

/-! ## Purchase rows -/

/-- The columns of a purchase that never change, and those that only a paid checkout fills. -/
structure Purchase.Continues (new old : Purchase) : Prop where
  id : new.eventPurchaseId = old.eventPurchaseId
  offer : new.admissionOfferId = old.admissionOfferId
  user : new.userId = old.userId
  tier : new.eventTicketTypeId = old.eventTicketTypeId
  code : new.eventDiscountCodeId = old.eventDiscountCodeId
  amount : new.amountMinor = old.amountMinor
  session : new.providerCheckoutSessionId = old.providerCheckoutSessionId ∨ 0 < old.amountMinor
  financial : new.financialAmounts = old.financialAmounts
    ∨ (¬ old.status.IsEntitled ∧ ∀ fa ∈ new.financialAmounts, 0 < fa.providerTotalMinor)
  price : new.currencyCode = old.currencyCode ∧ new.discountAmountMinor = old.discountAmountMinor
    ∧ new.ticketTitle = old.ticketTitle

theorem Purchase.Continues.refl (ep : Purchase) : ep.Continues ep :=
  ⟨rfl, rfl, rfl, rfl, rfl, rfl, .inl rfl, .inl rfl, rfl, rfl, rfl⟩

/-- The purchase carries the price of the snapshot. -/
structure PriceSnapshot.Prices (snapshot : PriceSnapshot) (ep : Purchase) : Prop where
  amount : ep.amountMinor = snapshot.amountMinor
  currency : ep.currencyCode = snapshot.currencyCode
  discount : ep.discountAmountMinor = snapshot.discountAmountMinor
  code : ep.eventDiscountCodeId = snapshot.eventDiscountCodeId
  title : ep.ticketTitle = snapshot.ticketTitle

/-- A status change of one purchase that touches no attendee row: its effect, and whether it gives
the discount back. -/
inductive PurchaseStep (mode : MoveMode) (s : Enrollment) (ep new : Purchase) :
    Effect → Bool → Prop
  /-- Amounts, references or a session are recorded. -/
  | record (hstatus : new.status = ep.status) (hhold : new.holdExpiresAt = ep.holdExpiresAt) :
    PurchaseStep mode s ep new .plain false
  | refundFree (hfrom : ep.status.IsEntitled) (hamount : ep.amountMinor = 0)
      (hto : new.status = .refunded) : PurchaseStep mode s ep new .plain true
  | requestRefund (hfrom : ep.status = .completed) (hto : new.status = .refundRequested) :
    PurchaseStep mode s ep new .plain false
  | rejectRefund (hfrom : ep.status = .refundRequested) (hto : new.status = .completed) :
    PurchaseStep mode s ep new .plain false
  | handOver (hfrom : ep.status.IsEntitled) (hto : new.status = .refundPending) :
    PurchaseStep mode s ep new (.handOver ep) false
  | settle (released : Bool)
      (hfrom : ep.status.IsEntitled
        ∨ ep.status ∈ [PurchaseStatus.refundPending, .refundRecoveryPending])
      (hto : new.status = .refunded) : PurchaseStep mode s ep new (.settle ep released) released
  | reopen (hfrom : ep.status = .refunded) (hto : new.status = .refundRecoveryPending)
      (hreopen : mode.strict → s.MayReopen ep) : PurchaseStep mode s ep new (.reopen ep) false

/-- The end of a checkout hold: it expires, or its payment came too late. -/
inductive CheckoutEnd (mode : MoveMode) (s : Enrollment) (ep new : Purchase) : Effect → Prop
  | expire (hfrom : ep.status = .pending) (hto : new.status = .expired) :
    CheckoutEnd mode s ep new .plain
  | reserve (hfrom : ep.status = .pending
        ∨ (ep.status = .expired ∧ (mode.strict → s.MayReopen ep)))
      (hto : new.status = .refundPending) : CheckoutEnd mode s ep new (.reserve ep)

namespace PurchaseStep

variable {mode : MoveMode} {s : Enrollment} {ep new : Purchase} {effect : Effect} {released : Bool}

theorem entitled (h : PurchaseStep mode s ep new effect released)
    (hentitled : new.status.IsEntitled) : ep.status.IsEntitled := by
  cases h with
  | record hstatus _ => rwa [hstatus] at hentitled
  | rejectRefund hfrom _ => simp [hfrom]
  | requestRefund hfrom _ => simp [hfrom]
  | refundFree _ _ hto | handOver _ hto | settle _ _ hto | reopen _ hto _ => simp [hto] at hentitled

theorem pending_iff (h : PurchaseStep mode s ep new effect released) :
    new.status = .pending ↔ ep.status = .pending := by
  cases h with
  | record hstatus _ => rw [hstatus]
  | refundFree hfrom _ hto | handOver hfrom hto =>
    rcases PurchaseStatus.isEntitled_iff.1 hfrom with hfrom | hfrom <;> simp [hfrom, hto]
  | requestRefund hfrom hto | rejectRefund hfrom hto | reopen hfrom hto _ => simp [hfrom, hto]
  | settle _ hfrom hto =>
    simp only [PurchaseStatus.isEntitled_iff, List.mem_cons, List.not_mem_nil, or_false] at hfrom
    rcases hfrom with (hfrom | hfrom) | hfrom | hfrom <;> simp [hfrom, hto]

theorem conflicting (h : PurchaseStep mode s ep new effect released)
    (hconflicting : new.status.IsConflicting) :
    ep.status.IsConflicting ∨ (mode.strict → s.MayReopen ep) := by
  cases h with
  | record hstatus _ => exact .inl (hstatus ▸ hconflicting)
  | rejectRefund hfrom _ | requestRefund hfrom _ => exact .inl (by simp [hfrom])
  | handOver hfrom _ =>
    rcases PurchaseStatus.isEntitled_iff.1 hfrom with hfrom | hfrom <;> exact .inl (by simp [hfrom])
  | refundFree _ _ hto | settle _ _ hto => simp [hto] at hconflicting
  | reopen _ _ hreopen => exact .inr hreopen

end PurchaseStep

namespace CheckoutEnd

variable {mode : MoveMode} {s : Enrollment} {ep new : Purchase} {effect : Effect}

theorem not_active (h : CheckoutEnd mode s ep new effect) : ¬ new.status.IsActive := by
  cases h with
  | expire _ hto | reserve _ hto => simp [hto]

theorem conflicting (h : CheckoutEnd mode s ep new effect)
    (hconflicting : new.status.IsConflicting) :
    ep.status.IsConflicting ∨ (mode.strict → s.MayReopen ep) := by
  cases h with
  | expire _ hto => simp [hto] at hconflicting
  | reserve hfrom _ =>
    rcases hfrom with hfrom | ⟨-, hreopen⟩
    · exact .inl (by simp [hfrom])
    · exact .inr hreopen

end CheckoutEnd

/-- Gives the discount back, or not. -/
def releaseIf (released : Bool) (code : Option Uuid) (s : Enrollment) : Enrollment :=
  if released = true then releaseEventDiscountCodeAvailability code s else s

section ReleaseIf

variable (released : Bool) (code : Option Uuid) (s : Enrollment)

theorem releaseIf_eq : releaseIf released code s
    = { s with discountCodes := (releaseIf released code s).discountCodes } := by
  unfold releaseIf
  split <;> rfl

@[simp] theorem releaseIf_event : (releaseIf released code s).event = s.event := by
  rw [releaseIf_eq]

@[simp] theorem releaseIf_group : (releaseIf released code s).group = s.group := by
  rw [releaseIf_eq]

@[simp] theorem releaseIf_ticketTypes :
    (releaseIf released code s).ticketTypes = s.ticketTypes := by
  rw [releaseIf_eq]

@[simp] theorem releaseIf_admissionOffers :
    (releaseIf released code s).admissionOffers = s.admissionOffers := by
  rw [releaseIf_eq]

@[simp] theorem releaseIf_purchases : (releaseIf released code s).purchases = s.purchases := by
  rw [releaseIf_eq]

@[simp] theorem releaseIf_attendees : (releaseIf released code s).attendees = s.attendees := by
  rw [releaseIf_eq]

theorem releaseIf_discountCodes_congr {s t : Enrollment} (h : s.discountCodes = t.discountCodes) :
    (releaseIf released code s).discountCodes = (releaseIf released code t).discountCodes := by
  unfold releaseIf
  split
  · rw [releaseEventDiscountCodeAvailability, h]
    rfl
  · exact h

end ReleaseIf

/-! ## Seats and caps -/

/-- What claims a seat of a tier: the offers that reserve one, and the purchases that entitle to one
or hold one, a purchase by offer under the identifier of its offer. -/
def Enrollment.claimedSeats (s : Enrollment) (now : Timestamp) (tier : Uuid) : Finset Uuid :=
  ((s.admissionOffers.filter fun ao ↦ ao.eventTicketTypeId = tier ∧ ao.IsReserving now).map
      AdmissionOffer.admissionOfferId).toFinset
    ∪ ((s.purchases.filter fun ep ↦ ep.eventTicketTypeId = tier
      ∧ (ep.status.IsEntitled ∨ ep.HasLiveHold now)).map Purchase.seatKey).toFinset

/-- The tier still has an unclaimed seat. -/
def Enrollment.HasRoom (s : Enrollment) (now : Timestamp) (tier : Uuid) : Prop :=
  ∃ ett ∈ s.ticketTypes, ett.eventTicketTypeId = tier
    ∧ (s.claimedSeats now tier).card < ett.seatsTotal

/-- The code of a live-priced purchase has redemptions left. -/
def Enrollment.HasRedemptionsLeft (s : Enrollment) (now : Timestamp) (code : Option Uuid) : Prop :=
  ∀ id ∈ code, ∃ edc ∈ s.discountCodes, edc.eventDiscountCodeId = id
    ∧ ∀ total ∈ edc.totalAvailable, (redemptionCount now id s : ℤ) < total

/-! ## The moves -/

/-- What is known of a purchase that opens a hold. -/
structure Enrollment.Opens (s : Enrollment) (now : Timestamp) (ep : Purchase) : Prop where
  id : ep.eventPurchaseId = s.nextUuid
  status : ep.status = .pending
  hold : ep.holdExpiresAt ≠ none
  session : ep.providerCheckoutSessionId = none
  financial : ep.financialAmounts = none
  accepted : s.AcceptsPurchase ep
  notQueued : ∀ ew ∈ s.waitlist, ew.userId ≠ ep.userId
  notCanceled : s.event.canceled = false

/-- The offer table before and after the linked offer of a purchase completes. -/
def CompletesOffer (ep : Purchase) (offers offers' : List AdmissionOffer) : Prop :=
  (ep.admissionOfferId = none ∧ offers' = offers)
    ∨ ∃ ao ∈ offers, some ao.admissionOfferId = ep.admissionOfferId
      ∧ ao.status = .checkoutPending
      ∧ offers' = replaceRow AdmissionOffer.admissionOfferId { ao with status := .completed } offers

/-- The attendee table before and after a user is confirmed. -/
def ConfirmsAttendee (user : Uuid) (attendees attendees' : List Attendee) : Prop :=
  ∃ ea : Attendee, ea.userId = user ∧ ea.status = .confirmed
    ∧ ((attendees' = attendees ++ [ea] ∧ ∀ row ∈ attendees, row.userId ≠ user)
      ∨ (attendees' = replaceRow Attendee.userId ea attendees
        ∧ ∃ row ∈ attendees, row.userId = user))

/-- One row movement of enrollment, with its refund effect. -/
inductive EnrollmentMove (mode : MoveMode) (now : Timestamp) :
    Effect → Enrollment → Enrollment → Prop
  /-- Identifiers are issued elsewhere. -/
  | issueUuid {s : Enrollment} {n : Uuid} (hn : s.nextUuid ≤ n) :
    EnrollmentMove mode now .plain s { s with nextUuid := n }
  | setPublished {s : Enrollment} (published : Bool) :
    EnrollmentMove mode now .plain s { s with event := { s.event with published := published } }
  | setCanceled {s : Enrollment}
      (hpurchases : ∀ ep ∈ s.purchases, ¬ ep.status.IsActive)
      (hattendees : ∀ ea ∈ s.attendees, ea.status = .attendanceCanceled) :
    EnrollmentMove mode now .plain s { s with event := { s.event with canceled := true } }
  | movePurchase {s : Enrollment} {ep new : Purchase} {effect : Effect} {released : Bool}
      (hep : ep ∈ s.purchases) (hcontinues : new.Continues ep) (haccepted : s.AcceptsPurchase new)
      (hstep : PurchaseStep mode s ep new effect released) :
    EnrollmentMove mode now effect s
      (releaseIf released ep.eventDiscountCodeId
        { s with purchases := replaceRow Purchase.eventPurchaseId new s.purchases })
  /-- The questionnaire row of the checkout goes with it, unless another purchase needs it. -/
  | endCheckout {s : Enrollment} {ep new : Purchase} {effect : Effect} (keep : Attendee → Bool)
      (hep : ep ∈ s.purchases) (hcontinues : new.Continues ep) (haccepted : s.AcceptsPurchase new)
      (hend : CheckoutEnd mode s ep new effect)
      (hdropped : ∀ ea ∈ s.attendees, ¬ keep ea = true → ea.status = .registrationQuestionsPending)
      (hkept : ∀ ea ∈ s.attendees, keep ea = true → ea.userId = ep.userId →
        ea.status = .registrationQuestionsPending → ea.manuallyInvited = false →
        ∃ other ∈ replaceRow Purchase.eventPurchaseId new s.purchases,
          other.userId = ea.userId ∧ (other.status.IsEntitled ∨ other.status = .pending)) :
    EnrollmentMove mode now effect s
      (releaseIf (ep.status = .pending) ep.eventDiscountCodeId
        { s with
          attendees := s.attendees.filter keep
          purchases := replaceRow Purchase.eventPurchaseId new s.purchases })
  | openDirect {s s₁ : Enrollment} {ep : Purchase} (hopens : s.Opens now ep)
      (hdirect : ep.admissionOfferId = none)
      (hoffers : ∀ ao ∈ s.admissionOffers, ao.userId = ep.userId → ¬ ao.status.IsActive)
      (hroom : s.HasRoom now ep.eventTicketTypeId)
      (hcap : s.HasRedemptionsLeft now ep.eventDiscountCodeId)
      (hreserve : reserveEventDiscountCodeAvailability ep.eventDiscountCodeId s = .ok s₁) :
    EnrollmentMove mode now .plain s
      { s₁ with purchases := s.purchases ++ [ep], nextUuid := s.nextUuid + 1 }
  | openByOffer {s s₁ : Enrollment} {ep : Purchase} {ao new : AdmissionOffer}
      (hopens : s.Opens now ep) (hao : ao ∈ s.admissionOffers) (hreserving : ao.IsReserving now)
      (hfollows : new.Follows ao) (hclaimed : new.status = .checkoutPending)
      (hacceptsOffer : s.AcceptsOffer new)
      (hlinked : ep.admissionOfferId = some ao.admissionOfferId) (huser : ep.userId = ao.userId)
      (htier : ep.eventTicketTypeId = ao.eventTicketTypeId)
      (hsnapshot : ∃ snapshot ∈ new.snapshot, snapshot.Prices ep)
      (hcap : ao.snapshot = none → s.HasRedemptionsLeft now ep.eventDiscountCodeId)
      (hreserve : reserveEventDiscountCodeAvailability ep.eventDiscountCodeId s = .ok s₁)
      (hclaims : mode.claims) :
    EnrollmentMove mode now .plain s
      { s₁ with
        admissionOffers := replaceRow AdmissionOffer.admissionOfferId new s.admissionOffers
        purchases := s.purchases ++ [ep]
        nextUuid := s.nextUuid + 1 }
  | complete {s : Enrollment} {ep new : Purchase} {offers' : List AdmissionOffer}
      {attendees' : List Attendee} (hep : ep ∈ s.purchases) (hcontinues : new.Continues ep)
      (haccepted : s.AcceptsPurchase new) (hlive : ep.HasLiveHold now)
      (hstatus : new.status = .completed) (hnotCanceled : s.event.canceled = false)
      (hoffers : CompletesOffer ep s.admissionOffers offers')
      (hattendees : ConfirmsAttendee ep.userId s.attendees attendees')
      (hqueue : ∀ ew ∈ s.waitlist, ew.userId ≠ ep.userId)
      (hfree : ∀ ao ∈ offers', ao.userId = ep.userId → ¬ ao.status.IsActive)
      (hcompletes : mode.completes) :
    EnrollmentMove mode now .plain s
      { s with
        admissionOffers := offers'
        attendees := attendees'
        purchases := replaceRow Purchase.eventPurchaseId new s.purchases }
  | endOffer {s : Enrollment} {ao : AdmissionOffer} {status : OfferStatus}
      (hao : ao ∈ s.admissionOffers)
      (hstatus : status ∈ [OfferStatus.canceled, .declined, .expired])
      (hmay : ao.status.MayBecome status) :
    EnrollmentMove mode now .plain s
      { s with
        admissionOffers := replaceRow AdmissionOffer.admissionOfferId { ao with status := status }
          s.admissionOffers }
  | returnOffer {s : Enrollment} {ao : AdmissionOffer} (hao : ao ∈ s.admissionOffers)
      (hfrom : ao.status = .checkoutPending)
      (haccepts : s.AcceptsOffer { ao with status := .pending }) :
    EnrollmentMove mode now .plain s
      { s with
        admissionOffers := replaceRow AdmissionOffer.admissionOfferId { ao with status := .pending }
          s.admissionOffers }
  | issueOffer {s : Enrollment} {ao : AdmissionOffer} (hid : ao.admissionOfferId = s.nextUuid)
      (hstatus : ao.status = .pending) (hsnapshot : ao.snapshot = none)
      (haccepts : s.AcceptsOffer ao) (hroom : s.HasRoom now ao.eventTicketTypeId)
      (hnotCanceled : s.event.canceled = false) :
    EnrollmentMove mode now .plain s
      { s with admissionOffers := s.admissionOffers ++ [ao], nextUuid := s.nextUuid + 1 }
  | leaveQueue {s : Enrollment} (keep : WaitlistEntry → Bool) :
    EnrollmentMove mode now .plain s { s with waitlist := s.waitlist.filter keep }
  | joinQueue {s : Enrollment} {ew : WaitlistEntry}
      (hattendees : ∀ ea ∈ s.attendees, ea.userId ≠ ew.userId)
      (hoffers : ∀ ao ∈ s.admissionOffers, ao.userId = ew.userId → ¬ ao.status.IsActive)
      (hwaitlist : ∀ row ∈ s.waitlist, row.userId ≠ ew.userId)
      (hpurchases : ∀ ep ∈ s.purchases, ep.userId = ew.userId → ¬ ep.status.IsConflicting)
      (hmode : s.event.attendeeApprovalRequired = false)
      (hnotCanceled : s.event.canceled = false) :
    EnrollmentMove mode now .plain s { s with waitlist := s.waitlist ++ [ew] }
  | addRequest {s : Enrollment} {eir : InvitationRequest}
      (hoffers : ∀ ao ∈ s.admissionOffers, ao.userId = eir.userId → ¬ ao.status.IsActive)
      (hmode : s.event.attendeeApprovalRequired = true)
      (hnotCanceled : s.event.canceled = false) :
    EnrollmentMove mode now .plain s
      { s with invitationRequests := s.invitationRequests ++ [eir] }
  | dropRequests {s : Enrollment} (keep : InvitationRequest → Bool) :
    EnrollmentMove mode now .plain s
      { s with invitationRequests := s.invitationRequests.filter keep }
  | reviewRequests {s : Enrollment} {user : Uuid} {status : InvitationRequestStatus}
      (hstatus : status ≠ .pending) :
    EnrollmentMove mode now .plain s
      { s with
        invitationRequests := updateWhere (fun eir ↦ eir.userId = user ∧ eir.status = .pending)
          (fun eir ↦ { eir with status := status }) s.invitationRequests }
  | holdAnswers {s : Enrollment} {ea : Attendee}
      (hstatus : ea.status = .registrationQuestionsPending) (hmanual : ea.manuallyInvited = false)
      (hnew : ∀ row ∈ s.attendees, row.userId ≠ ea.userId) (hadmits : s.AdmitsAttendee ea)
      (hpending : ∃ ep ∈ s.purchases, ep.userId = ea.userId ∧ ep.status = .pending) :
    EnrollmentMove mode now .plain s { s with attendees := s.attendees ++ [ea] }
  | reviveAnswers {s : Enrollment} {old ea : Attendee} (hold : old ∈ s.attendees)
      (huser : ea.userId = old.userId) (hmanual : ea.manuallyInvited = old.manuallyInvited)
      (hfrom : old.status ∈ [AttendeeStatus.attendanceCanceled, .registrationQuestionsPending])
      (hstatus : ea.status = .registrationQuestionsPending) (hadmits : s.AdmitsAttendee ea)
      (hpending : ∃ ep ∈ s.purchases, ep.userId = ea.userId ∧ ep.status = .pending)
      (hrevive : mode.strict → old.status = .registrationQuestionsPending ∨ s.MayRevive old) :
    EnrollmentMove mode now .plain s
      { s with attendees := replaceRow Attendee.userId ea s.attendees }
  | editAnswers {s : Enrollment} {old ea : Attendee} (hold : old ∈ s.attendees)
      (huser : ea.userId = old.userId) (hmanual : ea.manuallyInvited = old.manuallyInvited)
      (hstatus : ea.status = old.status) :
    EnrollmentMove mode now .plain s
      { s with attendees := replaceRow Attendee.userId ea s.attendees }
  | cancelAttendance {s : Enrollment} {ea : Attendee} (hea : ea ∈ s.attendees)
      (hpurchases : ∀ ep ∈ s.purchases, ep.userId = ea.userId → ¬ ep.status.IsEntitled) :
    EnrollmentMove mode now .plain s
      { s with
        attendees := replaceRow Attendee.userId { ea with status := .attendanceCanceled }
          s.attendees }
  | dropAttendees {s : Enrollment} (keep : Attendee → Bool)
      (hkeep : ∀ ea ∈ s.attendees, ¬ keep ea = true →
        ea.status = .attendanceCanceled ∨ ea.status = .invitationCanceled) :
    EnrollmentMove mode now .plain s { s with attendees := s.attendees.filter keep }

end Ocg
