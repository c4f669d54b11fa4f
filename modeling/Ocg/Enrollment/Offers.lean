import Ocg.Enrollment.Attend

/-!
# Issuing and withdrawing admission offers

Organizers invite users and accept requests, both of which reserve a seat through a pending offer;
either side may withdraw an offer, which gives its seat back to the queue.
-/

namespace Ocg

open Relational

/-- The group's side of an event that still accepts enrollment. -/
def Enrollment.IsManagedBy (s : Enrollment) (now : Timestamp) (groupId : Uuid) : Prop :=
  s.group.groupId = groupId ∧ s.group.active = true ∧ s.event.deleted = false
    ∧ s.event.published = true ∧ s.event.canceled = false ∧ s.event.HasNotEnded now

instance (s : Enrollment) (now : Timestamp) (groupId : Uuid) :
    Decidable (s.IsManagedBy now groupId) :=
  inferInstanceAs (Decidable (_ ∧ _))

inductive OfferOutcome
  | conflict (reason : String)
  | queueOffer (user : Uuid)
  | offerCreated (user : Uuid)
  deriving DecidableEq, Repr

/-- The conflict reported for a full tier: promoted queue heads went first, or it is sold out. -/
def fullTierConflict (promoted : List Uuid) : OfferOutcome :=
  .conflict (if 0 < promoted.length then "queue-has-priority" else "ticket-type-sold-out")

/-! ## Invitation requests -/

/-- The tier an accepted request is for: the requested one, or an organizer-assigned private one. -/
def requestedTier (eir : InvitationRequest) (tier : Option Uuid) : Except DbError Uuid :=
  match eir.eventTicketTypeId, tier with
  | some requested, tier => do
    require (∀ id ∈ tier, id = requested) (.raised "requested ticket type cannot be changed")
    .ok requested
  | none, some id => .ok id
  | none, none => .error (.raised "invitation-only ticket type is required")

/-- The deadline of an organizer's offer before the event starts. -/
def offerDeadline (now : Timestamp) (beforeStart : Option Timestamp) (e : Event) : Timestamp :=
  match e.startsAt with
  | some startsAt =>
    if now < startsAt then min (boundedBy (now + hours 24) beforeStart) startsAt
    else boundedBy (now + hours 24) e.endsAt
  | none => boundedBy (now + hours 24) e.endsAt

/-- The status that a first approval leaves on a request. -/
def acceptRequest (user : Uuid) (s : Enrollment) : Enrollment :=
  { s with
    invitationRequests := updateWhere (fun eir ↦ eir.userId = user ∧ eir.status = .pending)
      (fun eir ↦ { eir with status := .accepted }) s.invitationRequests }

/-- `accept_event_invitation_request`. -/
def acceptEventInvitationRequest (now : Timestamp) (actor groupId user : Uuid)
    (tier : Option Uuid) (configuredProvider : Option String) (s : Enrollment) :
    Except DbError (OfferOutcome × Enrollment) := do
  require (s.IsManagedBy now groupId ∧ s.event.attendeeApprovalRequired = true)
    (.raised "event not found or inactive")
  require (isRegistrationWindowOpen now s.event.registrationStartsAt s.event.registrationEndsAt
        s.event.startsAt
      ∨ ∃ t ∈ s.event.startsAt, t ≤ now)
    (.raised "event registration is not open")
  match s.invitationRequests.find? fun eir ↦ eir.userId = user
      ∧ eir.status ∈ [InvitationRequestStatus.accepted, .pending] with
  | none => .error (.raised "pending invitation request not found")
  | some eir => do
    let tier ← requestedTier eir tier
    match s.ticketTypes.find? fun ett ↦ ett.eventTicketTypeId = tier ∧ ett.active = true
        ∧ (eir.eventTicketTypeId ≠ none ∨ ett.availability = .invitationOnly) with
    | none => .error (.raised "ticket type is not available")
    | some ett =>
      match ett.currentPrice now with
      | none => .error (.raised "ticket type is not available")
      | some price => do
        require (eir.status = .accepted →
            ¬ ∃ ao ∈ s.admissionOffers, ao.userId = user ∧ ao.status.IsActive)
          (.raised "user already has an active admission offer for this event")
        require (eir.status = .accepted →
            ¬ ∃ ep ∈ s.purchases, ep.userId = user ∧ ep.status.IsConflicting)
          (.raised "user already has an active purchase for this event")
        let (promoted, s) ← reconcileEventEnrollment now (some tier) configuredProvider s
        require (∃ row ∈ s.invitationRequests, row.userId = user ∧ row.status = eir.status)
          (.raised "pending invitation request not found")
        if ett.seatsTotal ≤ allocatedSeatCount now tier s then .ok (fullTierConflict promoted, s)
        else do
          validateEventTicketingPaymentReadiness configuredProvider (decide (0 < price))
            s.event.paymentCurrencyCode s.group.paymentRecipient s.event
          let deadline := offerDeadline now s.event.registrationEndsAt s.event
          require (now < deadline) (.raised "event not found or inactive")
          let s := if eir.status = .pending then acceptRequest user s else s
          let s ← issueOffer now tier user deadline .approval (some actor) s
          .ok (.offerCreated user, s)

/-- `reject_event_invitation_request`. -/
def rejectEventInvitationRequest (groupId user : Uuid) (s : Enrollment) :
    Except DbError Enrollment := do
  require (s.group.groupId = groupId ∧ s.event.deleted = false ∧ s.event.canceled = false)
    (.raised "event not found or inactive")
  require (∃ eir ∈ s.invitationRequests, eir.userId = user ∧ eir.status = .pending)
    (.raised "pending invitation request not found")
  .ok { s with
    invitationRequests := updateWhere (fun eir ↦ eir.userId = user ∧ eir.status = .pending)
      (fun eir ↦ { eir with status := .rejected }) s.invitationRequests }

/-! ## Invitations -/

/-- The user an invitation targets, and whether that user has to be pre-registered first. -/
structure InviteTarget where
  userId : Uuid
  preRegistered : Option String
  deriving DecidableEq, Repr

/-- Resolves a registered or pre-registered invitee; a new email is pre-registered under a fresh
identifier once a seat was found for it. -/
def resolveInvitee (user : Option Uuid) (normalizedEmail : Option String) (db : Database) :
    Except DbError InviteTarget :=
  match user, normalizedEmail with
  | some id, _ => do
    require (∃ u ∈ db.users, u.userId = id ∧ u.registered = true ∧ u.emailVerified = true)
      (.raised "registered user not found")
    .ok ⟨id, none⟩
  | none, address =>
    match db.users.find? fun u ↦ some (lower u.email) = address with
    | none => .ok ⟨db.nextUuid, address⟩
    | some u => do
      require (¬ (u.registered = true ∧ u.emailVerified = false))
        (.raised "registered user email is not verified")
      .ok ⟨u.userId, none⟩

/-- Auto-selects the sole organizer-visible tier when the form omits it. -/
def selectOrganizerTier (now : Timestamp) (tier : Option Uuid) (s : Enrollment) :
    Except DbError Uuid :=
  match tier with
  | some id => .ok id
  | none =>
    match s.ticketTypes.filter fun ett ↦ ett.IsSellable now with
    | [ett] => .ok ett.eventTicketTypeId
    | _ => .error (.raised "ticket type is required for event invitations")

/-- The attendee and offer states in which a user may not be invited again. -/
def checkInvitable (user : Uuid) (s : Enrollment) : Except DbError Unit := do
  require (¬ ∃ ea ∈ s.attendees, ea.userId = user ∧ ea.status = .confirmed)
    (.raised "user is already attending this event")
  require (¬ ∃ ea ∈ s.attendees, ea.userId = user ∧ ea.status = .invitationPending)
    (.raised "user already has a pending event invitation")
  require (¬ ∃ ea ∈ s.attendees, ea.userId = user ∧ ea.status = .registrationQuestionsPending)
    (.raised "user already has a pending event registration")
  require (¬ ∃ ao ∈ s.admissionOffers, ao.userId = user ∧ ao.status.IsActive)
    (.raised "user already has a pending event invitation")

/-- The enrollment half of `invite_event_attendee`, for a resolved invitee. -/
def inviteUser (now : Timestamp) (actor user : Uuid) (tier : Option Uuid)
    (configuredProvider : Option String) (s : Enrollment) :
    Except DbError (OfferOutcome × Enrollment) := do
  let tier ← selectOrganizerTier now tier s
  match s.ticketTypes.find? fun ett ↦ ett.eventTicketTypeId = tier ∧ ett.active = true with
  | none => .error (.raised "ticket type is not available")
  | some ett =>
    match ett.currentPrice now with
    | none => .error (.raised "ticket type is not available")
    | some price => do
      let (promoted, s) ← reconcileEventEnrollment now (some tier) configuredProvider s
      if user ∈ promoted then .ok (.queueOffer user, s)
      else if ett.seatsTotal ≤ allocatedSeatCount now tier s then
        .ok (fullTierConflict promoted, s)
      else do
        validateEventTicketingPaymentReadiness configuredProvider (decide (0 < price))
          s.event.paymentCurrencyCode s.group.paymentRecipient s.event
        checkInvitable user s
        let deadline := offerDeadline now none s.event
        require (now < deadline) (.raised "event not found or inactive")
        let s ← issueOffer now tier user deadline .organizerInvitation (some actor)
          { s with waitlist := s.waitlist.filter fun ew ↦ ew.userId ≠ user }
        .ok (.offerCreated user, s)

/-- `invite_event_attendee`. -/
def inviteEventAttendee (now : Timestamp) (actor groupId : Uuid) (user : Option Uuid)
    (email : Option String) (tier : Option Uuid) (configuredProvider : Option String)
    (db : Database) : Except DbError (OfferOutcome × Database) := do
  let normalizedEmail := (nullIfBlank email).map lower
  require (user = none ↔ normalizedEmail ≠ none) (.raised "provide exactly one invite target")
  require (db.IsManagedBy now groupId) (.raised "event not found or inactive")
  let target ← resolveInvitee user normalizedEmail db
  let (outcome, s) ← inviteUser now actor target.userId tier configuredProvider
    { db.toEnrollment with
      nextUuid := if target.preRegistered = none then db.nextUuid else db.nextUuid + 1 }
  let users := match target.preRegistered, outcome with
    | some address, .offerCreated id => db.users ++ [⟨id, address, false, false⟩]
    | _, _ => db.users
  .ok (outcome, { db with toEnrollment := s, users := users })

/-! ## Withdrawing an offer -/

/-- Releases an offer and its linked checkout, and fills the released seat. -/
def releaseAdmissionOffer (now : Timestamp) (offer : AdmissionOffer) (status : OfferStatus)
    (configuredProvider : Option String) (s : Enrollment) : Except DbError Enrollment := do
  let (_, s) ← reconcileEventEnrollment now (some offer.eventTicketTypeId) configuredProvider s
  require (∃ ao ∈ s.admissionOffers, ao.admissionOfferId = offer.admissionOfferId
      ∧ ao.IsReserving now)
    (.raised "admission offer is no longer available")
  let s ← match s.purchases.find? fun ep ↦
      ep.admissionOfferId = some offer.admissionOfferId ∧ ep.status = .pending with
    | none => .ok s
    | some ep => expireHold now now ep s
  match ← updateAdmissionOffer offer.admissionOfferId OfferStatus.IsActive
      (fun ao ↦ { ao with status := status }) s with
  | none => .error (.raised "admission offer is no longer available")
  | some s => do
    let (_, s) ← reconcileEventEnrollment now (some offer.eventTicketTypeId) configuredProvider s
    .ok s

/-- `cancel_event_admission_offer`. -/
def cancelEventAdmissionOffer (now : Timestamp) (groupId offer : Uuid)
    (configuredProvider : Option String) (s : Enrollment) : Except DbError Enrollment :=
  match s.admissionOffers.find? fun ao ↦ ao.admissionOfferId = offer with
  | none => .error (.raised "admission offer is no longer available")
  | some ao => do
    require (s.group.groupId = groupId) (.raised "admission offer is no longer available")
    releaseAdmissionOffer now ao .canceled configuredProvider s

/-- `decline_event_admission_offer`. -/
def declineEventAdmissionOffer (now : Timestamp) (actor offer : Uuid)
    (configuredProvider : Option String) (s : Enrollment) : Except DbError Enrollment :=
  match s.admissionOffers.find? fun ao ↦ ao.admissionOfferId = offer ∧ ao.userId = actor with
  | none => .error (.raised "admission offer is no longer available")
  | some ao => releaseAdmissionOffer now ao .declined configuredProvider s

end Ocg
