import Ocg.Checkout.Complete

/-!
# Attending and leaving

`attend_event` routes a user into checkout, an invitation request, or the queue of a tier;
`leave_event` undoes whichever of attendance, queue position or request the user has.
-/

namespace Ocg

open Relational

inductive AttendOutcome
  | pendingApproval
  | pendingPayment
  | eventCapacityUnavailable
  | waitlisted
  deriving DecidableEq, Repr

/-- An event that attendees can see and still act on. -/
def Enrollment.IsOpenTo (s : Enrollment) (now : Timestamp) (communityId : Uuid) : Prop :=
  s.group.communityId = communityId ∧ s.group.active = true ∧ s.event.deleted = false
    ∧ s.event.published = true ∧ s.event.canceled = false ∧ s.event.HasNotEnded now

instance (s : Enrollment) (now : Timestamp) (communityId : Uuid) :
    Decidable (s.IsOpenTo now communityId) :=
  inferInstanceAs (Decidable (_ ∧ _))

/-! ## Attending -/

/-- Resolves a selected public tier, or the only one; approval events may have none. -/
def selectPublicTier (now : Timestamp) (tier : Option Uuid) (s : Enrollment) :
    Except DbError (Option Uuid) :=
  let selectable := s.ticketTypes.filter fun ett ↦
    ett.IsSellable now ∧ ett.availability = .publicTier ∧ ∀ id ∈ tier, ett.eventTicketTypeId = id
  match tier with
  | none => do
    require (selectable.length = 1
        ∨ (s.event.attendeeApprovalRequired = true ∧ selectable.length = 0))
      (.raised "ticket type is required")
    .ok (selectable.head?.map (·.eventTicketTypeId))
  | some id => do
    require (selectable.length = 1) (.raised "ticket type is required")
    .ok (some id)

/-- Routes approval-required enrollment into a public-tier or generic request. -/
def requestInvitation (env : Env) (user : Uuid) (answers : Option Answers) (tier : Option Uuid)
    (s : Enrollment) : Except DbError (AttendOutcome × Enrollment) := do
  if s.event.registrationQuestions = [] then .ok () else
    env.validateQuestionnaireAnswersPayload s.event.registrationQuestions answers
  match s.invitationRequests.find? fun eir ↦ eir.userId = user with
  | some eir =>
    match eir.status with
    | .pending => .error (.raised "user has already requested an invitation for this event")
    | .rejected => .error (.raised "invitation request was rejected for this event")
    | .accepted => .error (.raised "invitation request was already accepted for this event")
  | none =>
    .ok (.pendingApproval, { s with
      invitationRequests := s.invitationRequests ++ [⟨user, tier, answers, .pending⟩] })

/-- Replaces inactive attendance or another queue position with this tier's queue. -/
def joinQueue (now : Timestamp) (user tier : Uuid) (s : Enrollment) :
    Except DbError Enrollment :=
  insertWaitlistEntry ⟨user, now, tier⟩
    { s with
      waitlist := s.waitlist.filter fun ew ↦ ew.userId ≠ user
      attendees := s.attendees.filter fun ea ↦
        ¬ (ea.userId = user
          ∧ ea.status ∈ [AttendeeStatus.attendanceCanceled, .invitationCanceled]) }

/-- A free hold of the user for the tier that an interrupted checkout left behind. -/
def Enrollment.HasReusableFreePurchase (s : Enrollment) (now : Timestamp) (user tier : Uuid) :
    Prop :=
  ∃ ep ∈ s.purchases, ep.eventTicketTypeId = tier ∧ ep.userId = user ∧ ep.amountMinor = 0
    ∧ ep.HasLiveHold now

instance (s : Enrollment) (now : Timestamp) (user tier : Uuid) :
    Decidable (s.HasReusableFreePurchase now user tier) :=
  inferInstanceAs (Decidable (∃ ep ∈ s.purchases, _))

/-- Sends the user to checkout while the tier has seats, and to its queue afterwards. -/
def enterTier (now : Timestamp) (user : Uuid) (tier : Option Uuid) (s : Enrollment) :
    Except DbError (AttendOutcome × Enrollment) :=
  match s.ticketTypes.find? fun ett ↦ some ett.eventTicketTypeId = tier ∧ ett.active = true
      ∧ ett.availability = .publicTier with
  | none => .error (.raised "ticket type is not publicly available")
  | some ett => do
    require (¬ ∃ ep ∈ s.purchases, ep.userId = user
        ∧ (ep.status.IsSeated
          ∨ (ep.HasLiveHold now
            ∧ ¬ (ep.eventTicketTypeId = ett.eventTicketTypeId ∧ ep.amountMinor = 0))))
      (.raised "user already has an active purchase for this event")
    if s.HasReusableFreePurchase now user ett.eventTicketTypeId then .ok (.pendingPayment, s)
    else if allocatedSeatCount now ett.eventTicketTypeId s < ett.seatsTotal then
      .ok (.pendingPayment, s)
    else if s.event.waitlistEnabled = false then .ok (.eventCapacityUnavailable, s)
    else if ∃ ew ∈ s.waitlist, ew.eventTicketTypeId = ett.eventTicketTypeId ∧ ew.userId = user
      then .ok (.waitlisted, s)
    else do
      let s ← joinQueue now user ett.eventTicketTypeId s
      .ok (.waitlisted, s)

/-- `attend_event`. -/
def attendEvent (env : Env) (now : Timestamp) (communityId user : Uuid)
    (answers : Option Answers) (tier : Option Uuid) (s : Enrollment) :
    Except DbError (AttendOutcome × Enrollment) := do
  require (s.IsOpenTo now communityId) (.raised "event not found or inactive")
  let (_, s) ← reconcileEventEnrollment now none none s
  require (isRegistrationWindowOpen now s.event.registrationStartsAt s.event.registrationEndsAt
      s.event.startsAt)
    (.raised "event registration is not open")
  require (¬ ∃ ea ∈ s.attendees, ea.userId = user ∧ ea.status = .confirmed)
    (.raised "user is already attending this event")
  require (¬ ∃ ao ∈ s.admissionOffers, ao.userId = user ∧ ao.IsReserving now)
    (.raised "user already has an active admission offer for this event")
  require (¬ ∃ ep ∈ s.purchases, ep.userId = user
      ∧ (ep.status.IsSeated
        ∨ (ep.HasLiveHold now
          ∧ (s.event.attendeeApprovalRequired = true ∨ ¬ isEventSimpleRsvp now s))))
    (.raised "user already has an active purchase for this event")
  let tier ← selectPublicTier now tier s
  if s.event.attendeeApprovalRequired = true then requestInvitation env user answers tier s
  else enterTier now user tier s

/-! ## Leaving -/

/-- `order by created_at desc, event_purchase_id desc`. -/
def Purchase.newerThan (ep ep' : Purchase) : Bool :=
  decide (ep'.createdAt < ep.createdAt
    ∨ (ep'.createdAt = ep.createdAt ∧ ep'.eventPurchaseId < ep.eventPurchaseId))

/-- The current purchase of an attendee. -/
def entitledPurchase (user : Uuid) (s : Enrollment) : Option Purchase :=
  firstBy Purchase.newerThan
    (s.purchases.filter fun ep ↦ ep.userId = user ∧ ep.status.IsEntitled)

/-- The status update that ends the active attendance of a user. -/
def cancelAttendance (user : Uuid) (statuses : List AttendeeStatus) (s : Enrollment) :
    Except DbError (Bool × Enrollment) :=
  updateAttendees (fun ea ↦ ea.userId = user ∧ ea.status ∈ statuses)
    (fun ea ↦ { ea with status := .attendanceCanceled }) s

/-- Refunds a free purchase that attendance depended on, and fills the released seat. -/
def releaseFreeAttendance (now : Timestamp) (purchase : Option Purchase)
    (configuredProvider : Option String) (s : Enrollment) : Except DbError Enrollment := do
  let s ← match purchase with
    | none => .ok s
    | some ep => refundFreeEventPurchase ep.eventPurchaseId s
  let (_, s) ← reconcileEventEnrollment now (purchase.map (·.eventTicketTypeId))
    configuredProvider s
  .ok s

inductive LeaveOutcome
  | attendee
  | waitlisted
  | pendingApproval
  deriving DecidableEq, Repr

/-- `leave_event`. -/
def leaveEvent (now : Timestamp) (communityId user : Uuid) (configuredProvider : Option String)
    (s : Enrollment) : Except DbError (LeaveOutcome × Enrollment) := do
  require (s.IsOpenTo now communityId) (.raised "event not found or inactive")
  let purchase := entitledPurchase user s
  require (∀ ep ∈ purchase, ¬ 0 < ep.amountMinor)
    (.raised "paid attendees must request a refund instead of leaving the event")
  let (found, s) ← cancelAttendance user [.confirmed] s
  if found = true then do
    let s ← releaseFreeAttendance now purchase configuredProvider s
    .ok (.attendee, s)
  else if ∃ ew ∈ s.waitlist, ew.userId = user then
    .ok (.waitlisted, { s with waitlist := s.waitlist.filter fun ew ↦ ew.userId ≠ user })
  else if ∃ eir ∈ s.invitationRequests, eir.userId = user ∧ eir.status = .pending then
    .ok (.pendingApproval, { s with
      invitationRequests := s.invitationRequests.filter fun eir ↦
        ¬ (eir.userId = user ∧ eir.status = .pending) })
  else .error (.raised "user is not attending or waitlisted for this event")

/-- `submit_event_registration_answers`. -/
def submitEventRegistrationAnswers (env : Env) (now : Timestamp) (communityId user : Uuid)
    (answers : Option Answers) (s : Enrollment) : Except DbError Enrollment := do
  require (s.group.communityId = communityId ∧ s.group.active = true ∧ s.event.deleted = false
      ∧ s.event.published = true ∧ s.event.canceled = false)
    (.raised "event not found or inactive")
  require (s.event.registrationQuestions ≠ [])
    (.raised "event does not have registration questions")
  require (∀ t ∈ s.event.startsAt, now < t)
    (.raised "registration answers can only be submitted before the event starts")
  env.validateQuestionnaireAnswersPayload s.event.registrationQuestions answers
  match s.attendees.find? fun ea ↦ ea.userId = user
      ∧ ea.status ∈ [AttendeeStatus.confirmed, .registrationQuestionsPending] with
  | none => .error (.raised "event registration not found")
  | some ea => do
    require (ea.manuallyInvited = true
        ∨ (∃ ep ∈ s.purchases, ep.userId = user ∧ ep.HasLiveHold now)
        ∨ isRegistrationWindowOpen now s.event.registrationStartsAt s.event.registrationEndsAt
          s.event.startsAt)
      (.raised "event registration is not open")
    -- the status column is not set, so the attendee trigger does not fire
    .ok { s with
      attendees := replaceRow Attendee.userId { ea with registrationAnswers := answers }
        s.attendees }

end Ocg
