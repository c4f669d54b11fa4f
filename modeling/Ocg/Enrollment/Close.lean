import Ocg.Enrollment.Reconcile

/-!
# Closing enrollment

`close_event_enrollment` empties an event: pending checkouts expire, every active offer is canceled,
and requests and queues are cleared. Unlike reconciliation it expires all holds in one statement
before it releases what they held.
-/

namespace Ocg

open Relational

/-- One iteration of the loop over the expired checkouts. -/
def releaseExpired (now : Timestamp) (s : Enrollment) (ep : Purchase) : Enrollment :=
  releaseEventCheckoutAttendeeHold now ep.userId
    (releaseEventDiscountCodeAvailability ep.eventDiscountCodeId s)

/-- Expire pending checkouts and release their discount and attendee holds. -/
def expirePendingCheckouts (now : Timestamp) (s : Enrollment) : Except DbError Enrollment := do
  let pending := s.purchases.filter fun ep ↦ ep.status = .pending
  let s ← pending.foldlM (fun s ep ↦ writePurchase ep (ep.expire (ep.holdEndedBy now)) s) s
  .ok (pending.foldl (releaseExpired now) s)

/-- Return abandoned checkouts to pending. -/
def returnCheckoutOffers (s : Enrollment) : Except DbError Enrollment :=
  (s.admissionOffers.filter fun ao ↦ ao.status = .checkoutPending).foldlM
    (fun s ao ↦ writeAdmissionOffer ao { ao with status := .pending } s) s

/-- Cancel every pending offer. -/
def cancelPendingOffers (s : Enrollment) : Except DbError Enrollment :=
  (s.admissionOffers.filter fun ao ↦ ao.status = .pending).foldlM
    (fun s ao ↦ do
      let updated ← updateAdmissionOffer ao.admissionOfferId (· = .pending)
        (fun row ↦ { row with status := .canceled }) s
      .ok (updated.getD s)) s

/-- `close_event_enrollment`, less the list of notified users. -/
def closeEventEnrollment (now : Timestamp) (s : Enrollment) : Except DbError Enrollment := do
  let s ← expirePendingCheckouts now s
  let s ← returnCheckoutOffers s
  let s ← cancelPendingOffers s
  .ok { s with
    invitationRequests := s.invitationRequests.filter fun eir ↦ eir.status ≠ .pending
    waitlist := [] }

/-- `unpublish_event`. -/
def unpublishEvent (now : Timestamp) (groupId : Uuid) (s : Enrollment) :
    Except DbError Enrollment := do
  require (s.group.groupId = groupId ∧ s.event.deleted = false)
    (.raised "event not found or inactive")
  if s.event.published = false then .ok s else do
    let s ← closeEventEnrollment now s
    .ok { s with event := { s.event with published := false } }

end Ocg
