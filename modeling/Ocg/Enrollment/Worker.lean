import Ocg.Enrollment.Reconcile
import Ocg.Relational.Worklist

/-!
# The enrollment worker

`reconcile_next_event_enrollment` picks the first event, in the order of identifiers and among those
that no other session has locked, whose enrollment is due: an active offer reached its deadline, a
checkout hold ran out, or a queued user of a public tier could be given a seat. It reconciles that
event. The background worker calls it again as long as it returns an event.

An event is represented by its enrollment tables. The event and group rows joined by the query are
part of them.
-/

namespace Ocg

open Relational

/-- One event of the database with the tables of its enrollment. -/
structure EventEnrollment where
  eventId : Uuid
  enrollment : Enrollment

/-- The payment condition of the selection, which compares the current price with zero. -/
def TicketType.IsOfferable (now : Timestamp) (provider : Option String) (s : Enrollment)
    (ett : TicketType) : Prop :=
  ∃ price ∈ ett.currentPrice now, price = 0 ∨ PaymentReady provider s

instance TicketType.decidableIsOfferable (now : Timestamp) (provider : Option String)
    (s : Enrollment) (ett : TicketType) : Decidable (ett.IsOfferable now provider s) :=
  inferInstanceAs (Decidable (∃ price ∈ ett.currentPrice now, _))

/-- A queued user of a public tier that has a free seat, a price, and the payment setup for it. -/
def Enrollment.HasPromotableEntry (s : Enrollment) (now : Timestamp) (provider : Option String) :
    Prop :=
  ∃ ew ∈ s.waitlist, ∃ ett ∈ s.ticketTypes, ett.eventTicketTypeId = ew.eventTicketTypeId
    ∧ ett.IsOfferable now provider s ∧ ett.active = true ∧ ett.availability = .publicTier
    ∧ allocatedSeatCount now ett.eventTicketTypeId s < ett.seatsTotal

instance Enrollment.decidableHasPromotableEntry (s : Enrollment) (now : Timestamp)
    (provider : Option String) : Decidable (s.HasPromotableEntry now provider) :=
  inferInstanceAs (Decidable (∃ ew ∈ s.waitlist, ∃ ett ∈ s.ticketTypes, _))

/-- The `where` clause of `reconcile_next_event_enrollment`. -/
def Enrollment.IsDue (s : Enrollment) (now : Timestamp) (provider : Option String) : Prop :=
  (∃ ao ∈ s.admissionOffers, ao.IsDue now)
    ∨ (∃ ep ∈ s.purchases, ep.status = .pending ∧ ∃ hold ∈ ep.holdExpiresAt, hold ≤ now)
    ∨ (s.AcceptsPromotion now ∧ s.HasPromotableEntry now provider)

instance Enrollment.decidableIsDue (s : Enrollment) (now : Timestamp) (provider : Option String) :
    Decidable (s.IsDue now provider) :=
  inferInstanceAs (Decidable (_ ∨ _))

/-- `reconcile_event_enrollment` of one event, without a ticket type. -/
def EventEnrollment.reconcile (now : Timestamp) (provider : Option String) (ev : EventEnrollment) :
    Except DbError EventEnrollment := do
  let (_, s) ← reconcileEventEnrollment now none provider ev.enrollment
  .ok { ev with enrollment := s }

/-- `reconcile_next_event_enrollment`: the event that was reconciled, if one was due, and the
enrollment of all events. `locked` are the event rows that `skip locked` passes over. -/
def reconcileNextEventEnrollment (now : Timestamp) (provider : Option String) (locked : List Uuid)
    (events : List EventEnrollment) : Except DbError (Option Uuid × List EventEnrollment) :=
  workNext EventEnrollment.eventId (fun ev ↦ ev.enrollment.IsDue now provider)
    (EventEnrollment.reconcile now provider) locked events

/-- The calls of the worker loop at one instant. A call that raises is logged and tried again; the
others append what they returned to `results`. -/
abbrev EnrollmentWorkerRun (now : Timestamp) (provider : Option String) (mayLock : Uuid → Prop)
    (events : List EventEnrollment) : List (Option Uuid) → List EventEnrollment → Prop :=
  Worked EventEnrollment.eventId (fun ev ↦ ev.enrollment.IsDue now provider)
    (EventEnrollment.reconcile now provider) mayLock events

/-- The keys of the stored rows: the primary keys of offers and ticket types, the foreign key of a
purchase to its offer, and identifiers yet to be generated. -/
structure Enrollment.Keyed (s : Enrollment) : Prop where
  offers : (s.admissionOffers.map AdmissionOffer.admissionOfferId).Nodup
  ticketTypes : (s.ticketTypes.map TicketType.eventTicketTypeId).Nodup
  issued : ∀ ao ∈ s.admissionOffers, ao.admissionOfferId < s.nextUuid
  linked : ∀ ep ∈ s.purchases, ∀ id ∈ ep.admissionOfferId,
    ∃ ao ∈ s.admissionOffers, ao.admissionOfferId = id

end Ocg
