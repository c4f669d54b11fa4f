import Ocg.Schema.Writes

/-!
# Windows, prices and seats

The read-only functions that every enrollment operation consults: whether public registration is
open, which price window of a tier is current, and how many seats of a tier are allocated.

A comparison with a null column is neither true nor false in SQL; a condition on an optional column
is therefore written as a statement about the values the column has.
-/

namespace Ocg

open Relational

/-- `coalesce(ends_at, starts_at)`: the instant from which an event is over. -/
def Event.endInstant (e : Event) : Option Timestamp := e.endsAt.or e.startsAt

/-- `coalesce(ends_at, starts_at) is null or coalesce(ends_at, starts_at) >= current_timestamp`. -/
def Event.HasNotEnded (e : Event) (now : Timestamp) : Prop := ∀ t ∈ e.endInstant, now ≤ t

instance (e : Event) (now : Timestamp) : Decidable (e.HasNotEnded now) :=
  inferInstanceAs (Decidable (∀ t ∈ e.endInstant, _))

/-- `is_registration_window_open`. -/
def isRegistrationWindowOpen (now : Timestamp)
    (registrationStartsAt registrationEndsAt eventStartsAt : Option Timestamp) : Prop :=
  (∀ t ∈ registrationStartsAt, t ≤ now)
    ∧ ((∃ t ∈ registrationEndsAt, now < t)
      ∨ (registrationEndsAt = none
        ∧ (registrationStartsAt = none ∨ eventStartsAt = none ∨ ∃ t ∈ eventStartsAt, now < t)))

instance (now : Timestamp) (rs re es : Option Timestamp) :
    Decidable (isRegistrationWindowOpen now rs re es) :=
  inferInstanceAs (Decidable (_ ∧ _))

/-! ## Prices -/

/-- A price window that contains the current instant, both ends included. -/
def PriceWindow.IsCurrent (now : Timestamp) (w : PriceWindow) : Prop :=
  (∀ t ∈ w.startsAt, t ≤ now) ∧ ∀ t ∈ w.endsAt, now ≤ t

instance (now : Timestamp) (w : PriceWindow) : Decidable (w.IsCurrent now) :=
  inferInstanceAs (Decidable (_ ∧ _))

/-- `order by starts_at desc nulls last, event_ticket_price_window_id`. -/
def PriceWindow.before (w w' : PriceWindow) : Bool :=
  match w.startsAt, w'.startsAt with
  | some t, some t' =>
    decide (t' < t ∨ (t = t' ∧ w.eventTicketPriceWindowId < w'.eventTicketPriceWindowId))
  | some _, none => true
  | none, some _ => false
  | none, none => decide (w.eventTicketPriceWindowId < w'.eventTicketPriceWindowId)

/-- The amount of the current price window of a tier. -/
def TicketType.currentPrice (now : Timestamp) (ett : TicketType) : Option ℤ :=
  (firstBy PriceWindow.before (ett.priceWindows.filter fun w ↦ w.IsCurrent now)).map
    (·.amountMinor)

/-- An active tier that has a current price window. -/
def TicketType.IsSellable (now : Timestamp) (ett : TicketType) : Prop :=
  ett.active = true ∧ ∃ w ∈ ett.priceWindows, w.IsCurrent now

instance (now : Timestamp) (ett : TicketType) : Decidable (ett.IsSellable now) :=
  inferInstanceAs (Decidable (_ ∧ _))

/-- `is_event_simple_rsvp`: exactly one priced public tier, and it is free. -/
def isEventSimpleRsvp (now : Timestamp) (s : Enrollment) : Prop :=
  let prices := (s.ticketTypes.filter fun ett ↦
    ett.active = true ∧ ett.availability = .publicTier).filterMap (·.currentPrice now)
  prices.length = 1 ∧ ∀ amount ∈ prices, amount = 0

instance (now : Timestamp) (s : Enrollment) : Decidable (isEventSimpleRsvp now s) :=
  inferInstanceAs (Decidable (_ ∧ _))

/-! ## Seats -/

/-- `coalesce(admission_offer_id, event_purchase_id)`: what a purchase holds its seat through. -/
def Purchase.seatKey (ep : Purchase) : Uuid := ep.admissionOfferId.getD ep.eventPurchaseId

/-- The purchase is linked to an offer that reserves a seat now. -/
def Enrollment.HasReservingOffer (s : Enrollment) (now : Timestamp) (ep : Purchase) : Prop :=
  ∃ ao ∈ s.admissionOffers, some ao.admissionOfferId = ep.admissionOfferId ∧ ao.IsReserving now

instance (s : Enrollment) (now : Timestamp) (ep : Purchase) :
    Decidable (s.HasReservingOffer now ep) :=
  inferInstanceAs (Decidable (∃ ao ∈ s.admissionOffers, _))

/-- `get_event_ticket_type_allocated_seat_count`. -/
def allocatedSeatCount (now : Timestamp) (tier : Uuid) (s : Enrollment) : ℕ :=
  (s.admissionOffers.countP fun ao ↦ ao.eventTicketTypeId = tier ∧ ao.IsReserving now)
    + (((s.purchases.filter fun ep ↦ ep.eventTicketTypeId = tier
        ∧ (ep.status.IsSeated ∨ ep.HasLiveHold now)
        ∧ ¬ s.HasReservingOffer now ep).map Purchase.seatKey).dedup).length

end Ocg
