import Mathlib.Data.List.Sort
import Ocg.Enrollment.Reconcile

/-!
# Ticket types of an edited event

`sync_event_ticket_types` prunes the tiers that a payload omits and writes the others with their
price windows. The identifiers that belong to tiers and price windows of other events come in as a
parameter, since a payload may not claim them.
-/

namespace Ocg

open Relational

/-! ## Payloads -/

structure PriceWindowPayload where
  eventTicketPriceWindowId : Uuid
  amountMinor : Option ℤ
  endsAt : Option Timestamp
  startsAt : Option Timestamp
  deriving DecidableEq, Repr

/-- A tier of a payload. `availability` is none when the key is missing, and `some none` when it is
null. -/
structure TicketTypePayload where
  eventTicketTypeId : Uuid
  active : Option Bool
  availability : Option (Option TicketAvailability)
  order : Option ℤ
  priceWindows : List PriceWindowPayload
  seatsTotal : Option ℤ
  title : Option String
  deriving DecidableEq, Repr

/-- The tiers and price windows of all other events. -/
structure OtherEvents where
  priceWindowIds : List Uuid
  ticketTypeIds : List Uuid
  deriving DecidableEq, Repr

variable (now : Timestamp)

/-! ## Pruning -/

/-- The payload has the tier. -/
def IsListed (payload : List TicketTypePayload) (id : Uuid) : Prop :=
  ∃ p ∈ payload, p.eventTicketTypeId = id

instance decidableIsListed (payload : List TicketTypePayload) (id : Uuid) :
    Decidable (IsListed payload id) :=
  inferInstanceAs (Decidable (∃ p ∈ payload, _))

/-- A guard of the pruning: no omitted tier is among the referenced ones. -/
def requireUnreferenced (payload : List TicketTypePayload) (s : Enrollment) (referenced : List Uuid)
    (what : String) : Except DbError Unit :=
  require (∀ ett ∈ s.ticketTypes, ett.eventTicketTypeId ∈ referenced →
      IsListed payload ett.eventTicketTypeId)
    (.raised ("ticket types with " ++ what ++ " cannot be removed; deactivate them instead"))

/-- The checks before the pruning. -/
def checkTicketTypes (other : OtherEvents) (payload : List TicketTypePayload) (s : Enrollment) :
    Except DbError Unit := do
  require (payload ≠ []) (.raised "events require at least one ticket type")
  require (∀ p ∈ payload, p.eventTicketTypeId ∉ other.ticketTypeIds)
    (.raised "ticket type does not belong to event")
  require (∀ p ∈ payload, ∀ w ∈ p.priceWindows, w.eventTicketPriceWindowId ∉ other.priceWindowIds)
    (.raised "ticket price window does not belong to event")
  requireUnreferenced payload s (s.admissionOffers.map (·.eventTicketTypeId)) "admission offers"
  requireUnreferenced payload s (s.invitationRequests.filterMap (·.eventTicketTypeId))
    "invitation requests"
  requireUnreferenced payload s (s.purchases.map (·.eventTicketTypeId)) "purchases"
  requireUnreferenced payload s (s.waitlist.map (·.eventTicketTypeId)) "waitlist entries"

/-- Prune omitted ticket types after integrity checks. -/
def pruneTicketTypes (payload : List TicketTypePayload) (s : Enrollment) : Enrollment :=
  { s with ticketTypes := s.ticketTypes.filter fun ett ↦ IsListed payload ett.eventTicketTypeId }

/-! ## Seats -/

/-- `coalesce(seats_total, 0)`. -/
def TicketTypePayload.seats (p : TicketTypePayload) : ℤ := p.seatsTotal.getD 0

/-- The stale reservations of a tier that reconciliation is due to sweep: active offers past their
deadline without a seated purchase. -/
def staleOfferCount (tier : Uuid) (s : Enrollment) : ℕ :=
  s.admissionOffers.countP fun ao ↦ ao.eventTicketTypeId = tier ∧ ao.IsDue now
    ∧ ¬ ∃ ep ∈ s.purchases, ep.admissionOfferId = some ao.admissionOfferId ∧ ep.status.IsSeated

/-- What the seat total of a tier is compared with. -/
def seatsInUse (tier : Uuid) (s : Enrollment) : ℤ :=
  (allocatedSeatCount now tier s : ℤ) - staleOfferCount now tier s

/-- Reject seat totals that would undershoot allocated inventory, ignoring stale reservations. -/
def checkSeatsTotal (p : TicketTypePayload) (s : Enrollment) : Except DbError Unit :=
  let inUse := seatsInUse now p.eventTicketTypeId s
  require (inUse ≤ p.seats) (.raised ("ticket type seats_total (" ++ toString p.seats
    ++ ") cannot be less than current allocated seats (" ++ toString inUse ++ ")"))

/-! ## Writing a tier -/

/-- The tier would not be active and public any more. -/
def TicketTypePayload.IsHidden (p : TicketTypePayload) (s : Enrollment) : Prop :=
  let stored := (s.ticketTypes.find? fun ett ↦ ett.eventTicketTypeId = p.eventTicketTypeId).map
    (·.availability)
  p.active.getD true = false ∨ (p.availability.join.or stored).getD .publicTier ≠ .publicTier

instance TicketTypePayload.decidableIsHidden (p : TicketTypePayload) (s : Enrollment) :
    Decidable (p.IsHidden s) :=
  inferInstanceAs (Decidable (_ ∨ _))

/-- The checks of a tier against offers and queues. -/
def checkTicketTypeUse (p : TicketTypePayload) (s : Enrollment) : Except DbError Unit := do
  require (¬ (p.active.getD true = false ∧ ∃ ao ∈ s.admissionOffers,
      ao.eventTicketTypeId = p.eventTicketTypeId ∧ ao.IsReserving now))
    (.raised "ticket types with active offers cannot be deactivated")
  require (¬ (p.IsHidden s
      ∧ ((∃ ew ∈ s.waitlist, ew.eventTicketTypeId = p.eventTicketTypeId)
        ∨ ∃ eir ∈ s.invitationRequests, eir.eventTicketTypeId = some p.eventTicketTypeId
          ∧ eir.status = .pending)))
    (.raised "ticket types with queued or pending requests must remain active and public")

/-- The row that the upsert leaves, with the price windows that were there before. -/
def TicketTypePayload.row (p : TicketTypePayload) (stored : Option TicketType) : TicketType where
  eventTicketTypeId := p.eventTicketTypeId
  active := p.active.getD true
  availability := match p.availability, stored with
    | none, some ett => ett.availability
    | availability, _ => availability.join.getD .publicTier
  order := p.order.getD 1
  priceWindows := (stored.map (·.priceWindows)).getD []
  seatsTotal := p.seats.toNat
  title := p.title.getD ""

/-- Writes a tier over the one with its identifier, if there is one. -/
def putTicketType (new : TicketType) (s : Enrollment) : Enrollment :=
  if ∃ ett ∈ s.ticketTypes, ett.eventTicketTypeId = new.eventTicketTypeId then
    { s with ticketTypes := replaceRow TicketType.eventTicketTypeId new s.ticketTypes }
  else { s with
    ticketTypes := s.ticketTypes.orderedInsert
      (fun ett ett' ↦ ett.eventTicketTypeId ≤ ett'.eventTicketTypeId) new }

/-- Upsert the ticket type row with normalized defaults. -/
def upsertTicketType (p : TicketTypePayload) (s : Enrollment) : Except DbError Enrollment := do
  require (0 ≤ p.seats) (.violated "event_ticket_type_seats_total_check")
  require (btrim (p.title.getD "") ≠ "") (.violated "event_ticket_type_title_check")
  let stored := s.ticketTypes.find? fun ett ↦ ett.eventTicketTypeId = p.eventTicketTypeId
  .ok (putTicketType (p.row stored) s)

/-- The upsert of one price window of a tier. -/
def upsertPriceWindow (windows : List PriceWindow) (w : PriceWindowPayload) :
    Except DbError (List PriceWindow) :=
  match w.amountMinor with
  | none => .error (.violated "amount_minor")
  | some amountMinor => do
    require (0 ≤ amountMinor) (.violated "event_ticket_price_window_amount_minor_check")
    require (∀ ends ∈ w.endsAt, ∀ starts ∈ w.startsAt, starts ≤ ends)
      (.violated "event_ticket_price_window_window_chk")
    let new : PriceWindow := ⟨w.eventTicketPriceWindowId, amountMinor, w.endsAt, w.startsAt⟩
    if ∃ stored ∈ windows, stored.eventTicketPriceWindowId = w.eventTicketPriceWindowId then
      .ok (replaceRow PriceWindow.eventTicketPriceWindowId new windows)
    else .ok (windows ++ [new])

/-- Prunes and upserts the price windows of a tier. -/
def syncPriceWindows (p : TicketTypePayload) (s : Enrollment) : Except DbError Enrollment := do
  let ids := p.priceWindows.map (·.eventTicketPriceWindowId)
  require (∀ ett ∈ s.ticketTypes, ett.eventTicketTypeId ≠ p.eventTicketTypeId →
      ∀ w ∈ ett.priceWindows, w.eventTicketPriceWindowId ∉ ids)
    (.raised "ticket price window does not belong to ticket type")
  match s.ticketTypes.find? fun ett ↦ ett.eventTicketTypeId = p.eventTicketTypeId with
  | none => .ok s
  | some ett => do
    let kept := ett.priceWindows.filter fun w ↦ w.eventTicketPriceWindowId ∈ ids
    let windows ← p.priceWindows.foldlM upsertPriceWindow kept
    .ok (putTicketType { ett with priceWindows := windows } s)

/-- One iteration after its seat check. -/
def writeTicketType (s : Enrollment) (p : TicketTypePayload) : Except DbError Enrollment := do
  checkTicketTypeUse now p s
  let s ← upsertTicketType p s
  syncPriceWindows p s

/-- One iteration of the loop over the payload. -/
def syncTicketType (s : Enrollment) (p : TicketTypePayload) : Except DbError Enrollment := do
  checkSeatsTotal now p s
  writeTicketType now s p

/-- `sync_event_ticket_types`. -/
def syncEventTicketTypes (other : OtherEvents) (payload : List TicketTypePayload) (s : Enrollment) :
    Except DbError Enrollment := do
  checkTicketTypes other payload s
  payload.foldlM (syncTicketType now) (pruneTicketTypes payload s)

end Ocg
