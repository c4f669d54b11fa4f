import Ocg.Ticketing.TicketTypes
import Ocg.System

/-!
# The seat check of an edit

`get_event_ticket_type_allocated_seat_count` leaves out offers that have reached their deadline. The
check of `sync_event_ticket_types` subtracts the stale ones of them again. So a tier with a stale
offer may be stored with fewer seats than are allocated, and a tier without one may not.
-/

namespace Ocg

open Relational

variable {now : Timestamp} {other : OtherEvents} {payload : List TicketTypePayload}
  {s s' : Enrollment}

/-! ## What the loop leaves alone -/

/-- A state that differs in its tiers only. -/
structure SameReservations (s t : Enrollment) : Prop where
  admissionOffers : t.admissionOffers = s.admissionOffers
  purchases : t.purchases = s.purchases

theorem SameReservations.trans {t u : Enrollment} (h : SameReservations s t)
    (h' : SameReservations t u) : SameReservations s u :=
  ⟨h'.admissionOffers.trans h.admissionOffers, h'.purchases.trans h.purchases⟩

theorem SameReservations.allocated_eq (h : SameReservations s s') (tier : Uuid) :
    allocatedSeatCount now tier s' = allocatedSeatCount now tier s := by
  have hreserving : ∀ ep, s'.HasReservingOffer now ep ↔ s.HasReservingOffer now ep := fun ep ↦ by
    rw [Enrollment.HasReservingOffer, Enrollment.HasReservingOffer, h.admissionOffers]
  simp only [allocatedSeatCount, h.admissionOffers, h.purchases, hreserving]

theorem SameReservations.inUse_eq (h : SameReservations s s') (tier : Uuid) :
    seatsInUse now tier s' = seatsInUse now tier s := by
  rw [seatsInUse, seatsInUse, h.allocated_eq, staleOfferCount, staleOfferCount, h.admissionOffers,
    h.purchases]

theorem putTicketType_same (new : TicketType) (s : Enrollment) :
    SameReservations s (putTicketType new s) := by
  unfold putTicketType
  split
  · exact ⟨rfl, rfl⟩
  · exact ⟨rfl, rfl⟩

/-! ## What the loop stores -/

theorem mem_putTicketType {new ett : TicketType} : ett ∈ (putTicketType new s).ticketTypes
    ↔ ett = new ∨ (ett ∈ s.ticketTypes ∧ ett.eventTicketTypeId ≠ new.eventTicketTypeId) := by
  unfold putTicketType
  split
  · next hstored =>
    obtain ⟨old, hold, hid⟩ := hstored
    exact mem_replaceRow_iff hold hid
  · next hstored =>
    rw [List.mem_orderedInsert]
    refine or_congr_right ⟨fun hett ↦ ⟨hett, fun hid ↦ hstored ⟨ett, hett, hid⟩⟩, And.left⟩

/-- The tier is stored, and its seat total has the property. -/
def Enrollment.Stores (s : Enrollment) (tier : Uuid) (P : ℤ → Prop) : Prop :=
  (∃ ett ∈ s.ticketTypes, ett.eventTicketTypeId = tier)
    ∧ ∀ ett ∈ s.ticketTypes, ett.eventTicketTypeId = tier → P ett.seatsTotal

theorem Enrollment.Stores.mono {tier : Uuid} {P Q : ℤ → Prop} (h : s.Stores tier P)
    (hPQ : ∀ seats : ℕ, P seats → Q seats) : s.Stores tier Q :=
  ⟨h.1, fun ett hett hid ↦ hPQ _ (h.2 ett hett hid)⟩

theorem Enrollment.Stores.put {new : TicketType} {tier : Uuid} {P : ℤ → Prop}
    (h : if new.eventTicketTypeId = tier then P new.seatsTotal else s.Stores tier P) :
    (putTicketType new s).Stores tier P := by
  -- writing a tier stores its seats, and keeps those of the other tiers
  by_cases hid : new.eventTicketTypeId = tier
  · rw [if_pos hid] at h
    refine ⟨⟨new, mem_putTicketType.2 (.inl rfl), hid⟩, fun ett hett htier ↦ ?_⟩
    obtain rfl | ⟨-, hother⟩ := mem_putTicketType.1 hett
    · exact h
    · exact absurd (htier.trans hid.symm) hother
  · rw [if_neg hid] at h
    obtain ⟨⟨old, hold, htier⟩, hall⟩ := h
    refine ⟨⟨old, mem_putTicketType.2 (.inr ⟨hold, fun h ↦ hid (h.symm.trans htier)⟩), htier⟩,
      fun ett hett htier ↦ ?_⟩
    obtain rfl | ⟨hett, -⟩ := mem_putTicketType.1 hett
    · exact absurd htier hid
    · exact hall ett hett htier

theorem syncPriceWindows_stores {p : TicketTypePayload} {tier : Uuid} {P : ℤ → Prop}
    (hs : s.Stores tier P) (h : syncPriceWindows p s = .ok s') :
    SameReservations s s' ∧ s'.Stores tier P := by
  unfold syncPriceWindows at h
  simp only [bind_eq_ok, require_eq_ok] at h
  obtain ⟨-, -, h⟩ := h
  split at h
  · obtain rfl := Except.ok.inj h
    exact ⟨⟨rfl, rfl⟩, hs⟩
  · next stored hfind =>
    simp only [bind_eq_ok, Except.ok.injEq] at h
    obtain ⟨windows, -, rfl⟩ := h
    refine ⟨putTicketType_same _ _, .put ?_⟩
    split
    · next hid => exact hs.2 stored (List.mem_of_find?_eq_some hfind) hid
    · exact hs

/-- **One iteration** stores the seats of its payload, which cover those in use, and keeps the seats
of the other tiers. -/
theorem syncTicketType_stores {p : TicketTypePayload} {tier : Uuid} {P : ℤ → Prop}
    (hp : p.eventTicketTypeId = tier → seatsInUse now tier s ≤ p.seats → P p.seats)
    (hs : p.eventTicketTypeId ≠ tier → s.Stores tier P) (h : syncTicketType now s p = .ok s') :
    SameReservations s s' ∧ s'.Stores tier P := by
  unfold syncTicketType checkSeatsTotal writeTicketType upsertTicketType at h
  simp only [bind_eq_ok, require_eq_ok, Except.ok.injEq] at h
  obtain ⟨-, hseats, -, -, t, ⟨-, hnonneg, -, -, rfl⟩, h⟩ := h
  have hput : (putTicketType (p.row (s.ticketTypes.find? fun ett ↦
      ett.eventTicketTypeId = p.eventTicketTypeId)) s).Stores tier P := by
    refine .put ?_
    split
    · next hid =>
      have hid : p.eventTicketTypeId = tier := hid
      have htotal : ((p.seats.toNat : ℕ) : ℤ) = p.seats := Int.toNat_of_nonneg hnonneg
      exact htotal ▸ hp hid (hid ▸ hseats)
    · next hid => exact hs hid
  obtain ⟨hsame, hstores⟩ := syncPriceWindows_stores hput h
  exact ⟨(putTicketType_same _ s).trans hsame, hstores⟩

theorem syncTicketType_same {p : TicketTypePayload} (h : syncTicketType now s p = .ok s') :
    SameReservations s s' :=
  (syncTicketType_stores (P := fun _ ↦ True) (fun _ _ ↦ trivial)
    (fun hother : p.eventTicketTypeId ≠ p.eventTicketTypeId ↦ absurd rfl hother) h).1

/-- **The loop** stores seats that its payload lists for the tier, and that cover those in use
before it. -/
theorem syncEventTicketTypes_stores {tier : Uuid} {P : ℤ → Prop}
    (hlisted : IsListed payload tier) (hP : ∀ p ∈ payload, p.eventTicketTypeId = tier →
      seatsInUse now tier s ≤ p.seats → P p.seats)
    (h : syncEventTicketTypes now other payload s = .ok s') :
    SameReservations s s' ∧ s'.Stores tier P := by
  unfold syncEventTicketTypes at h
  obtain ⟨-, -, h⟩ := bind_eq_ok.1 h
  -- either the tier is still to come, or it is stored
  have hfinal := foldlM_suffix (P := fun rest t ↦ SameReservations s t
    ∧ (∀ p ∈ rest, p ∈ payload) ∧ (IsListed rest tier ∨ t.Stores tier P)) ?_
    (s := pruneTicketTypes payload s) ⟨⟨rfl, rfl⟩, fun _ ↦ id, .inl hlisted⟩ h
  · obtain ⟨hsame, -, hstored⟩ := hfinal
    exact ⟨hsame, hstored.resolve_left fun ⟨_, hp, _⟩ ↦ absurd hp List.not_mem_nil⟩
  rintro p rest t t' ⟨hsame, hsub, hstored⟩ hstep
  have hp : p.eventTicketTypeId = tier → seatsInUse now tier t ≤ p.seats → P p.seats := fun hid ↦
    hsame.inUse_eq tier ▸ hP p (hsub p List.mem_cons_self) hid
  refine ⟨?_, fun q hq ↦ hsub q (List.mem_cons_of_mem p hq), ?_⟩
  · exact hsame.trans (syncTicketType_same hstep)
  · by_cases hrest : IsListed rest tier
    · exact .inl hrest
    · refine .inr (syncTicketType_stores hp (fun hother ↦ hstored.resolve_left ?_) hstep).2
      rintro ⟨q, hq, hid⟩
      obtain rfl | hq := List.mem_cons.1 hq
      · exact hother hid
      · exact hrest ⟨q, hq, hid⟩

/-! ## Seats that cover what is allocated -/

/-- The stored seat total of the tier covers its allocated seats. -/
def Enrollment.Covers (s : Enrollment) (now : Timestamp) (tier : Uuid) : Prop :=
  s.Stores tier fun seats ↦ (allocatedSeatCount now tier s : ℤ) ≤ seats

/-- What lists every tier with as many seats as are allocated, but one tier with a seat less. -/
def cutPayload (now : Timestamp) (tier : Uuid) (s : Enrollment) : List TicketTypePayload :=
  (tier :: s.ticketTypes.map (·.eventTicketTypeId)).map fun id ↦
    { eventTicketTypeId := id
      active := some true
      availability := some (some .publicTier)
      order := none
      priceWindows := []
      seatsTotal := some (if id = tier then allocatedSeatCount now tier s - 1
        else allocatedSeatCount now id s)
      title := some "General" }

/-- A payload of public tiers without price windows is only refused for its seats. -/
theorem syncTicketType_ok {p : TicketTypePayload} (hactive : p.active = some true)
    (hpublic : p.availability = some (some .publicTier)) (hwindows : p.priceWindows = [])
    (htitle : p.title = some "General") (hnonneg : 0 ≤ p.seats)
    (hseats : seatsInUse now p.eventTicketTypeId s ≤ p.seats) :
    ∃ s', syncTicketType now s p = .ok s' := by
  have huse : checkTicketTypeUse now p s = .ok () := by
    have hshown : ¬ p.IsHidden s := by simp [TicketTypePayload.IsHidden, hactive, hpublic]
    exact bind_eq_ok.2 ⟨(), require_eq_ok.2 (by simp [hactive]),
      require_eq_ok.2 fun h ↦ hshown h.1⟩
  have hname : btrim (p.title.getD "") ≠ "" := by
    rw [htitle]
    decide
  have hsync (t : Enrollment) : ∃ t', syncPriceWindows p t = .ok t' := by
    unfold syncPriceWindows
    cases hfind : t.ticketTypes.find? fun ett ↦ ett.eventTicketTypeId = p.eventTicketTypeId with
    | none => exact ⟨t, bind_eq_ok.2 ⟨(), require_eq_ok.2 (by simp [hwindows]), rfl⟩⟩
    | some ett =>
      exact ⟨_, bind_eq_ok.2 ⟨(), require_eq_ok.2 (by simp [hwindows]),
        bind_eq_ok.2 ⟨_, by rw [hwindows]; rfl, rfl⟩⟩⟩
  obtain ⟨t', ht'⟩ := hsync (putTicketType (p.row (s.ticketTypes.find? fun ett ↦
    ett.eventTicketTypeId = p.eventTicketTypeId)) s)
  refine ⟨t', ?_⟩
  simp only [syncTicketType, checkSeatsTotal, writeTicketType, upsertTicketType, bind_eq_ok,
    require_eq_ok, Except.ok.injEq]
  exact ⟨(), hseats, (), huse, _, ⟨(), hnonneg, (), hname, rfl⟩, ht'⟩

/-- A stale offer lets the edit take an allocated seat. -/
theorem exists_syncEventTicketTypes_cut {tier : Uuid} (hstale : staleOfferCount now tier s ≠ 0)
    (hallocated : allocatedSeatCount now tier s ≠ 0) :
    ∃ s', syncEventTicketTypes now ⟨[], []⟩ (cutPayload now tier s) s = .ok s' := by
  have hlisted : ∀ ett ∈ s.ticketTypes,
      IsListed (cutPayload now tier s) ett.eventTicketTypeId := fun ett hett ↦
    ⟨_, List.mem_map_of_mem (List.mem_cons_of_mem _ (List.mem_map_of_mem hett)), rfl⟩
  have hcheck : checkTicketTypes ⟨[], []⟩ (cutPayload now tier s) s = .ok () := by
    simp only [checkTicketTypes, requireUnreferenced, bind_eq_ok, require_eq_ok]
    exact ⟨(), by simp [cutPayload], (), by simp, (), by simp, (),
      fun ett hett _ ↦ hlisted ett hett,
      (), fun ett hett _ ↦ hlisted ett hett, (), fun ett hett _ ↦ hlisted ett hett,
      fun ett hett _ ↦ hlisted ett hett⟩
  have hloop := foldlM_ok (f := syncTicketType now)
    (P := fun rest t ↦ SameReservations s t ∧ ∀ p ∈ rest, p ∈ cutPayload now tier s) ?_
    (s := pruneTicketTypes (cutPayload now tier s) s) ⟨⟨rfl, rfl⟩, fun _ ↦ id⟩
  · obtain ⟨s', hs', -⟩ := hloop
    exact ⟨s', bind_eq_ok.2 ⟨(), hcheck, hs'⟩⟩
  rintro p rest t ⟨hsame, hsub⟩
  obtain ⟨id, -, hp⟩ := List.mem_map.1 (hsub p List.mem_cons_self)
  have hseats : seatsInUse now p.eventTicketTypeId t ≤ p.seats ∧ 0 ≤ p.seats := by
    rw [hsame.inUse_eq, seatsInUse, ← hp]
    by_cases hid : id = tier
    · subst hid
      simp only [TicketTypePayload.seats, if_true, Option.getD_some]
      omega
    · simp only [TicketTypePayload.seats, if_neg hid, Option.getD_some]
      omega
  obtain ⟨t', ht'⟩ := syncTicketType_ok (by rw [← hp]) (by rw [← hp]) (by rw [← hp]) (by rw [← hp])
    hseats.2 hseats.1
  exact ⟨t', ht', hsame.trans (syncTicketType_same ht'),
    fun q hq ↦ hsub q (List.mem_cons_of_mem p hq)⟩

/-- **The seat check.** Whatever is edited, a tier of the payload is stored with a seat total that
covers its allocated seats, exactly if the tier has no stale offer, or no allocated seat. -/
theorem allocated_le_seats_iff (now : Timestamp) (s : Enrollment) (tier : Uuid) :
    (∀ other payload s', syncEventTicketTypes now other payload s = .ok s' →
      IsListed payload tier → s'.Covers now tier)
    ↔ staleOfferCount now tier s = 0 ∨ allocatedSeatCount now tier s = 0 := by
  constructor
  · intro h
    by_contra hcond
    obtain ⟨hstale, hallocated⟩ := not_or.1 hcond
    obtain ⟨s', hs'⟩ := exists_syncEventTicketTypes_cut hstale hallocated
    have hlisted : IsListed (cutPayload now tier s) tier := ⟨_, List.mem_map_of_mem
      List.mem_cons_self, rfl⟩
    obtain ⟨hsame, ⟨ett, hett, hid⟩, hcut⟩ := syncEventTicketTypes_stores hlisted
      (P := (· = (allocatedSeatCount now tier s : ℤ) - 1)) (fun p hp hid _ ↦ by
        obtain ⟨id, -, rfl⟩ := List.mem_map.1 hp
        obtain rfl : id = tier := hid
        simp [TicketTypePayload.seats]) hs'
    have hcovers := (h _ _ s' hs' hlisted).2 ett hett hid
    rw [hcut ett hett hid, hsame.allocated_eq] at hcovers
    omega
  · intro hcond other payload s' hsync hlisted
    obtain ⟨hsame, hstores⟩ := syncEventTicketTypes_stores hlisted
      (P := (seatsInUse now tier s ≤ ·)) (fun _ _ _ ↦ id) hsync
    refine hstores.mono fun seats hseats ↦ ?_
    rw [hsame.allocated_eq]
    unfold seatsInUse at hseats
    omega

/-- One offer that ran out but was not swept, and one that reserves a seat. -/
def sampleStale : Enrollment :=
  { (Database.sample 2 []).toEnrollment with
    admissionOffers := [newOffer 1 0 1 7 (hours 1) .organizerInvitation none,
      newOffer 2 0 1 8 (hours 24) .organizerInvitation none]
    nextUuid := 3 }

/-- The tier of the sample without seats. -/
def sampleSeatless : List TicketTypePayload :=
  [⟨1, some true, some (some .publicTier), some 1, [⟨1, some 1000, none, none⟩], some 0,
    some "General"⟩]

/-- An edit takes the last seat from under the live offer. -/
theorem not_allocated_le_seats : ¬ ∀ (now : Timestamp) (other : OtherEvents)
    (payload : List TicketTypePayload) (s s' : Enrollment),
    syncEventTicketTypes now other payload s = .ok s' → ∀ p ∈ payload,
      s'.Covers now p.eventTicketTypeId := by
  intro hclaim
  have hedit : Ensures (syncEventTicketTypes (hours 2) ⟨[], []⟩ sampleSeatless sampleStale)
      (fun s' ↦ allocatedSeatCount (hours 2) 1 s' = 1
        ∧ ∃ ett ∈ s'.ticketTypes, ett.eventTicketTypeId = 1 ∧ ett.seatsTotal = 0)
      fun _ ↦ False := by
    decide +kernel
  obtain ⟨s', hs', hallocated, ett, hett, hid, hseats⟩ := hedit.exists_ok
  have hle := (hclaim (hours 2) ⟨[], []⟩ sampleSeatless sampleStale s' hs' _ List.mem_cons_self).2
    ett hett hid
  rw [show allocatedSeatCount (hours 2) _ s' = 1 from hallocated, hseats] at hle
  exact absurd hle (by decide)

end Ocg
