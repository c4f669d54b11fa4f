import Ocg.System
import Ocg.Transition.Offers

/-!
# The price of an offer

Between the operations of a history the organizer may edit the event, its tiers with their price
windows, and its discount codes as she likes. An offer still moves along its lifecycle, and every
purchase that ever claims it pays the price of its first claim.
-/

namespace Ocg

open Relational

/-- A step of a history with an editing organizer: an operation, or a new catalogue under the
enrollment rows that exist. -/
inductive OrganizedStep : Timestamp → Database → Database → Prop
  | operation {now : Timestamp} {db db' : Database} (h : Step now db db') : OrganizedStep now db db'
  | edit {now : Timestamp} {db : Database} (event : Event) (group : Group)
    (ticketTypes : List TicketType) (discountCodes : List DiscountCode) (users : List User) :
    OrganizedStep now db
      { db with
        event := event
        group := group
        ticketTypes := ticketTypes
        discountCodes := discountCodes
        users := users }

/-- The states of the event under an editing organizer, in any order of start times. -/
def Database.ReachedOrganized (now : Timestamp) (db : Database) : Prop :=
  Reachable OrganizedStep AnyOrder Database.Fresh now db

/-- What such a history goes on to from a state. -/
def Database.OrganizedFrom (db₀ : Database) (now : Timestamp) (db : Database) : Prop :=
  Reachable OrganizedStep AnyOrder (· = db₀) now db

/-- What the price of an offer rests on. -/
structure Database.Priced (db : Database) : Prop where
  wellFormed : db.toEnrollment.WellFormed
  refunds : db.RefundsConsistent
  prices : db.SnapshotsPriced

variable {now : Timestamp} {db db' : Database}

theorem Enrollment.WellFormed.edit {s : Enrollment} (h : s.WellFormed) (event : Event)
    (group : Group) (ticketTypes : List TicketType) (discountCodes : List DiscountCode) :
    ({ s with
      event := event
      group := group
      ticketTypes := ticketTypes
      discountCodes := discountCodes } : Enrollment).WellFormed :=
  { h with
    purchaseAccepted := fun ep hep ↦ (h.purchaseAccepted ep hep).congr rfl
    offerNoRival := h.offerNoRival }

theorem Move.priced {mode : MoveMode} (hmove : Move mode now db db') (h : db.Priced) :
    db'.Priced := by
  refine ⟨hmove.wellFormed mode h.wellFormed,
    hmove.refundsConsistent h.wellFormed h.refunds, ?_⟩
  rcases hmove.enrollmentMove with hsame | ⟨effect, hmove⟩
  · exact hsame ▸ h.prices
  · exact hmove.snapshotsPriced h.wellFormed h.prices

theorem Move.offer_stays {mode : MoveMode} (hmove : Move mode now db db') (h : db.Priced)
    {ao : AdmissionOffer} (hao : ao ∈ db.admissionOffers) :
    ∃ new ∈ db'.admissionOffers, new.Succeeds mode ao := by
  rcases hmove.enrollmentMove with hsame | ⟨effect, hmove⟩
  · exact ⟨ao, hsame ▸ hao, .refl ao⟩
  · exact hmove.offer_stays h.wellFormed hao

/-- A run that does not both claim and complete changes the status of an offer at most once. -/
theorem PartitionMoves.offer_stays {mode : MoveMode} (hmode : ¬ mode.claims ∨ ¬ mode.completes)
    (hmoves : PartitionMoves mode now db db') (h : db.Priced) :
    db'.Priced ∧ ∀ ao ∈ db.admissionOffers, ∃ new ∈ db'.admissionOffers, new.Succeeds mode ao := by
  refine preserved_of_reflTransGen (P := fun u ↦ u.Priced ∧ ∀ ao ∈ db.admissionOffers,
    ∃ new ∈ u.admissionOffers, new.Succeeds mode ao) hmoves ⟨h, fun ao hao ↦ ⟨ao, hao, .refl ao⟩⟩ ?_
  rintro u v ⟨hu, hkept⟩ hmove
  refine ⟨hmove.priced hu, fun ao hao ↦ ?_⟩
  obtain ⟨mid, hmid, hmid_succeeds⟩ := hkept ao hao
  obtain ⟨new, hnew, hsucceeds⟩ := hmove.offer_stays hu hmid
  exact ⟨new, hnew, hmid_succeeds.trans hmode hsucceeds⟩

/-- What one transaction makes of an offer: its price stays once it is set, and its status changes
at most once. -/
structure AdmissionOffer.StepsTo (ao new : AdmissionOffer) : Prop where
  id : new.admissionOfferId = ao.admissionOfferId
  snapshot : ao.snapshot = none ∨ new.snapshot = ao.snapshot
  status : new.status = ao.status ∨ OfferStatus.Step ao.status new.status

theorem OrganizedStep.keeps (hstep : OrganizedStep now db db') (h : db.Priced) :
    db'.Priced ∧ ∀ ao ∈ db.admissionOffers, ∃ new ∈ db'.admissionOffers, ao.StepsTo new := by
  cases hstep with
  | operation hstep =>
    obtain ⟨env, op, hrun⟩ := hstep
    -- no operation both claims and completes
    obtain ⟨hpriced, hstays⟩ := (op.moves ⟨False, op.Claims, op.Completes⟩ h.wellFormed h.refunds
      False.elim id id hrun).offer_stays op.not_claims_or_not_completes h
    refine ⟨hpriced, fun ao hao ↦ ?_⟩
    obtain ⟨new, hnew, hsucceeds⟩ := hstays ao hao
    exact ⟨new, hnew, hsucceeds.id, hsucceeds.snapshot, hsucceeds.status.step⟩
  | edit event group ticketTypes discountCodes users =>
    refine ⟨⟨h.wellFormed.edit event group ticketTypes discountCodes, ?_, h.prices⟩,
      fun ao hao ↦ ⟨ao, hao, rfl, .inr rfl, .inl rfl⟩⟩
    exact { h.refunds with }

theorem Database.ReachedOrganized.priced (h : db.ReachedOrganized now) : db.Priced := by
  refine Reachable.stable h (fun db hfresh ↦ ?_) fun _ _ _ hdb hstep ↦ (hstep.keeps hdb).1
  refine ⟨hfresh.consistent.wellFormed, hfresh.consistent.refunds, ?_⟩
  simp [Enrollment.SnapshotsPriced, hfresh.purchases]

/-- **Admission offer lifecycle.** Every purchase of an offer carries the price of its snapshot.
Each transaction from a reached state on leaves the status of an offer or makes one change of its
lifecycle. And however the history goes on, a terminal status and a price once set stay. -/
theorem admission_offer_lifecycle (h : db.ReachedOrganized now) :
    (∀ ep ∈ db.purchases, ∀ ao ∈ db.admissionOffers,
        ep.admissionOfferId = some ao.admissionOfferId →
        ∃ snapshot ∈ ao.snapshot, snapshot.Prices ep)
      ∧ (∀ later db', OrganizedStep later db db' → ∀ ao ∈ db.admissionOffers,
        ∃ new ∈ db'.admissionOffers, new.admissionOfferId = ao.admissionOfferId
          ∧ (new.status = ao.status ∨ OfferStatus.Step ao.status new.status))
      ∧ ∀ later db', db.OrganizedFrom later db' → ∀ ao ∈ db.admissionOffers,
        ∃ new ∈ db'.admissionOffers, new.admissionOfferId = ao.admissionOfferId
          ∧ (ao.status.IsTerminal → new.status = ao.status)
          ∧ ∀ snapshot ∈ ao.snapshot, new.snapshot = some snapshot := by
  refine ⟨h.priced.prices, fun later db' hstep ao hao ↦ ?_, fun later db' hlater ao hao ↦ ?_⟩
  · obtain ⟨new, hnew, hsteps⟩ := (hstep.keeps h.priced).2 ao hao
    exact ⟨new, hnew, hsteps.id, hsteps.status⟩
  obtain ⟨-, hkept⟩ := Reachable.stable (P := fun u ↦ u.Priced ∧ ∃ new ∈ u.admissionOffers,
    new.admissionOfferId = ao.admissionOfferId ∧ (ao.status.IsTerminal → new.status = ao.status)
      ∧ ∀ snapshot ∈ ao.snapshot, new.snapshot = some snapshot) hlater
    (fun _ heq ↦ heq ▸ ⟨h.priced, ao, hao, rfl, fun _ ↦ rfl, fun _ ↦ id⟩) (by
      rintro t u v ⟨hu, mid, hmid, hid, hterminal, hprice⟩ hstep
      obtain ⟨hv, hstays⟩ := hstep.keeps hu
      obtain ⟨new, hnew, hsteps⟩ := hstays mid hmid
      refine ⟨hv, new, hnew, hsteps.id.trans hid, fun hended ↦ ?_, fun snapshot hstored ↦ ?_⟩
      · have hsame := hterminal hended
        exact ((hsame ▸ hended : mid.status.IsTerminal).stays hsteps.status).trans hsame
      · have hset := hprice snapshot hstored
        rcases hsteps.snapshot with hnone | hsame
        · simp [hnone] at hset
        · exact hsame.trans hset)
  exact hkept

/-- The operations of a script, and an edit that charges ten times the price. -/
def samplePriceRise (now : Timestamp) (op : Option Operation) (db : Database) :
    Except DbError Database :=
  match op with
  | some op => op.run sampleEnv now db
  | none => .ok { db with
      ticketTypes := [⟨1, true, .publicTier, 0, [⟨1, 10000, none, none⟩], 1, "General"⟩] }

/-- A claim that lapsed is renewed at the old price after a price rise. -/
theorem admission_offer_lifecycle_sample :
    ∃ db : Database, db.ReachedOrganized 3 ∧ db.purchases.map (·.amountMinor) = [1000, 1000]
      ∧ ∀ ep ∈ db.purchases, ∀ ao ∈ db.admissionOffers,
        ep.admissionOfferId = some ao.admissionOfferId →
        ∃ snapshot ∈ ao.snapshot, snapshot.Prices ep := by
  have hscript : Replays samplePriceRise
      [(0, some (.inviteEventAttendee 2 1 (some 7) none (some 1) (some "stripe"))),
        (1, some (sampleCheckout 7 none (some 1))),
        (2, some (.cancelEventCheckout 1 7 (some "stripe"))), (2, none),
        (3, some (sampleCheckout 7 none (some 1)))] (.sample 1 [])
      (fun db ↦ db.purchases.map (·.amountMinor) = [1000, 1000]) := by
    decide +kernel
  obtain ⟨db, hscript, hamounts⟩ := exists_of_replays hscript
  have hreached : db.ReachedOrganized 3 := by
    refine reachable_of_replay (fun t op u v hrun ↦ ?_)
      (.start (t := 0) (by decide)) (List.pairwise_of_forall fun _ _ ↦ trivial) hscript
    cases op with
    | some op => exact .operation ⟨sampleEnv, op, hrun⟩
    | none =>
      obtain rfl := Except.ok.inj hrun
      exact .edit u.event u.group _ u.discountCodes u.users
  exact ⟨db, hreached, hamounts, (admission_offer_lifecycle hreached).1⟩

end Ocg
