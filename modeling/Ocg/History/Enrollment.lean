import Ocg.System

/-!
# One place per user

In every history, whatever the order of its start times, a user queues, holds an offer or attends,
never two of them; at most one purchase of a user is active; and whoever owns an entitled purchase
attends.
-/

namespace Ocg

open Relational

variable {now : Timestamp} {db : Database}

/-- The user has a queue position. -/
def Enrollment.IsQueued (s : Enrollment) (user : Uuid) : Prop :=
  ∃ ew ∈ s.waitlist, ew.userId = user

/-- The user has an active offer whose deadline is ahead. -/
def Enrollment.HoldsOffer (s : Enrollment) (now : Timestamp) (user : Uuid) : Prop :=
  ∃ ao ∈ s.admissionOffers, ao.userId = user ∧ ao.IsReserving now

/-- The user is a confirmed attendee. -/
def Enrollment.IsAttending (s : Enrollment) (user : Uuid) : Prop :=
  ∃ ea ∈ s.attendees, ea.userId = user ∧ ea.status = .confirmed

instance (s : Enrollment) (user : Uuid) : Decidable (s.IsQueued user) :=
  inferInstanceAs (Decidable (∃ ew ∈ s.waitlist, _))

instance (s : Enrollment) (now : Timestamp) (user : Uuid) : Decidable (s.HoldsOffer now user) :=
  inferInstanceAs (Decidable (∃ ao ∈ s.admissionOffers, _))

instance (s : Enrollment) (user : Uuid) : Decidable (s.IsAttending user) :=
  inferInstanceAs (Decidable (∃ ea ∈ s.attendees, _))

/-- The purchases of the user that are completed, pending or refund-requested. -/
def Enrollment.activePurchaseCount (s : Enrollment) (user : Uuid) : ℕ :=
  s.purchases.countP fun ep ↦ ep.userId = user ∧ ep.status.IsActive

/-! ## From the invariants -/

theorem Enrollment.Exclusive.not_queued_of_holdsOffer {s : Enrollment} (h : s.Exclusive)
    {user : Uuid} (hoffer : s.HoldsOffer now user) : ¬ s.IsQueued user := by
  obtain ⟨ao, hao, huser, hactive, -⟩ := hoffer
  rintro ⟨ew, hew, rfl⟩
  exact h.queuedOffer ew hew ao hao huser hactive

theorem Enrollment.Exclusive.not_queued_of_isAttending {s : Enrollment} (h : s.Exclusive)
    {user : Uuid} (hattending : s.IsAttending user) : ¬ s.IsQueued user := by
  obtain ⟨ea, hea, huser, -⟩ := hattending
  rintro ⟨ew, hew, rfl⟩
  exact h.queuedAttendee ew hew ea hea huser

theorem Enrollment.Exclusive.not_holdsOffer_of_isAttending {s : Enrollment} (h : s.Exclusive)
    {user : Uuid} (hattending : s.IsAttending user) : ¬ s.HoldsOffer now user := by
  obtain ⟨ea, hea, rfl, hconfirmed⟩ := hattending
  rintro ⟨ao, hao, huser, hactive, -⟩
  exact h.confirmedOffer ea hea hconfirmed ao hao huser hactive

theorem Enrollment.WellFormed.activePurchaseCount_le_one {s : Enrollment} (h : s.WellFormed)
    (user : Uuid) : s.activePurchaseCount user ≤ 1 := by
  have hnodup : (s.purchases.filter fun ep ↦ ep.userId = user ∧ ep.status.IsActive).Nodup :=
    h.purchaseKeys.of_map.filter _
  rw [activePurchaseCount, List.countP_eq_length_filter, ← List.toFinset_card_of_nodup hnodup,
    Finset.card_le_one]
  intro ep hep ep' hep'
  simp only [List.mem_toFinset, List.mem_filter, decide_eq_true_eq] at hep hep'
  exact h.activePurchase_unique hep.1 hep'.1 hep.2.2 hep'.2.2 (hep.2.1.trans hep'.2.1.symm)

/-- **A user is in one place**, owns one active purchase at most, and attends when it entitles. -/
theorem enrollment_exclusive (h : db.Reached now) (user : Uuid) :
    ¬ (db.IsQueued user ∧ db.HoldsOffer now user)
      ∧ ¬ (db.IsQueued user ∧ db.IsAttending user)
      ∧ ¬ (db.HoldsOffer now user ∧ db.IsAttending user)
      ∧ db.activePurchaseCount user ≤ 1
      ∧ ∀ ep ∈ db.purchases, ep.userId = user → ep.status.IsEntitled → db.IsAttending user := by
  obtain ⟨hwf, hexclusive, -, -⟩ := h.consistent
  refine ⟨fun ⟨hqueued, hoffer⟩ ↦ hexclusive.not_queued_of_holdsOffer hoffer hqueued,
    fun ⟨hqueued, hattending⟩ ↦ hexclusive.not_queued_of_isAttending hattending hqueued,
    fun ⟨hoffer, hattending⟩ ↦ hexclusive.not_holdsOffer_of_isAttending hattending hoffer,
    hwf.activePurchaseCount_le_one user, ?_⟩
  rintro ep hep rfl hentitled
  exact hexclusive.entitledConfirmed ep hep hentitled

/-- An invited user claims and pays for the offer, and from then on only attends. -/
theorem enrollment_exclusive_sample :
    ∃ db : Database, db.Reached 3 ∧ db.IsAttending 7 ∧ ¬ db.IsQueued 7 ∧ ¬ db.HoldsOffer 3 7
      ∧ db.activePurchaseCount 7 ≤ 1 := by
  obtain ⟨db, hdb, hattending⟩ := exists_reached sampleEnv
    [(0, .inviteEventAttendee 2 1 (some 7) none (some 1) (some "stripe")),
      (1, sampleCheckout 7 none (some 1)),
      (2, .attachCheckoutSessionToEventPurchase 2 (sampleSession "cs_1") none true),
      (3, .reconcileEventPurchaseForCheckoutSession (samplePayment "cs_1" "pi_1" "ch_1"))]
    (.sample 1 []) (fun db ↦ db.IsAttending 7) (by decide) (by decide +kernel)
  obtain ⟨-, hqueued, hoffer, hcount, -⟩ := enrollment_exclusive hdb 7
  exact ⟨db, hdb, hattending, fun h ↦ hqueued ⟨h, hattending⟩, fun h ↦ hoffer ⟨h, hattending⟩,
    hcount⟩

end Ocg
