import Ocg.System

/-!
# No tier is oversold

In a history whose start times follow the lock order, the seats that a tier claims never exceed its
total: time only takes claims away, and a move that adds one was made while the tier had room.
-/

namespace Ocg

open Relational

variable {now later : Timestamp} {db db' : Database}

/-! ## Configuration -/

theorem Move.ticketTypes {mode : MoveMode} (hmove : Move mode now db db') :
    db'.ticketTypes = db.ticketTypes := by
  rcases hmove.enrollmentMove with hsame | ⟨effect, hmove⟩
  · rw [hsame]
  · exact hmove.configuration.1

/-! ## The bound -/

/-- Every tier claims at most its seats, and tiers are told apart by their identifiers. -/
structure Enrollment.FitsSeats (s : Enrollment) (now : Timestamp) : Prop where
  keys : (s.ticketTypes.map TicketType.eventTicketTypeId).Nodup
  seats : ∀ ett ∈ s.ticketTypes, (s.claimedSeats now ett.eventTicketTypeId).card ≤ ett.seatsTotal

theorem Database.Fresh.fitsSeats (h : db.Fresh) (now : Timestamp) : db.FitsSeats now where
  keys := h.ticketKeys
  seats ett _ := by simp [Enrollment.claimedSeats, h.admissionOffers, h.purchases]

theorem Enrollment.FitsSeats.wait {s : Enrollment} (h : s.FitsSeats now) (hle : now ≤ later) :
    s.FitsSeats later where
  keys := h.keys
  seats ett hett := (Finset.card_le_card (Enrollment.claimedSeats_antitone hle)).trans
    (h.seats ett hett)

theorem Move.fitsSeats {mode : MoveMode} (hmove : Move mode now db db') (h : db.FitsSeats now) :
    db'.FitsSeats now := by
  refine ⟨hmove.ticketTypes ▸ h.keys, fun ett hett ↦ ?_⟩
  rw [hmove.ticketTypes] at hett
  rcases hmove.enrollmentMove with hsame | ⟨effect, hmove⟩
  · rw [hsame]
    exact h.seats ett hett
  · refine card_le_of_guarded (h.seats ett hett)
      ((hmove.claimedSeats ett.eventTicketTypeId).imp_right ?_)
    rintro ⟨k, hsubset, row, hrow, hid, hroom⟩
    exact ⟨k, hsubset, eq_of_key_eq h.keys hrow hett hid ▸ hroom⟩

theorem Database.ReachedInOrder.fitsSeats (h : db.ReachedInOrder now) : db.FitsSeats now := by
  refine (Reachable.invariant (P := fun now db ↦ db.Consistent ∧ db.FitsSeats now) h
    (fun t _ hfresh ↦ ⟨hfresh.consistent, hfresh.fitsSeats t⟩)
    (fun _ _ _ hle ⟨hdb, hfits⟩ ↦ ⟨hdb, hfits.wait hle⟩) ?_).2
  rintro t db db' ⟨hdb, hfits⟩ hstep
  have hmoves := hstep.moves hdb
  exact ⟨hmoves.keeps hdb, preserved_of_reflTransGen (P := fun db ↦ db.FitsSeats t) hmoves hfits
    fun _ _ ht hmove ↦ hmove.fitsSeats ht⟩

/-- **No tier is oversold.** -/
theorem occupiedSeats_le_seatsTotal (h : db.ReachedInOrder now) {ett : TicketType}
    (hett : ett ∈ db.ticketTypes) :
    db.occupiedSeats now ett.eventTicketTypeId ≤ ett.seatsTotal := by
  have hwf : db.toEnrollment.WellFormed := h.reached.consistent.wellFormed
  calc db.occupiedSeats now ett.eventTicketTypeId
      ≤ (db.claimedSeats now ett.eventTicketTypeId).card := Enrollment.occupiedSeats_le_card hwf
    _ ≤ ett.seatsTotal := h.fitsSeats.seats ett hett

/-- The one seat of the sample tier is sold after an earlier hold on it expired. -/
theorem occupiedSeats_le_seatsTotal_sample :
    ∃ db : Database, db.ReachedInOrder (hours 1 + 2) ∧ db.occupiedSeats (hours 1 + 2) 1 = 1
      ∧ ∀ ett ∈ db.ticketTypes,
        db.occupiedSeats (hours 1 + 2) ett.eventTicketTypeId ≤ ett.seatsTotal := by
  obtain ⟨db, hdb, hseats⟩ := exists_reachedInOrder sampleEnv
    [(0, sampleCheckout 7 none none),
      (hours 1, sampleCheckout 8 none none),
      (hours 1 + 1, .attachCheckoutSessionToEventPurchase 2 (sampleSession "cs_1") none true),
      (hours 1 + 2, .reconcileEventPurchaseForCheckoutSession
        (samplePayment "cs_1" "pi_1" "ch_1"))]
    (.sample 1 []) (fun db ↦ db.occupiedSeats (hours 1 + 2) 1 = 1)
    (by decide) (by decide) (by decide +kernel)
  exact ⟨db, hdb, hseats, fun ett hett ↦ occupiedSeats_le_seatsTotal hdb hett⟩

end Ocg
