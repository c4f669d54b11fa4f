import Ocg.System

/-!
# Discount codes

Two bounds on a discount code. Its inventory is conserved by every history: what is available and
what purchases hold add up to what the event started with. Its redemptions stay below the cap in a
history whose start times follow the lock order, as far as the cap is checked: the first purchase of
an offer fixes the offer's price, and a later purchase of the same offer takes that price without
looking at the cap again.
-/

namespace Ocg

open Relational

variable {now later : Timestamp} {db db' : Database} {code : Uuid}

/-! ## Inventory -/

/-- The event starts with `total` units of a code whose inventory is counted. -/
def Database.StartsWith (db : Database) (code : Uuid) (total : ℤ) : Prop :=
  ∃ edc ∈ db.discountCodes, edc.eventDiscountCodeId = code ∧ edc.availableOverrideActive = true
    ∧ edc.available = some total

instance (db : Database) (code : Uuid) (total : ℤ) : Decidable (db.StartsWith code total) :=
  inferInstanceAs (Decidable (∃ edc ∈ db.discountCodes, _))

theorem Database.Fresh.hasBalance (h : db.Fresh) {total : ℤ} (hstarts : db.StartsWith code total) :
    db.HasBalance code total := by
  obtain ⟨edc, hedc, hid, hactive, havailable⟩ := hstarts
  refine ⟨edc, hedc, hid, hactive, total, havailable, h.available edc hedc total havailable, ?_⟩
  simp [Database.reservationCount, h.purchases]

/-- **Inventory is conserved.** Whatever is not available is held by exactly as many purchases, and
nothing is held beyond the inventory. -/
theorem available_add_reservationCount {db₀ : Database} (hfresh : db₀.Fresh) {total : ℤ}
    (hstarts : db₀.StartsWith code total) (h : db₀.ReachedFrom now db) :
    ∃ edc ∈ db.discountCodes, edc.eventDiscountCodeId = code ∧ edc.availableOverrideActive = true
      ∧ ∃ available, edc.available = some available ∧ 0 ≤ available
        ∧ available + db.reservationCount code = total :=
  h.preserved (P := fun db ↦ db.HasBalance code total) hfresh.consistent
    (hfresh.hasBalance hstarts) fun _ _ _ hu hbalance hmove ↦
      hmove.hasBalance hu.wellFormed hu.refunds hbalance

/-- A reservation of the sample code lapses, and the unit is sold to the next user. -/
theorem available_add_reservationCount_sample :
    ∃ db : Database, (Database.sample 1 [⟨1, true, some 1, true, "SAVE", none, .fixedAmount 100,
        none, none⟩]).ReachedFrom (hours 1) db
      ∧ db.reservationCount 1 = 1 ∧ ∃ edc ∈ db.discountCodes, edc.eventDiscountCodeId = 1
        ∧ edc.availableOverrideActive = true ∧ ∃ available, edc.available = some available
          ∧ 0 ≤ available ∧ available + db.reservationCount 1 = 1 := by
  obtain ⟨db, hdb, hcount⟩ := exists_reachedFrom sampleEnv
    [(0, sampleCheckout 7 (some "save") none), (hours 1, sampleCheckout 8 (some "save") none)]
    (.sample 1 [⟨1, true, some 1, true, "SAVE", none, .fixedAmount 100, none, none⟩])
    (fun db ↦ db.reservationCount 1 = 1) (by decide +kernel)
  exact ⟨db, hdb, hcount, available_add_reservationCount (by decide) (by decide) hdb⟩

/-! ## Redemptions -/

/-- Codes are told apart, and the redemptions that were priced live stay below every cap. -/
structure Enrollment.FitsCaps (s : Enrollment) (now : Timestamp) : Prop where
  keys : ((s.discountCodes.map DiscountCode.terms).map DiscountCode.eventDiscountCodeId).Nodup
  caps : ∀ edc ∈ s.discountCodes.map DiscountCode.terms, ∀ total ∈ edc.totalAvailable,
    0 ≤ total ∧ (s.pricedRedemptions now edc.eventDiscountCodeId).card ≤ total.toNat

theorem Database.Fresh.fitsCaps (h : db.Fresh) (now : Timestamp) : db.FitsCaps now := by
  refine ⟨?_, fun edc hedc total htotal ↦ ?_⟩
  · rw [List.map_map]
    exact h.codeKeys
  · obtain ⟨row, hrow, rfl⟩ := List.mem_map.1 hedc
    refine ⟨h.totalAvailable row hrow total htotal, ?_⟩
    simp [Enrollment.pricedRedemptions, h.purchases]

theorem Enrollment.FitsCaps.wait {s : Enrollment} (h : s.FitsCaps now) (hle : now ≤ later) :
    s.FitsCaps later := by
  refine ⟨h.keys, fun edc hedc total htotal ↦ ?_⟩
  obtain ⟨hpos, hcap⟩ := h.caps edc hedc total htotal
  exact ⟨hpos, (Finset.card_le_card (Enrollment.pricedRedemptions_antitone hle)).trans hcap⟩

/-- A code with redemptions left has fewer priced ones than its cap. -/
theorem Enrollment.FitsCaps.card_lt {s : Enrollment} (h : s.FitsCaps now) {edc : DiscountCode}
    (hedc : edc ∈ s.discountCodes.map DiscountCode.terms) {total : ℤ}
    (htotal : total ∈ edc.totalAvailable)
    (hleft : s.HasRedemptionsLeft now (some edc.eventDiscountCodeId)) :
    (s.pricedRedemptions now edc.eventDiscountCodeId).card < total.toNat := by
  obtain ⟨row, hrow, hid, hrow_left⟩ := hleft _ rfl
  have hterms : row.terms ∈ s.discountCodes.map DiscountCode.terms := List.mem_map_of_mem hrow
  obtain rfl : row.terms = edc := eq_of_key_eq h.keys hterms hedc hid
  have hcount := hrow_left total htotal
  have hle : (s.pricedRedemptions now row.terms.eventDiscountCodeId).card
      ≤ redemptionCount now row.terms.eventDiscountCodeId s := s.card_pricedRedemptions_le
  have hsame : row.terms.eventDiscountCodeId = row.eventDiscountCodeId := rfl
  rw [hsame] at hle hcount ⊢
  omega

theorem Move.fitsCaps {mode : MoveMode} (hmove : Move mode now db db') (hdb : db.Consistent)
    (h : db.FitsCaps now) : db'.FitsCaps now := by
  rcases hmove.enrollmentMove with hsame | ⟨effect, hmove⟩
  · exact hsame ▸ h
  · refine ⟨hmove.configuration.2.1 ▸ h.keys, fun edc hedc total htotal ↦ ?_⟩
    rw [hmove.configuration.2.1] at hedc
    obtain ⟨hpos, hcap⟩ := h.caps edc hedc total htotal
    refine ⟨hpos, card_le_of_guarded hcap ?_⟩
    refine (hmove.pricedRedemptions hdb.wellFormed hdb.snapshots _).imp_right ?_
    rintro ⟨k, hsubset, hleft⟩
    exact ⟨k, hsubset, h.card_lt hedc htotal hleft⟩

theorem Database.ReachedInOrder.fitsCaps (h : db.ReachedInOrder now) : db.FitsCaps now := by
  refine (Reachable.invariant (P := fun now db ↦ db.Consistent ∧ db.FitsCaps now) h
    (fun t _ hfresh ↦ ⟨hfresh.consistent, hfresh.fitsCaps t⟩)
    (fun _ _ _ hle ⟨hdb, hfits⟩ ↦ ⟨hdb, hfits.wait hle⟩) ?_).2
  rintro t db db' ⟨hdb, hfits⟩ hstep
  exact preserved_of_reflTransGen (P := fun db ↦ db.Consistent ∧ db.FitsCaps t)
    (hstep.moves hdb) ⟨hdb, hfits⟩ fun _ _ ⟨hx, hPx⟩ hmove ↦
      ⟨hmove.consistent hx, hmove.fitsCaps hx hPx⟩

/-- The active redemptions of a code, but for those that took the price of an offer which an earlier
purchase had claimed. -/
def Enrollment.pricedRedemptionCount (s : Enrollment) (now : Timestamp) (code : Uuid) : ℕ :=
  s.purchases.countP fun ep ↦ ep.Redeems now code ∧ ¬ s.IsReclaim ep

theorem Enrollment.WellFormed.card_pricedRedemptions {s : Enrollment} (h : s.WellFormed) :
    (s.pricedRedemptions now code).card = s.pricedRedemptionCount now code := by
  rw [pricedRedemptions, pricedRedemptionCount, List.countP_eq_length_filter,
    List.toFinset_card_of_nodup (nodup_keys_filter h.purchaseKeys _), List.length_map]

/-- **Redemptions priced live stay below the cap.** -/
theorem pricedRedemptionCount_le_totalAvailable (h : db.ReachedInOrder now) {edc : DiscountCode}
    (hedc : edc ∈ db.discountCodes) {total : ℤ} (htotal : edc.totalAvailable = some total) :
    (db.pricedRedemptionCount now edc.eventDiscountCodeId : ℤ) ≤ total := by
  have hwf : db.toEnrollment.WellFormed := h.reached.consistent.wellFormed
  obtain ⟨hpos, hcap⟩ := h.fitsCaps.caps edc.terms (List.mem_map_of_mem hedc) total htotal
  have hsame : edc.terms.eventDiscountCodeId = edc.eventDiscountCodeId := rfl
  rw [hsame, hwf.card_pricedRedemptions] at hcap
  omega

/-- An offer is claimed with the last redemption of a code; its hold lapses; somebody else redeems
the code; and the offer is claimed again at the price it had. -/
theorem pricedRedemptionCount_le_totalAvailable_sample :
    ∃ db : Database, db.ReachedInOrder (hours 1) ∧ redemptionCount (hours 1) 1 db.toEnrollment = 2
      ∧ ∀ edc ∈ db.discountCodes, edc.totalAvailable = some 1
        ∧ (db.pricedRedemptionCount (hours 1) edc.eventDiscountCodeId : ℤ) ≤ 1 := by
  obtain ⟨db, hdb, hcount, hcodes⟩ := exists_reachedInOrder sampleEnv
    [(0, .inviteEventAttendee 2 1 (some 7) none (some 1) (some "stripe")),
      (1, sampleCheckout 7 (some "save") (some 1)),
      (hours 1, sampleCheckout 8 (some "save") none),
      (hours 1, sampleCheckout 7 (some "save") (some 1))]
    (.sample 2 [⟨1, true, none, false, "SAVE", none, .fixedAmount 100, none, some 1⟩])
    (fun db ↦ redemptionCount (hours 1) 1 db.toEnrollment = 2
      ∧ ∀ edc ∈ db.discountCodes, edc.totalAvailable = some 1)
    (by decide) (by decide) (by decide +kernel)
  exact ⟨db, hdb, hcount, fun edc hedc ↦
    ⟨hcodes edc hedc, pricedRedemptionCount_le_totalAvailable hdb hedc (hcodes edc hedc)⟩⟩

/-- The cap does not bound all redemptions. -/
theorem redemptionCount_exceeds_totalAvailable :
    ¬ ∀ (now : Timestamp) (db : Database), db.ReachedInOrder now → ∀ edc ∈ db.discountCodes,
      ∀ total ∈ edc.totalAvailable,
        (redemptionCount now edc.eventDiscountCodeId db.toEnrollment : ℤ) ≤ total := by
  intro hall
  obtain ⟨db, hdb, edc, hedc, htotal, hcount⟩ := exists_reachedInOrder sampleEnv
    [(0, .inviteEventAttendee 2 1 (some 7) none (some 1) (some "stripe")),
      (1, sampleCheckout 7 (some "save") (some 1)),
      (hours 1, sampleCheckout 8 (some "save") none),
      (hours 1, sampleCheckout 7 (some "save") (some 1))]
    (.sample 2 [⟨1, true, none, false, "SAVE", none, .fixedAmount 100, none, some 1⟩])
    (fun db ↦ ∃ edc ∈ db.discountCodes, edc.totalAvailable = some 1
      ∧ redemptionCount (hours 1) edc.eventDiscountCodeId db.toEnrollment = 2)
    (by decide) (by decide) (by decide +kernel)
  have hle := hall (hours 1) db hdb edc hedc 1 htotal
  rw [hcount] at hle
  omega

end Ocg
