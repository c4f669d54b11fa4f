import Ocg.Transition.Refunds

/-!
# Discount inventory

A code with an active override counts down what is still available. A purchase holds one unit while
it may still be used, and while a refund that will give the unit back is in progress; an automatic
refund of an unfulfillable checkout holds none, because the unit was given back when the checkout
ended. Every move leaves the sum of available and held units as it was.
-/

namespace Ocg

open Relational

/-- The purchase holds a unit of its discount code. -/
def Database.HoldsReservation (db : Database) (ep : Purchase) : Prop :=
  ep.status.IsActive
    ∨ (ep.status ∈ [PurchaseStatus.refundPending, .refundRecoveryPending]
      ∧ ∃ r ∈ db.refunds, r.eventPurchaseId = ep.eventPurchaseId
        ∧ r.kind ≠ .automaticUnfulfillableCheckout ∧ r.finalizedAt = none
        ∧ r.recoveryCompletedAt = none)

instance (db : Database) (ep : Purchase) : Decidable (db.HoldsReservation ep) :=
  inferInstanceAs (Decidable (_ ∨ _))

/-- The units of a code that purchases hold. -/
def Database.reservationCount (db : Database) (code : Uuid) : ℕ :=
  db.purchases.countP fun ep ↦ ep.eventDiscountCodeId = some code ∧ db.HoldsReservation ep

/-- The code counts its inventory, and available and held units make up the total. -/
def Database.HasBalance (db : Database) (code : Uuid) (total : ℤ) : Prop :=
  ∃ edc ∈ db.discountCodes, edc.eventDiscountCodeId = code ∧ edc.availableOverrideActive = true
    ∧ ∃ available, edc.available = some available ∧ 0 ≤ available
      ∧ available + db.reservationCount code = total

/-! ## The stored count -/

/-- The stored count of a code that counts its inventory. -/
def Stores (codes : List DiscountCode) (code : Uuid) (available : ℤ) : Prop :=
  ∃ edc ∈ codes, edc.eventDiscountCodeId = code ∧ edc.availableOverrideActive = true
    ∧ edc.available = some available

theorem Stores.update {codes : List DiscountCode} {code : Uuid} {available : ℤ}
    (h : Stores codes code available) (selected : Option Uuid) (quantity : ℤ) :
    Stores
      (codes.map fun edc ↦
        if some edc.eventDiscountCodeId = selected then edc.addAvailable quantity else edc) code
      (available + if selected = some code then quantity else 0) := by
  obtain ⟨edc, hedc, rfl, hactive, havailable⟩ := h
  refine ⟨_, List.mem_map_of_mem hedc, ?_⟩
  by_cases hselected : some edc.eventDiscountCodeId = selected
  · rw [if_pos hselected, if_pos hselected.symm, DiscountCode.addAvailable, if_pos hactive]
    exact ⟨rfl, hactive, by simp [havailable]⟩
  · rw [if_neg hselected, if_neg (Ne.symm hselected)]
    exact ⟨rfl, hactive, by simp [havailable]⟩

theorem Stores.releaseIf {s : Enrollment} {code : Uuid} {available : ℤ}
    (h : Stores s.discountCodes code available) (released : Bool) (selected : Option Uuid) :
    Stores (releaseIf released selected s).discountCodes code
      (available + if released = true ∧ selected = some code then 1 else 0) := by
  cases released with
  | true => simpa [Ocg.releaseIf, releaseEventDiscountCodeAvailability] using h.update selected 1
  | false => simpa [Ocg.releaseIf] using h

theorem Stores.reserve {s s₁ : Enrollment} {code : Uuid} {available : ℤ}
    (h : Stores s.discountCodes code available) {selected : Option Uuid}
    (hreserve : reserveEventDiscountCodeAvailability selected s = .ok s₁) :
    Stores s₁.discountCodes code (available - if selected = some code then 1 else 0)
      ∧ 0 ≤ available - if selected = some code then 1 else 0 := by
  obtain ⟨hpositive, rfl⟩ := reserveEventDiscountCodeAvailability_eq_ok.1 hreserve
  have hstores := h.update selected (-1)
  have hquantity : (available + if selected = some code then -1 else 0)
      = available - if selected = some code then 1 else 0 := by
    split <;> omega
  rw [hquantity] at hstores
  refine ⟨hstores, ?_⟩
  obtain ⟨edc, hedc, -, -, havailable⟩ := hstores
  exact hpositive edc hedc _ havailable

theorem Database.hasBalance_iff {db : Database} {code : Uuid} {total : ℤ} :
    db.HasBalance code total ↔ ∃ available, Stores db.discountCodes code available ∧ 0 ≤ available
      ∧ available + db.reservationCount code = total :=
  ⟨fun ⟨edc, hedc, hid, hactive, available, hav, hpos, hsum⟩ ↦
    ⟨available, ⟨edc, hedc, hid, hactive, hav⟩, hpos, hsum⟩,
   fun ⟨available, ⟨edc, hedc, hid, hactive, hav⟩, hpos, hsum⟩ ↦
    ⟨edc, hedc, hid, hactive, available, hav, hpos, hsum⟩⟩

/-! ## Balance across a change -/

section Balance

variable {db db' : Database} {code : Uuid} {total : ℤ}

theorem Database.HasBalance.congr (h : db.HasBalance code total)
    (hpurchases : db'.purchases = db.purchases) (hcodes : db'.discountCodes = db.discountCodes)
    (hagree : ∀ ep ∈ db.purchases, db'.HoldsReservation ep ↔ db.HoldsReservation ep) :
    db'.HasBalance code total := by
  obtain ⟨edc, hedc, hid, hactive, available, hav, hpos, hsum⟩ := h
  refine ⟨edc, hcodes ▸ hedc, hid, hactive, available, hav, hpos, ?_⟩
  rw [← hsum, reservationCount, reservationCount, hpurchases]
  congr 2
  exact List.countP_congr fun ep hep ↦ by simp [hagree ep hep]

/-- One purchase moved, and its unit was given back exactly when it stopped holding it. -/
theorem Database.HasBalance.of_moved (h : db.HasBalance code total)
    (hwf : db.toEnrollment.WellFormed) {ep new : Purchase} {released : Bool}
    (hep : ep ∈ db.purchases) (hcontinues : new.Continues ep)
    (hpurchases : db'.purchases = replaceRow Purchase.eventPurchaseId new db.purchases)
    (hcodes : db'.discountCodes
      = (releaseIf released ep.eventDiscountCodeId db.toEnrollment).discountCodes)
    (hagree : ∀ row ∈ db.purchases, row.eventPurchaseId ≠ ep.eventPurchaseId →
      (db'.HoldsReservation row ↔ db.HoldsReservation row))
    (hnew : db'.HoldsReservation new → db.HoldsReservation ep)
    (hreleased : released = true ↔ db.HoldsReservation ep ∧ ¬ db'.HoldsReservation new) :
    db'.HasBalance code total := by
  rw [hasBalance_iff] at h ⊢
  obtain ⟨available, hstores, hpos, hsum⟩ := h
  have hcount := countP_replaceRow
    (fun row ↦ decide (row.eventDiscountCodeId = some code ∧ db.HoldsReservation row))
    (fun row ↦ decide (row.eventDiscountCodeId = some code ∧ db'.HoldsReservation row))
    hwf.purchaseKeys hep hcontinues.id.symm fun row hrow hne ↦ by
      simp [hagree row hrow (hcontinues.id ▸ hne)]
  refine ⟨_, hcodes ▸ hstores.releaseIf released ep.eventDiscountCodeId, by split <;> omega, ?_⟩
  rw [← hsum, reservationCount, reservationCount, hpurchases]
  simp only [decide_eq_true_eq, hcontinues.code] at hcount
  by_cases hcode : ep.eventDiscountCodeId = some code
  · by_cases hholds : db.HoldsReservation ep
    · by_cases hholds' : db'.HoldsReservation new
      · simp only [hcode, hholds, hholds', and_self, if_true] at hcount
        simp only [hreleased, hholds', not_true_eq_false, and_false, false_and, if_false]
        omega
      · simp only [hcode, hholds, hholds', and_self, and_false, if_true, if_false] at hcount
        simp only [hreleased, hholds, hholds', hcode, not_false_eq_true, and_self, if_true]
        omega
    · have hholds' : ¬ db'.HoldsReservation new := fun hnew' ↦ hholds (hnew hnew')
      simp only [hholds, hholds', and_false, if_false] at hcount
      simp only [hreleased, hholds, false_and, if_false]
      omega
  · simp only [hcode, false_and, if_false] at hcount
    simp only [hcode, and_false, if_false]
    omega

end Balance

/-! ## Preservation -/

section Preservation

variable {db : Database} {s : Enrollment} {n : Uuid} {ep : Purchase} {r new : Refund}

theorem Database.holdsReservation_append (hne : r.eventPurchaseId ≠ ep.eventPurchaseId) :
    ({ db with
      toEnrollment := s
      nextRefundUuid := n
      refunds := db.refunds ++ [r] } : Database).HoldsReservation ep
        ↔ db.HoldsReservation ep := by
  refine or_congr Iff.rfl (and_congr Iff.rfl ⟨?_, ?_⟩)
  · rintro ⟨other, hother, hlink, hrest⟩
    rcases List.mem_append.1 hother with hother | hother
    · exact ⟨other, hother, hlink, hrest⟩
    · exact absurd (List.mem_singleton.1 hother ▸ hlink) hne
  · rintro ⟨other, hother, hrest⟩
    exact ⟨other, List.mem_append_left _ hother, hrest⟩

theorem Database.holdsReservation_replace (hkeys : (db.refunds.map
      Refund.eventPurchaseRefundId).Nodup) (hr : r ∈ db.refunds)
    (hid : new.eventPurchaseRefundId = r.eventPurchaseRefundId)
    (hpurchase : new.eventPurchaseId = r.eventPurchaseId)
    (hsame : r.eventPurchaseId = ep.eventPurchaseId → new.kind = r.kind
      ∧ new.finalizedAt = r.finalizedAt ∧ new.recoveryCompletedAt = r.recoveryCompletedAt) :
    ({ db with
      toEnrollment := s
      refunds := replaceRow Refund.eventPurchaseRefundId new db.refunds } :
        Database).HoldsReservation ep ↔ db.HoldsReservation ep := by
  refine or_congr Iff.rfl (and_congr Iff.rfl ⟨?_, ?_⟩)
  · rintro ⟨other, hother, hlink, hrest⟩
    rcases mem_replaceRow hother with rfl | ⟨hother, -⟩
    · obtain ⟨hkind, hfinalizedAt, hrecovery⟩ := hsame (hpurchase.symm.trans hlink)
      rw [hkind, hfinalizedAt, hrecovery] at hrest
      exact ⟨r, hr, hpurchase.symm.trans hlink, hrest⟩
    · exact ⟨other, hother, hlink, hrest⟩
  · rintro ⟨other, hother, hlink, hrest⟩
    by_cases hkey : other.eventPurchaseRefundId = new.eventPurchaseRefundId
    · obtain rfl : other = r := eq_of_key_eq hkeys hother hr (hkey.trans hid)
      obtain ⟨hkind, hfinalizedAt, hrecovery⟩ := hsame hlink
      rw [← hkind, ← hfinalizedAt, ← hrecovery] at hrest
      exact ⟨new, new_mem_replaceRow hother hkey, hpurchase.trans hlink, hrest⟩
    · exact ⟨other, mem_replaceRow_of_ne hother hkey, hlink, hrest⟩

theorem Refund.Matches.open_of_entitled (h : r.Matches ep) (hentitled : ep.status.IsEntitled) :
    r.kind ≠ .automaticUnfulfillableCheckout ∧ r.finalizedAt = none
      ∧ r.recoveryCompletedAt = none := by
  -- an entitled purchase with a refund row has an open one that will give the unit back
  refine ⟨fun hkind ↦ h.automatic hkind hentitled, ?_, ?_⟩
  · by_contra hne
    rcases h.finalized.1 hne with hs | hs <;> simp [hs] at hentitled
  · by_contra hne
    have := h.recovered hne
    simp [this] at hentitled

/-- A purchase whose refund is settled holds its unit exactly when that refund gives it back. -/
theorem Database.RefundsConsistent.holdsReservation_iff (h : db.RefundsConsistent)
    (hwf : db.toEnrollment.WellFormed) (hr : r ∈ db.refunds) (hep : ep ∈ db.purchases)
    (hlink : ep.eventPurchaseId = r.eventPurchaseId)
    (hstatus : ep.status.IsEntitled
      ∨ ep.status ∈ [PurchaseStatus.refundPending, .refundRecoveryPending]) :
    db.HoldsReservation ep ↔ r.kind ≠ .automaticUnfulfillableCheckout ∧ r.finalizedAt = none
      ∧ r.recoveryCompletedAt = none := by
  constructor
  · rintro (hactive | ⟨-, other, hother, hother_link, hopen⟩)
    · rcases hstatus with hentitled | hqueued
      · exact (h.matches_of_link hwf hr hep hlink).open_of_entitled hentitled
      · simp only [List.mem_cons, List.not_mem_nil, or_false] at hqueued
        rcases hqueued with hq | hq <;> simp [hq] at hactive
    · rwa [eq_of_key_eq h.purchaseKeys hother hr (hother_link.trans hlink)] at hopen
  · intro hopen
    rcases hstatus with hentitled | hqueued
    · exact .inl hentitled.isActive
    · exact .inr ⟨hqueued, r, hr, hlink.symm, hopen⟩

theorem Database.not_holdsReservation_of_refunded (db : Database)
    (hstatus : ep.status = .refunded) :
    ¬ db.HoldsReservation ep := by
  rintro (h | ⟨h, -⟩) <;> simp [hstatus] at h

end Preservation

/-- **Every move conserves discount inventory.** -/
theorem Move.hasBalance {mode : MoveMode} {now : Timestamp} {db db' : Database}
    (hmove : Move mode now db db') (hwf : db.toEnrollment.WellFormed)
    (hrefunds : db.RefundsConsistent) {code : Uuid} {total : ℤ} (h : db.HasBalance code total) :
    db'.HasBalance code total := by
  cases hmove with
  | @enrollment s hmove =>
    cases hmove.purchaseChange with
    | kept hpurchases hcodes => exact h.congr hpurchases hcodes fun _ _ ↦ Iff.rfl
    | @opened s₁ ep hid hstatus hreserve _ hpurchases hcodes =>
      rw [Database.hasBalance_iff] at h ⊢
      obtain ⟨available, hstores, -, hsum⟩ := h
      obtain ⟨hstores', hpos⟩ := hstores.reserve hreserve
      refine ⟨_, hcodes ▸ hstores', hpos, ?_⟩
      have hholds : ({ db with toEnrollment := s } : Database).HoldsReservation ep :=
        .inl (by simp [hstatus])
      have hold : ∀ row, ({ db with toEnrollment := s } : Database).HoldsReservation row
          ↔ db.HoldsReservation row := fun _ ↦ Iff.rfl
      rw [← hsum, Database.reservationCount, Database.reservationCount, hpurchases,
        List.countP_append, List.countP_singleton]
      simp only [hholds, and_true, decide_eq_true_eq, hold]
      split <;> push_cast <;> omega
    | @moved ep new _ released hep hcontinues hstep hpurchases hcodes =>
      refine h.of_moved hwf hep hcontinues hpurchases hcodes (fun _ _ _ ↦ Iff.rfl) ?_ ?_
      · intro hholds
        cases hstep with
        | record hstatus =>
          unfold Database.HoldsReservation at hholds ⊢
          rwa [hstatus, hcontinues.id] at hholds
        | exchange hfrom _ | refundFree hfrom _ _ => exact .inl hfrom.isActive
        | complete hfrom _ | expire hfrom _ => exact .inl (by simp [hfrom])
      · cases hstep with
        | record hstatus =>
          simp only [Bool.false_eq_true, Database.HoldsReservation, hstatus, hcontinues.id,
            false_iff,
            not_and_not_right]
          exact id
        | exchange _ hto =>
          have : ({ db with toEnrollment := s } : Database).HoldsReservation new :=
            .inl hto.isActive
          simp [this]
        | complete _ hto =>
          have : ({ db with toEnrollment := s } : Database).HoldsReservation new :=
            .inl (by simp [hto])
          simp [this]
        | expire hfrom hto => simp [Database.HoldsReservation, hfrom, hto]
        | refundFree hfrom _ hto =>
          have hholds : db.HoldsReservation ep := .inl hfrom.isActive
          simp [hholds, Database.not_holdsReservation_of_refunded _ hto]
  | bookkeeping _ => exact h.congr rfl rfl fun _ _ ↦ Iff.rfl
  | @startRefund ep row hep hentitled _ hstarts _ _ =>
    refine h.congr rfl rfl fun other hother ↦ ?_
    by_cases hid : row.eventPurchaseId = other.eventPurchaseId
    · obtain rfl : other = ep :=
        eq_of_key_eq hwf.purchaseKeys hother hep (hid.symm.trans hstarts.purchase)
      exact iff_of_true (.inl hentitled.isActive) (.inl hentitled.isActive)
    · exact Database.holdsReservation_append hid
  | @reserve s ep row hmove _ hstarts hkind =>
    have heffect : ∀ old new released, StatusStep old new (.reserve ep) released → old = ep := by
      rintro old new released ⟨⟩
      rfl
    obtain ⟨hep, new, released, hcontinues, hstep, hpurchases, hcodes⟩ :=
      hmove.purchaseChange.moved_of_effect ep (by simp) heffect
    have hnot : ¬ ({ db with
        toEnrollment := s
        nextRefundUuid := db.nextRefundUuid + 1
        refunds := db.refunds ++ [row] } : Database).HoldsReservation new := by
      cases hstep with
      | reserve _ hto =>
        rintro (hactive | ⟨-, other, hother, hlink, hother_kind, -⟩)
        · simp [hto] at hactive
        · rcases List.mem_append.1 hother with hother | hother
          · exact hstarts.first other hother (hlink.trans hcontinues.id)
          · exact hother_kind (List.mem_singleton.1 hother ▸ hkind)
    refine h.of_moved hwf hep hcontinues hpurchases hcodes (fun other _ hne ↦ ?_)
      (fun hholds ↦ absurd hholds hnot) ?_
    · exact Database.holdsReservation_append (hstarts.purchase ▸ hne.symm)
    · cases hstep with
      | reserve hfrom hto =>
        rcases hfrom with hfrom | hfrom
        · have hholds : db.HoldsReservation ep := .inl (by simp [hfrom])
          simp [hfrom, hholds, hnot]
        · have hholds : ¬ db.HoldsReservation ep := by simp [Database.HoldsReservation, hfrom]
          simp [hfrom, hholds]
  | @handOver s ep hmove hrefund =>
    have heffect : ∀ old new released, StatusStep old new (.handOver ep) released → old = ep := by
      rintro old new released ⟨⟩
      rfl
    obtain ⟨hep, new, released, hcontinues, hstep, hpurchases, hcodes⟩ :=
      hmove.purchaseChange.moved_of_effect ep (by simp) heffect
    obtain ⟨r, hr, hlink⟩ := hrefund
    have hmatches := hrefunds.matches_of_link hwf hr hep hlink.symm
    refine h.of_moved hwf hep hcontinues hpurchases hcodes (fun _ _ _ ↦ Iff.rfl) ?_ ?_
    · cases hstep with
      | handOver hfrom _ => exact fun _ ↦ .inl hfrom.isActive
    · cases hstep with
      | handOver hfrom hto =>
        -- the unit is now held through the refund row
        have hholds : ({ db with toEnrollment := s } : Database).HoldsReservation new :=
          .inr ⟨by simp [hto], r, hr, hlink.trans hcontinues.id.symm,
            hmatches.open_of_entitled hfrom⟩
        simp [hholds]
  | @progress r new hr hprogress _ =>
    exact h.congr rfl rfl fun other _ ↦
      Database.holdsReservation_replace hrefunds.keys hr hprogress.id hprogress.purchase fun _ ↦
        ⟨hprogress.kind, hprogress.finalizedAt, hprogress.recoveryCompletedAt⟩
  | @finalize s ep r hr hlink hfinalizedAt hnotTerminal _ hmove =>
    obtain ⟨hep, new, released, hcontinues, hstep, hpurchases, hcodes⟩ :=
      hmove.purchaseChange.moved_of_effect ep (by simp) (by
        rintro old new released ⟨⟩
        rfl)
    have hnotRecovered : r.recoveryCompletedAt = none := by
      by_contra hne
      exact hnotTerminal ((hrefunds.sound r hr).recovered hne)
    cases hstep with
    | settle _ hfrom hto =>
      have hnot := Database.not_holdsReservation_of_refunded ({ db with
        toEnrollment := s
        refunds := replaceRow Refund.eventPurchaseRefundId (r.finalize now) db.refunds }) hto
      refine h.of_moved hwf hep hcontinues hpurchases hcodes (fun other _ hne ↦ ?_)
        (fun hholds ↦ absurd hholds hnot) ?_
      · exact Database.holdsReservation_replace hrefunds.keys hr rfl rfl
          fun hsame ↦ absurd (hsame.symm.trans hlink.symm) hne
      · rw [hrefunds.holdsReservation_iff hwf hr hep hlink hfrom]
        simp [hnot, hfinalizedAt, hnotRecovered]
  | @recover s ep r actor evidence hr hlink _ hrecovery _ hmove =>
    obtain ⟨hep, new, released, hcontinues, hstep, hpurchases, hcodes⟩ :=
      hmove.purchaseChange.moved_of_effect ep (by simp) (by
        rintro old new released ⟨⟩
        rfl)
    cases hstep with
    | settle _ hfrom hto =>
      have hnot := Database.not_holdsReservation_of_refunded ({ db with
        toEnrollment := s
        refunds := replaceRow Refund.eventPurchaseRefundId (r.recover now actor evidence)
          db.refunds }) hto
      refine h.of_moved hwf hep hcontinues hpurchases hcodes (fun other _ hne ↦ ?_)
        (fun hholds ↦ absurd hholds hnot) ?_
      · exact Database.holdsReservation_replace hrefunds.keys hr rfl rfl
          fun hsame ↦ absurd (hsame.symm.trans hlink.symm) hne
      · rw [hrefunds.holdsReservation_iff hwf hr hep hlink hfrom]
        simp [hnot, hrecovery, and_comm]
  | @reopen s ep r new hr hlink hprogress hfinalizedAt _ hmove =>
    obtain ⟨hep, row, released, hcontinues, hstep, hpurchases, hcodes⟩ :=
      hmove.purchaseChange.moved_of_effect ep (by simp) (by
        rintro old new released ⟨⟩
        rfl)
    cases hstep with
    | reopen hfrom hto =>
      have hsame : ∀ row, ({ db with
          toEnrollment := s
          refunds := replaceRow Refund.eventPurchaseRefundId new db.refunds } :
            Database).HoldsReservation row ↔ db.HoldsReservation row := fun _ ↦
        Database.holdsReservation_replace hrefunds.keys hr hprogress.id hprogress.purchase fun _ ↦
          ⟨hprogress.kind, hprogress.finalizedAt, hprogress.recoveryCompletedAt⟩
      have hnot : ¬ db.HoldsReservation row := by
        rintro (hactive | ⟨-, other, hother, hother_link, -, hopen, -⟩)
        · simp [hto] at hactive
        · -- the only refund row of the purchase is finalized
          rw [eq_of_key_eq hrefunds.purchaseKeys hother hr
            (hother_link.trans (hcontinues.id.trans hlink))] at hopen
          exact hfinalizedAt hopen
      refine h.of_moved hwf hep hcontinues hpurchases hcodes (fun other _ _ ↦ hsame other) ?_ ?_
      · exact fun hholds ↦ absurd ((hsame row).1 hholds) hnot
      · simp [Database.not_holdsReservation_of_refunded _ hfrom]

end Ocg
