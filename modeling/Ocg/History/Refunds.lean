import Ocg.System

/-!
# The life of a refund

A purchase and its refund row stay at the same stage through every history, and a refund row only
moves forward: its provider refund and its finalization are set once, and a terminal failure ends in
itself or in one recovery.
-/

namespace Ocg

open Relational

variable {now later : Timestamp} {db db' : Database}

/-- The refund rows of a purchase. -/
def Database.refundCount (db : Database) (purchase : Uuid) : ℕ :=
  db.refunds.countP fun r ↦ r.eventPurchaseId = purchase

namespace Database.RefundsConsistent

variable (h : db.RefundsConsistent) (hwf : db.toEnrollment.WellFormed)

include h in
theorem refundCount_eq_one {r : Refund} (hr : r ∈ db.refunds) :
    db.refundCount r.eventPurchaseId = 1 := by
  refine le_antisymm ?_ (List.countP_pos_iff.2 ⟨r, hr, decide_eq_true rfl⟩)
  have hnodup : (db.refunds.filter fun row ↦ row.eventPurchaseId = r.eventPurchaseId).Nodup :=
    h.keys.of_map.filter _
  rw [refundCount, List.countP_eq_length_filter, ← List.toFinset_card_of_nodup hnodup,
    Finset.card_le_one]
  intro row hrow row' hrow'
  simp only [List.mem_toFinset, List.mem_filter, decide_eq_true_eq] at hrow hrow'
  exact eq_of_key_eq h.purchaseKeys hrow.1 hrow'.1 (hrow.2.trans hrow'.2.symm)

include h hwf in
theorem refundPending {ep : Purchase} (hep : ep ∈ db.purchases)
    (hstatus : ep.status = .refundPending) :
    db.refundCount ep.eventPurchaseId = 1
      ∧ ∀ r ∈ db.refunds, r.eventPurchaseId = ep.eventPurchaseId → r.finalizedAt = none := by
  obtain ⟨row, hrow, hlink⟩ := h.queued ep hep (by simp [hstatus])
  refine ⟨hlink ▸ h.refundCount_eq_one hrow, fun r hr hr_link ↦ ?_⟩
  by_contra hne
  have := (h.matches_of_link hwf hr hep hr_link.symm).finalized.1 hne
  simp [hstatus] at this

include h in
theorem finalized {r : Refund} (hr : r ∈ db.refunds) (hne : r.finalizedAt ≠ none) :
    ∃ ep ∈ db.purchases, ep.eventPurchaseId = r.eventPurchaseId
      ∧ (ep.status = .refunded ∨ ep.status = .refundRecoveryPending) := by
  obtain ⟨ep, hep, hlink, hmatches⟩ := h.owner r hr
  exact ⟨ep, hep, hlink, hmatches.finalized.1 hne⟩

include h hwf in
theorem refundRecoveryPending {ep : Purchase} (hep : ep ∈ db.purchases)
    (hstatus : ep.status = .refundRecoveryPending) :
    db.refundCount ep.eventPurchaseId = 1 ∧ ∀ r ∈ db.refunds,
      r.eventPurchaseId = ep.eventPurchaseId → r.IsTerminal ∧ r.recoveryCompletedAt = none := by
  obtain ⟨row, hrow, hlink⟩ := h.queued ep hep (by simp [hstatus])
  refine ⟨hlink ▸ h.refundCount_eq_one hrow, fun r hr hr_link ↦ ?_⟩
  have hmatches := h.matches_of_link hwf hr hep hr_link.symm
  have hopen : r.recoveryCompletedAt = none := by
    by_contra hne
    have := hmatches.recovered hne
    simp [hstatus] at this
  exact ⟨hmatches.terminal_of_recovery hstatus, hopen⟩

include h hwf in
theorem refunded {ep : Purchase} (hep : ep ∈ db.purchases) (hstatus : ep.status = .refunded)
    {r : Refund} (hr : r ∈ db.refunds) (hlink : r.eventPurchaseId = ep.eventPurchaseId) :
    r.finalizedAt ≠ none :=
  (h.matches_of_link hwf hr hep hlink.symm).finalized.2 (.inl hstatus)

end Database.RefundsConsistent

/-- **Refund rows only move forward.** -/
theorem Database.ReachedFrom.refund_continues {db₀ : Database} (h : db₀.ReachedFrom now db)
    (hdb₀ : db₀.Consistent) {r : Refund} (hr : r ∈ db₀.refunds) :
    ∃ new ∈ db.refunds, new.Continues r := by
  refine h.preserved (P := fun db ↦ ∃ new ∈ db.refunds, new.Continues r) hdb₀ ⟨r, hr, .refl r⟩ ?_
  rintro t u v hu ⟨row, hrow, hcontinues⟩ hmove
  obtain ⟨new, hnew, hnext⟩ := hmove.refund_continues hu.refunds hrow
  exact ⟨new, hnew, hcontinues.trans hnext⟩

/-- **Refund lifecycle.** In every reached state purchases and refund rows agree, and in every state
that follows each row is where it was or further on. -/
theorem refund_lifecycle (h : db.Reached now) :
    (∀ ep ∈ db.purchases, ep.status = .refundPending →
        db.refundCount ep.eventPurchaseId = 1
          ∧ ∀ r ∈ db.refunds, r.eventPurchaseId = ep.eventPurchaseId → r.finalizedAt = none)
      ∧ (∀ r ∈ db.refunds, r.finalizedAt ≠ none → ∃ ep ∈ db.purchases,
          ep.eventPurchaseId = r.eventPurchaseId
            ∧ (ep.status = .refunded ∨ ep.status = .refundRecoveryPending))
      ∧ (∀ ep ∈ db.purchases, ep.status = .refundRecoveryPending →
        db.refundCount ep.eventPurchaseId = 1 ∧ ∀ r ∈ db.refunds,
          r.eventPurchaseId = ep.eventPurchaseId → r.IsTerminal ∧ r.recoveryCompletedAt = none)
      ∧ (∀ r ∈ db.refunds, r.finalizedAt = none → r.recoveryCompletedAt = none →
          ∀ ep ∈ db.purchases, r.eventPurchaseId = ep.eventPurchaseId → ep.status ≠ .refunded)
      ∧ ∀ later db', db.ReachedFrom later db' → ∀ r ∈ db.refunds, ∃ new ∈ db'.refunds,
          new.eventPurchaseRefundId = r.eventPurchaseRefundId
            ∧ (r.providerRefundId ≠ none → new.providerRefundId = r.providerRefundId)
            ∧ (r.finalizedAt ≠ none → new.finalizedAt = r.finalizedAt)
            ∧ (r.IsTerminal → new = r ∨ (r.recoveryCompletedAt = none
              ∧ ∃ t actor evidence, new = r.recover t actor evidence)) := by
  have hdb := h.consistent
  refine ⟨fun ep hep ↦ hdb.refunds.refundPending hdb.wellFormed hep, fun r hr ↦
    hdb.refunds.finalized hr, fun ep hep ↦ hdb.refunds.refundRecoveryPending hdb.wellFormed hep,
    fun r hr hopen _ ep hep hlink hstatus ↦ ?_, fun later db' hfrom r hr ↦ ?_⟩
  · exact hdb.refunds.refunded hdb.wellFormed hep hstatus hr hlink hopen
  · obtain ⟨new, hnew, hcontinues⟩ := hfrom.refund_continues hdb hr
    exact ⟨new, hnew, hcontinues.id, hcontinues.providerRefundId, hcontinues.finalizedAt,
      hcontinues.terminal⟩

/-- The provider takes back the finalized refund of a canceled event. -/
theorem refund_lifecycle_sample :
    ∃ db : Database, db.Reached 7 ∧ ∃ ep ∈ db.purchases, ep.status = .refundRecoveryPending
      ∧ db.refundCount ep.eventPurchaseId = 1 := by
  obtain ⟨db, hdb, ep, hep, hstatus⟩ := exists_reached sampleEnv
    [(0, sampleCheckout 7 none none),
      (1, .attachCheckoutSessionToEventPurchase 1 (sampleSession "cs_1") none true),
      (2, .reconcileEventPurchaseForCheckoutSession (samplePayment "cs_1" "pi_1" "ch_1")),
      (3, .cancelEvent 2 1),
      (4, .claimEventPurchaseRefund (fun _ ↦ false) "stripe"),
      (5, .recordEventPurchaseRefundSucceeded
        ⟨1, some "event-purchase-refund-1", some "re_1", some 2⟩),
      (6, .finalizeEventPurchaseRefund 1 (some 2) true (some "stripe")),
      (7, .recordEventPurchaseRefundTerminalFailed
        ⟨1, some "event-purchase-refund-1", some "re_1", none⟩ none)]
    (.sample 1 []) (fun db ↦ ∃ ep ∈ db.purchases, ep.status = .refundRecoveryPending)
    (by decide) (by decide +kernel)
  exact ⟨db, hdb, ep, hep, hstatus, ((refund_lifecycle hdb).2.2.1 ep hep hstatus).1⟩

end Ocg
