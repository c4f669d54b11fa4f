import Ocg.System

/-!
# Payments that are reported late

A provider reports a completed checkout session in a transaction of its own, which may have started
before a transaction that ended the checkout and committed first. The report then finds an expired
purchase whose hold, as the other transaction recorded it, still lies in the reporter's future, and
answers that there is nothing to do. In every other case the payment is accounted for.
-/

namespace Ocg

open Relational

variable {now : Timestamp} {db db' : Database}

/-- The checkout ended, at a time that the transaction starting at `now` takes to be in the future:
the hold it recorded is not over, or it recorded none. -/
def Purchase.EndedAhead (now : Timestamp) (ep : Purchase) : Prop :=
  ep.status = .expired ∧ ∀ hold ∈ ep.holdExpiresAt, now < hold

instance (now : Timestamp) (ep : Purchase) : Decidable (ep.EndedAhead now) :=
  inferInstanceAs (Decidable (_ ∧ _))

/-- What becomes of a reported payment: the purchase is completed, it already was (and may have been
refunded since), or it waits for its refund with a refund row. -/
def Database.AccountsFor (db' : Database) (ep : Purchase) : Prop :=
  ∃ new ∈ db'.purchases, new.eventPurchaseId = ep.eventPurchaseId
    ∧ (new.status = .completed
      ∨ (new = ep ∧ ep.status ∈ [PurchaseStatus.refundRequested, .refunded, .refundRecoveryPending])
      ∨ (new.status = .refundPending ∧ db'.HasRefund ep.eventPurchaseId))

/-- A report on a purchase that does not await one changes nothing. -/
theorem reconcileEventPurchaseForCheckoutSession_noop {report : CompletedSession}
    {outcome : WebhookOutcome} (hwf : db.toEnrollment.WellFormed) {ep : Purchase}
    (hep : ep ∈ db.purchases) (hsession : ep.HasSession report.ref) (hnot : ¬ ep.AwaitsReport now)
    (h : reconcileEventPurchaseForCheckoutSession now report db = .ok (outcome, db')) :
    outcome = .noop ∧ db' = db := by
  have hfind : db.purchases.find? (fun row ↦ row.HasSession report.ref) = some ep := by
    cases hfound : db.purchases.find? (fun row ↦ row.HasSession report.ref) with
    | none =>
      have := List.find?_eq_none.1 hfound ep hep
      simp [hsession] at this
    | some row =>
      have hrow := List.find?_some hfound
      rw [hwf.session_unique (List.mem_of_find?_eq_some hfound) hep (of_decide_eq_true hrow)
        hsession]
  unfold reconcileEventPurchaseForCheckoutSession settleCheckoutSession at h
  simp only [hfind, if_pos hnot, bind_eq_ok, require_eq_ok, Except.ok.injEq, Prod.exists,
    Prod.mk.injEq] at h
  obtain ⟨settled, s, ⟨-, -, -, -, rfl, rfl⟩, h⟩ := h
  simp only [Except.ok.injEq, Prod.mk.injEq] at h
  exact ⟨h.1.symm, h.2.symm⟩

theorem Purchase.not_awaitsReport {ep : Purchase} (h : ¬ ep.AwaitsReport now) :
    ep.status ∈ [PurchaseStatus.completed, .refundRequested, .refunded, .refundRecoveryPending]
      ∨ ep.EndedAhead now := by
  simp only [AwaitsReport, not_or, not_and, not_exists, not_le, List.mem_cons, List.not_mem_nil,
    or_false] at h
  obtain ⟨⟨hpending, hrefund⟩, hexpired⟩ := h
  cases hstatus : ep.status with
  | expired => exact .inr ⟨hstatus, hexpired hstatus⟩
  | pending => exact absurd hstatus hpending
  | refundPending => exact absurd hstatus hrefund
  | completed | refundRecoveryPending | refundRequested | refunded => simp

/-- **A committed report accounts for its payment exactly when the checkout did not end ahead of
it.** -/
theorem accountsFor_iff_not_endedAhead (h : db.Reached now) {start : Timestamp}
    {report : CompletedSession} {outcome : WebhookOutcome} {ep : Purchase}
    (hep : ep ∈ db.purchases) (hsession : ep.HasSession report.ref)
    (hreport : reconcileEventPurchaseForCheckoutSession start report db = .ok (outcome, db')) :
    db'.AccountsFor ep ↔ ¬ ep.EndedAhead start := by
  obtain ⟨hwf, -, hrefunds, -⟩ := h.consistent
  constructor
  · rintro ⟨new, hnew, hid, hstatus⟩ hended
    have hnot : ¬ ep.AwaitsReport start := by
      rintro (hawaits | ⟨-, hold, hmem, hle⟩)
      · simp [hended.1] at hawaits
      · exact absurd (hended.2 hold hmem) (not_lt.2 hle)
    obtain ⟨-, rfl⟩ := reconcileEventPurchaseForCheckoutSession_noop hwf hep hsession hnot hreport
    obtain rfl : new = ep := eq_of_key_eq hwf.purchaseKeys hnew hep hid
    simp [hended.1] at hstatus
  · intro hnotEnded
    rcases (reconcileEventPurchaseForCheckoutSession_spec .any hwf hrefunds trivial False.elim
      hreport).2
      ep hep hsession with ⟨hnot, rfl⟩ | ⟨new, hnew, hid, hstatus⟩
    · have hsettled := (Purchase.not_awaitsReport hnot).resolve_right hnotEnded
      refine ⟨ep, hep, rfl, ?_⟩
      simp only [List.mem_cons, List.not_mem_nil, or_false] at hsettled ⊢
      tauto
    · exact ⟨new, hnew, hid, hstatus.imp_right .inr⟩

/-- A payment that arrives after its hold expired is queued for a refund. -/
theorem accountsFor_iff_not_endedAhead_sample :
    ∃ (db db' : Database) (ep : Purchase), db.Reached (hours 1) ∧ ep ∈ db.purchases
      ∧ ep.HasSession (sampleSession "cs_1") ∧ ep.status = .expired
      ∧ reconcileEventPurchaseForCheckoutSession (hours 1) (samplePayment "cs_1" "pi_1" "ch_1") db
        = .ok (.refundQueued, db') ∧ db'.AccountsFor ep := by
  obtain ⟨db, hdb, ⟨ep, hep, hsession, hstatus, hended⟩, hreport⟩ := exists_reached sampleEnv
    [(0, sampleCheckout 7 none none),
      (1, .attachCheckoutSessionToEventPurchase 1 (sampleSession "cs_1") none true),
      (hours 1, .reconcileEventEnrollment (some 1) (some "stripe"))]
    (.sample 1 [])
    (fun db ↦ (∃ ep ∈ db.purchases, ep.HasSession (sampleSession "cs_1") ∧ ep.status = .expired
        ∧ ¬ ep.EndedAhead (hours 1))
      ∧ (reconcileEventPurchaseForCheckoutSession (hours 1)
        (samplePayment "cs_1" "pi_1" "ch_1") db).toOption.map Prod.fst = some .refundQueued)
    (by decide) (by decide +kernel)
  cases hresult : reconcileEventPurchaseForCheckoutSession (hours 1)
      (samplePayment "cs_1" "pi_1" "ch_1") db with
  | error e => simp [hresult, Except.toOption] at hreport
  | ok result =>
    obtain ⟨outcome, db'⟩ := result
    obtain rfl : outcome = .refundQueued := by simpa [hresult, Except.toOption] using hreport
    exact ⟨db, db', ep, hdb, hep, hsession, hstatus, hresult,
      (accountsFor_iff_not_endedAhead hdb hep hsession hresult).2 hended⟩

/-- The report started before the user's cancellation and got the lock after it. -/
theorem payment_lost :
    ¬ ∀ (now start : Timestamp) (db db' : Database) (report : CompletedSession)
      (outcome : WebhookOutcome), db.Reached now → ∀ ep ∈ db.purchases, ep.HasSession report.ref →
      reconcileEventPurchaseForCheckoutSession start report db = .ok (outcome, db') →
      db'.AccountsFor ep := by
  intro hall
  obtain ⟨db, hdb, ⟨ep, hep, hsession, hended⟩, hreport⟩ := exists_reached sampleEnv
    [(0, sampleCheckout 7 none none),
      (1, .attachCheckoutSessionToEventPurchase 1 (sampleSession "cs_1") none true),
      (3, .cancelEventCheckout 1 7 (some "stripe"))]
    (.sample 1 [])
    (fun db ↦ (∃ ep ∈ db.purchases, ep.HasSession (sampleSession "cs_1") ∧ ep.EndedAhead 2)
      ∧ (reconcileEventPurchaseForCheckoutSession 2
        (samplePayment "cs_1" "pi_1" "ch_1") db).toOption = some (.noop, db))
    (by decide) (by decide +kernel)
  have hresult : reconcileEventPurchaseForCheckoutSession 2
      (samplePayment "cs_1" "pi_1" "ch_1") db = .ok (.noop, db) := by
    cases hresult : reconcileEventPurchaseForCheckoutSession 2
        (samplePayment "cs_1" "pi_1" "ch_1") db with
    | error e => simp [hresult, Except.toOption] at hreport
    | ok result => simpa [hresult, Except.toOption] using hreport
  obtain ⟨new, hnew, hid, hstatus⟩ := hall _ _ _ _ _ _ hdb ep hep hsession hresult
  obtain rfl : new = ep :=
    eq_of_key_eq hdb.consistent.wellFormed.purchaseKeys hnew hep hid
  simp [hended.1] at hstatus

end Ocg
