import Ocg.History.ProviderComplete
import Ocg.Provider.RefundProcess

/-!
# Late pending results

A row that the provider has confirmed stays in processing until the worker that holds its claim
finalizes it. Webhooks record results under the claim and the key that they loaded, so a pending
result from before the confirmation may arrive after it, addressed to the claim that the row still
has. It is ignored for a row that waits as provider-succeeded, but not for one in processing: it
takes the claim away, and its holder cannot finalize any more.

Nothing else takes the claim away but what ends it: a report of its holder, a failure at the
provider, or its age (`Operation.EndsClaim`).
-/

namespace Ocg

open Relational

variable {now : Timestamp} {db db' : Database} {r : Refund} {claim : Uuid}

/-- The provider confirmed the refund, and a worker holds its claim. -/
structure Refund.IsHeld (claim : Uuid) (r : Refund) : Prop where
  confirmed : r.providerRefundedAt ≠ none
  claim : r.claimId = some claim
  processing : r.status = .processing

/-- A pending result that the row is not protected from: it is about the current attempt of a
confirmed row that is neither finalized nor provider-succeeded nor terminal. -/
def RefundResult.IsLate (result : RefundResult) (db : Database) : Prop :=
  ∃ r ∈ db.refunds, r.providerRefundedAt ≠ none
    ∧ r.status ∉ [RefundStatus.finalized, .providerSucceeded] ∧ ¬ r.IsTerminal ∧ result.Addresses r

instance (result : RefundResult) (db : Database) : Decidable (result.IsLate db) :=
  inferInstanceAs (Decidable (∃ r ∈ db.refunds, _))

/-- The operation records such a result. -/
def Operation.RecordsLate : Operation → Database → Prop
  | .recordEventPurchaseRefundPending result, db => result.IsLate db
  | _, _ => False

/-- The operation ends the claim on the refund: its holder reports a failure or finalizes, the
refund has failed at the provider, or the claim is stale. -/
def Operation.EndsClaim (now : Timestamp) (refund claim : Uuid) : Operation → Database → Prop
  | .recordEventPurchaseRefundRetryableFailure id claimId _, _ => id = refund ∧ claimId = claim
  | .finalizeEventPurchaseRefund id claimId _ _, _ => id = refund ∧ claimId = some claim
  | .recordEventPurchaseRefundTerminalFailed result _, db =>
    ∃ r ∈ db.refunds, r.eventPurchaseRefundId = refund ∧ result.Addresses r
  | .requeueStaleEventPurchaseRefundClaims, db =>
    ∃ r ∈ db.refunds, r.eventPurchaseRefundId = refund ∧ r.HasStaleClaim now
  | _, _ => False

/-! ## Pending results -/

theorem recordEventPurchaseRefundPending_retains {result : RefundResult}
    (hdb : db.RefundsConsistent)
    (hr : r ∈ db.refunds) (hconfirmed : r.providerRefundedAt ≠ none) (hlate : ¬ result.IsLate db)
    (h : recordEventPurchaseRefundPending now result db = .ok db') : r ∈ db'.refunds := by
  obtain ⟨new, hnew, rfl | hwrite⟩ := (recordEventPurchaseRefundPending_writes h).exists_row hdb hr
  · exact hnew
  · cases hwrite with
    | pending haccepts hopen hterminal =>
      exact absurd ⟨r, hr, hconfirmed, hopen, hterminal, haccepts.addresses⟩ hlate

/-- A late one takes the row that it is about from whoever holds it. -/
theorem recordEventPurchaseRefundPending_takes {result : RefundResult} (hdb : db.RefundsConsistent)
    (hlate : result.IsLate db) (h : recordEventPurchaseRefundPending now result db = .ok db') :
    ∃ row ∈ db'.refunds, row.providerRefundedAt ≠ none ∧ row.claimId = none
      ∧ row.status = .providerPending := by
  obtain ⟨r, hr, hconfirmed, hunsettled, hterminal, hid, -, hkey⟩ := hlate
  have hselected := (find?_key_eq_some hdb.keys).2 ⟨hr, hid⟩
  simp only [recordEventPurchaseRefundPending, loadRefundForResult, bind_eq_ok, Prod.exists] at h
  obtain ⟨old, key, providerRefundId, ⟨-, -, -, -, hload⟩, h⟩ := h
  rw [hselected] at hload
  simp only [bind_eq_ok, Except.ok.injEq, Prod.mk.injEq] at hload
  obtain ⟨-, -, rfl, rfl, -⟩ := hload
  rw [hkey, Option.getD_some, if_neg (not_not.2 rfl), bind_eq_ok] at h
  obtain ⟨-, -, h⟩ := h
  rw [if_neg (not_or.2 ⟨hunsettled, hterminal⟩)] at h
  obtain ⟨-, -, rfl⟩ := writeRefund_eq_ok.1 h
  exact ⟨_, new_mem_replaceRow hr rfl, hconfirmed, rfl, rfl⟩

/-! ## Every operation -/

theorem Refund.IsHeld.confirm {providerRefundId : String} (h : r.IsHeld claim) :
    (r.confirm now providerRefundId).IsHeld claim where
  confirmed := by
    cases hconfirmed : r.providerRefundedAt with
    | none => exact absurd hconfirmed h.confirmed
    | some t => simp [Refund.confirm, hconfirmed]
  claim := h.claim
  processing := if_pos (by simp [h.claim])

theorem RefundWrite.held {op : Operation} {new : Refund} (h : RefundWrite now op r new)
    (hr : r ∈ db.refunds) (hheld : r.IsHeld claim)
    (hends : ¬ op.EndsClaim now r.eventPurchaseRefundId claim db) (hlate : ¬ op.RecordsLate db) :
    new.IsHeld claim := by
  cases h with
  | claim _ hdue =>
    obtain ⟨-, -, hstatus | ⟨hstatus, -⟩ | ⟨hstatus, -⟩⟩ := hdue
    all_goals cases hheld.processing.symm.trans hstatus
  | pending haccepts hopen hterminal =>
    exact absurd ⟨r, hr, hheld.confirmed, hopen, hterminal, haccepts.addresses⟩ hlate
  | fail _ hid hclaim _ =>
    exact absurd ⟨hid.symm, Option.some.inj (hclaim.symm.trans hheld.claim)⟩ hends
  | confirm _ _ _ => exact hheld.confirm
  | failTerminally _ haccepts => exact absurd ⟨r, hr, rfl, haccepts.addresses⟩ hends
  | finalize hid hclaim _ _ => exact absurd ⟨hid.symm, hclaim.symm.trans hheld.claim⟩ hends
  | recover _ hterminal => cases hheld.processing.symm.trans hterminal.1
  | requeue hstatus _ =>
    rw [hheld.processing] at hstatus
    exact absurd hstatus (by decide)
  | release hstale => exact absurd ⟨r, hr, rfl, hstale⟩ hends

/-- **An operation that neither ends the claim nor records a late result leaves it with its
holder.** -/
theorem Operation.held {env : Env} {op : Operation} (hdb : db.Consistent) (hr : r ∈ db.refunds)
    (hheld : r.IsHeld claim) (hends : ¬ op.EndsClaim now r.eventPurchaseRefundId claim db)
    (hlate : ¬ op.RecordsLate db) (h : op.run env now db = .ok db') :
    ∃ new ∈ db'.refunds, new.SameTerms r ∧ new.IsHeld claim := by
  obtain ⟨new, hnew, rfl | hwrite⟩ := (op.writesRefunds h).exists_row hdb.refunds hr
  · exact ⟨new, hnew, .refl new, hheld⟩
  · exact ⟨new, hnew, hwrite.sameTerms, hwrite.held hr hheld hends hlate⟩

/-! ## Runs -/

/-- One committed transaction while the claim on the refund lasts, in which no result is late. -/
def HoldingStep (refund claim : Uuid) (now : Timestamp) (db db' : Database) : Prop :=
  ∃ (env : Env) (op : Operation), ¬ op.EndsClaim now refund claim db ∧ ¬ op.RecordsLate db
    ∧ op.run env now db = .ok db'

theorem finalizeEventPurchaseRefund_of_held {ep : Purchase} {provider : Option String}
    (hdb : db.Consistent) (hr : r ∈ db.refunds) (hheld : r.IsHeld claim) (hep : ep ∈ db.purchases)
    (hlink : ep.eventPurchaseId = r.eventPurchaseId) :
    finalizeEventPurchaseRefund now r.eventPurchaseRefundId (some claim) true provider db
      = (reconcile now (some ep.eventTicketTypeId) provider db).bind
        (settleRefund now (some claim) r ep provider) := by
  have hfind := (find?_key_eq_some hdb.refunds.keys).2 ⟨hr, rfl⟩
  have hpurchase := (find?_key_eq_some hdb.wellFormed.purchaseKeys).2 ⟨hep, hlink⟩
  have hopen : r.status ≠ .finalized := by
    rw [hheld.processing]
    decide
  simp [finalizeEventPurchaseRefund, hfind, hpurchase, hopen, hheld.claim, hheld.confirmed, require]
  rfl

/-- **A confirmed refund stays with the worker that finalizes it**, as long as no pending result is
late: whatever else commits, in any order of start times, the row keeps its confirmation and its
claim, so its holder's finalization does the local work. A pending result that commits writes no
confirmed row, unless it is late: then it takes one back to provider-pending. -/
theorem confirmed_refund_kept {t : Timestamp} (h : db.Reached now) (hr : r ∈ db.refunds)
    (hheld : r.IsHeld claim)
    (hlater : Continues (HoldingStep r.eventPurchaseRefundId claim) AnyOrder now db t db') :
    (∃ new ∈ db'.refunds, new.SameTerms r ∧ new.IsHeld claim
      ∧ ∃ ep ∈ db'.purchases, ep.eventPurchaseId = new.eventPurchaseId ∧ ∀ t provider,
        finalizeEventPurchaseRefund t new.eventPurchaseRefundId (some claim) true provider db'
          = (reconcile t (some ep.eventTicketTypeId) provider db').bind
            (settleRefund t (some claim) new ep provider))
    ∧ ∀ t result db'', recordEventPurchaseRefundPending t result db' = .ok db'' →
      (¬ result.IsLate db' →
        ∀ row ∈ db'.refunds, row.providerRefundedAt ≠ none → row ∈ db''.refunds)
      ∧ (result.IsLate db' → ∃ row ∈ db''.refunds, row.providerRefundedAt ≠ none
        ∧ row.claimId = none ∧ row.status = .providerPending) := by
  have hlast : db'.Reached t ∧ ∃ new ∈ db'.refunds, new.SameTerms r ∧ new.IsHeld claim := by
    refine hlater.invariant
      (P := fun t db ↦ db.Reached t ∧ ∃ new ∈ db.refunds, new.SameTerms r ∧ new.IsHeld claim)
      ⟨h, r, hr, .refl r, hheld⟩ ?_ ?_
    · rintro t t' s - ⟨hs, hkept⟩
      exact ⟨Reachable.wait hs trivial, hkept⟩
    · rintro t s s' ⟨hs, row, hrow, hterms, hrowHeld⟩ ⟨env, op, hends, hlate, hrun⟩
      rw [← hterms.id] at hends
      obtain ⟨new, hnew, hnewTerms, hnewHeld⟩ :=
        op.held hs.consistent hrow hrowHeld hends hlate hrun
      exact ⟨Reachable.step hs ⟨env, op, hrun⟩, new, hnew, hterms.trans hnewTerms, hnewHeld⟩
  obtain ⟨hreached, new, hnew, hterms, hnewHeld⟩ := hlast
  have hdb' := hreached.consistent
  obtain ⟨ep, hep, hlink, -⟩ := hdb'.refunds.owner new hnew
  refine ⟨⟨new, hnew, hterms, hnewHeld, ep, hep, hlink, fun t provider ↦ ?_⟩,
    fun t result db'' hrun ↦ ⟨fun hlate row hrow hconfirmed ↦ ?_, fun hlate ↦ ?_⟩⟩
  · exact finalizeEventPurchaseRefund_of_held hdb' hnew hnewHeld hep hlink
  · exact recordEventPurchaseRefundPending_retains hdb'.refunds hrow hconfirmed hlate hrun
  · exact recordEventPurchaseRefundPending_takes hdb'.refunds hlate hrun

/-! ### A late result -/

/-- The pending result takes the confirmed row of the sample from its worker, which cannot
finalize. -/
def Operation.Downgrades (pending : Operation) (db : Database) : Prop :=
  ∃ db' ∈ (pending.run sampleEnv 6 db).toOption,
    (∃ r ∈ db'.refunds, r.providerRefundedAt ≠ none ∧ r.claimId = none
      ∧ r.status = .providerPending)
    ∧ (Ocg.finalizeEventPurchaseRefund 7 1 (some 2) true (some "stripe") db').toOption.isNone = true

instance (pending : Operation) (db : Database) : Decidable (pending.Downgrades db) := by
  unfold Operation.Downgrades
  infer_instance

/-- The worker's success is recorded, and then the pending result. -/
def Operation.DowngradesConfirmed (pending : Operation) (db₀ : Database) : Prop :=
  ∃ db ∈ (Operation.run sampleEnv 5 (.recordEventPurchaseRefundSucceeded
      ⟨1, some "event-purchase-refund-1", some "re_1", some 2⟩) db₀).toOption,
    (∃ r ∈ db.refunds, r.providerRefundedAt ≠ none ∧ r.claimId = some 2 ∧ r.status = .processing)
    ∧ pending.Downgrades db

instance (pending : Operation) (db₀ : Database) : Decidable (pending.DowngradesConfirmed db₀) := by
  unfold Operation.DowngradesConfirmed
  infer_instance

/-- A webhook loads the claimed row for an event that reports the refund as pending. The worker
records its success first. The webhook's result then takes the claim away, and the worker's
finalization raises. -/
theorem confirmed_refund_downgraded : ∃ (now : Timestamp) (db₀ : Database) (loaded : Refund)
    (pending : Operation), db₀.Reached now ∧ loaded ∈ db₀.refunds
      ∧ loaded.persist ⟨"re_1", .pending⟩ = some pending
      ∧ ∃ db, Operation.run sampleEnv 5 (.recordEventPurchaseRefundSucceeded
          ⟨1, some "event-purchase-refund-1", some "re_1", some 2⟩) db₀ = .ok db
        ∧ (∃ r ∈ db.refunds, r.IsHeld 2)
        ∧ ∃ db', Operation.run sampleEnv 6 pending db = .ok db'
          ∧ (∃ r ∈ db'.refunds, r.providerRefundedAt ≠ none ∧ r.claimId = none
            ∧ r.status = .providerPending)
          ∧ ∀ db'', finalizeEventPurchaseRefund 7 1 (some 2) true (some "stripe") db'
            ≠ .ok db'' := by
  obtain ⟨db₀, hreached, loaded, hloaded, pending, hpending, db, hrecorded, hheld, db', hlate, hrow,
    hraised⟩ :=
    exists_reached sampleEnv (confirmedRefundScript.take 5) (.sample 1 []) (fun db₀ ↦
      ∃ loaded ∈ db₀.refunds, ∃ pending ∈ loaded.persist ⟨"re_1", .pending⟩,
        pending.DowngradesConfirmed db₀) (by decide) (by decide +kernel)
  obtain ⟨r, hr, hconfirmed, hclaim, hprocessing⟩ := hheld
  exact ⟨_, db₀, loaded, pending, hreached, hloaded, hpending, db, eq_ok_of_mem_toOption hrecorded,
    ⟨r, hr, hconfirmed, hclaim, hprocessing⟩, db', eq_ok_of_mem_toOption hlate, hrow,
    fun db'' hfinal ↦ by simp [hfinal, Except.toOption] at hraised⟩

/-- After a repeated success the worker can still finalize the confirmed refund of the sample. -/
theorem confirmed_refund_kept_sample : ∃ db' : Database, ∃ r ∈ db'.refunds, r.IsHeld 2
    ∧ ∃ ep ∈ db'.purchases, ep.eventPurchaseId = r.eventPurchaseId ∧ ∀ t provider,
      finalizeEventPurchaseRefund t r.eventPurchaseRefundId (some 2) true provider db'
        = (reconcile t (some ep.eventTicketTypeId) provider db').bind
          (settleRefund t (some 2) r ep provider) := by
  obtain ⟨db, hdb, r, hr, hconfirmed, hclaim, hprocessing, hid, db', hagain⟩ :=
    exists_reached sampleEnv confirmedRefundScript (.sample 1 []) (fun db ↦ ∃ r ∈ db.refunds,
      r.providerRefundedAt ≠ none ∧ r.claimId = some 2 ∧ r.status = .processing
      ∧ r.eventPurchaseRefundId = 1 ∧ ∃ db' ∈ (Operation.run sampleEnv 6
        (.recordEventPurchaseRefundSucceeded
          ⟨1, some "event-purchase-refund-1", some "re_1", some 2⟩) db).toOption, True)
      (by decide) (by decide +kernel)
  have hstep : HoldingStep r.eventPurchaseRefundId 2 6 db db' :=
    ⟨sampleEnv, _, id, id, eq_ok_of_mem_toOption hagain.1⟩
  obtain ⟨⟨new, hnew, -, hheld, hfinal⟩, -⟩ := confirmed_refund_kept hdb hr
    ⟨hconfirmed, hclaim, hprocessing⟩ (.step (.wait .refl trivial) hstep)
  exact ⟨db', new, hnew, hheld, hfinal⟩

end Ocg
