import Ocg.Refinement.RefundWrites

/-!
# Provider-complete refunds stay claimable

A refund that the provider confirmed has only local work left. The claim selects by status, though,
so the row must not leave the two statuses that count no attempt: held by a worker, or waiting as
provider-succeeded. Every operation keeps that but two: a retryable failure and a pending result
recorded on the claim of a confirmed refund put the row back among those that spend an attempt.
-/

namespace Ocg

open Relational

variable {now : Timestamp} {db db' : Database}

/-- The provider confirmed the refund, and it is neither finalized nor failed for good. -/
def Refund.IsProviderComplete (r : Refund) : Prop :=
  r.providerRefundedAt ≠ none ∧ r.finalizedAt = none ∧ ¬ r.IsTerminal

instance (r : Refund) : Decidable r.IsProviderComplete :=
  inferInstanceAs (Decidable (_ ∧ _ ∧ _))

/-- A provider-complete row is held by a worker, or waits for one. -/
def Refund.StaysClaimable (r : Refund) : Prop :=
  r.IsProviderComplete → r.status = .processing ∨ r.status = .providerSucceeded

def Database.StaysClaimable (db : Database) : Prop := ∀ r ∈ db.refunds, r.StaysClaimable

/-- A provider-complete row without a claim is selected from its due time on, whatever its attempts,
and claiming it counts none. -/
theorem Refund.StaysClaimable.isClaimable {r : Refund} (h : r.StaysClaimable) (hvalid : r.Valid)
    (hcomplete : r.IsProviderComplete) (hclaim : r.claimId = none) :
    (∀ t, r.nextAttemptAt ≤ t → r.IsClaimable t r.paymentProviderId)
      ∧ ∀ t claim, (r.claim t claim).attemptCount = r.attemptCount := by
  have hstatus : r.status = .providerSucceeded := by
    refine (h hcomplete).resolve_left fun hprocessing ↦ ?_
    obtain ⟨-, hne, -⟩ := hvalid.claim.resolve_right fun hfree ↦ hfree.1 hprocessing
    exact hne hclaim
  exact ⟨fun t ht ↦ ⟨rfl, ht, .inl hstatus⟩, fun t claim ↦ if_pos hstatus⟩

/-! ## Careful histories -/

/-- The result is about this attempt of the row. -/
def RefundResult.Addresses (result : RefundResult) (r : Refund) : Prop :=
  r.eventPurchaseRefundId = result.eventPurchaseRefundId ∧ r.claimId = result.expectedClaimId
    ∧ result.expectedIdempotencyKey = some r.idempotencyKey

instance (result : RefundResult) (r : Refund) : Decidable (result.Addresses r) :=
  inferInstanceAs (Decidable (_ ∧ _ ∧ _))

theorem Refund.Accepts.addresses {r : Refund} {result : RefundResult} {providerRefundId : String}
    (h : r.Accepts result providerRefundId) : result.Addresses r :=
  ⟨h.id, h.claim, h.key⟩

/-- The operation reports no failure and no pending result on the claim of a confirmed refund. -/
def Operation.SparesConfirmed : Operation → Database → Prop
  | .recordEventPurchaseRefundRetryableFailure refund claim _, db =>
    ∀ r ∈ db.refunds, r.eventPurchaseRefundId = refund → r.claimId = some claim →
      r.providerRefundedAt = none
  | .recordEventPurchaseRefundPending result, db =>
    ∀ r ∈ db.refunds, r.status = .processing → r.providerRefundedAt ≠ none →
      ¬ result.Addresses r
  | _, _ => True

instance (op : Operation) (db : Database) : Decidable (op.SparesConfirmed db) := by
  unfold Operation.SparesConfirmed
  split <;> infer_instance

/-- One committed transaction of an operation that spares confirmed refunds. -/
def SparingStep (now : Timestamp) (db db' : Database) : Prop :=
  ∃ (env : Env) (op : Operation), op.SparesConfirmed db ∧ op.run env now db = .ok db'

/-- A state of the event in a history of such operations. -/
def Database.ReachedSparing (now : Timestamp) (db : Database) : Prop :=
  Reachable SparingStep AnyOrder Database.Fresh now db

theorem Database.ReachedSparing.reached (h : db.ReachedSparing now) : db.Reached now :=
  Reachable.mono h (fun _ _ ↦ id) fun _ _ _ ⟨env, op, _, hrun⟩ ↦ ⟨env, op, hrun⟩

theorem RefundWrite.staysClaimable {op : Operation} {old new : Refund}
    (h : RefundWrite now op old new) (hold : old ∈ db.refunds) (hstays : old.StaysClaimable)
    (hspares : op.SparesConfirmed db) : new.StaysClaimable := by
  cases h with
  | claim _ _ => exact fun _ ↦ .inl rfl
  | pending haccepts hopen hterminal =>
    rintro ⟨hrefunded, hunfinalized, -⟩
    -- the row was provider-complete already, so it was processing
    obtain hprocessing | hsucceeded := hstays ⟨hrefunded, hunfinalized, hterminal⟩
    · exact absurd haccepts.addresses (hspares _ hold hprocessing hrefunded)
    · simp [hsucceeded] at hopen
  | fail _ hid hclaim _ =>
    exact fun hcomplete ↦ absurd (hspares _ hold hid hclaim) hcomplete.1
  | confirm _ _ _ =>
    rintro ⟨-, hopen, -⟩
    have hopen' : old.finalizedAt = none := hopen
    by_cases hclaim : old.claimId = none
    · exact .inr (by simp [Refund.confirm, hclaim, hopen'])
    · exact .inl (by simp [Refund.confirm, hclaim])
  | failTerminally _ _ => exact fun hcomplete ↦ absurd rfl hcomplete.1
  | finalize _ _ _ _ => exact fun hcomplete ↦ by simpa [Refund.finalize] using hcomplete.2.1
  | recover _ _ => exact fun hcomplete ↦ by simpa [Refund.recover] using hcomplete.2.1
  | requeue hstatus hterminal =>
    rintro ⟨hrefunded, hopen, -⟩
    have hlive : ¬ old.IsTerminal := fun hterminal' ↦ by simp [hterminal'.2] at hterminal
    obtain hprocessing | hsucceeded := hstays ⟨hrefunded, hopen, hlive⟩
    · simp [hprocessing] at hstatus
    · simp [hsucceeded] at hstatus
  | release _ =>
    rintro ⟨hrefunded, -⟩
    have hrefunded' : old.providerRefundedAt ≠ none := hrefunded
    exact .inr (if_neg hrefunded')

/-- **No other operation makes a provider-complete row spend an attempt.** -/
theorem Operation.staysClaimable {env : Env} {op : Operation} (hdb : db.StaysClaimable)
    (hspares : op.SparesConfirmed db) (h : op.run env now db = .ok db') : db'.StaysClaimable := by
  intro r hr
  obtain hr | ⟨old, hold, hwrite⟩ | hnew := (op.writesRefunds h).rows r hr
  · exact hdb r hr
  · exact hwrite.staysClaimable hold (hdb old hold) hspares
  · exact fun hcomplete ↦ absurd hnew.unconfirmed hcomplete.1

theorem Database.ReachedSparing.staysClaimable (h : db.ReachedSparing now) :
    db.StaysClaimable := by
  refine Reachable.stable h (fun db hfresh r hr ↦ ?_) ?_
  · rw [hfresh.refunds] at hr
    exact absurd hr List.not_mem_nil
  · rintro t db db' hdb ⟨env, op, hspares, hrun⟩
    exact op.staysClaimable hdb hspares hrun

/-- **Provider-complete refunds stay claimable** in every history of operations that spare them. -/
theorem provider_complete_claimable (h : db.ReachedSparing now) {r : Refund}
    (hr : r ∈ db.refunds) (hrefunded : r.providerRefundedAt ≠ none) (hopen : r.finalizedAt = none)
    (hterminal : ¬ r.IsTerminal) (hclaim : r.claimId = none) :
    (∀ t, r.nextAttemptAt ≤ t → r.IsClaimable t r.paymentProviderId)
      ∧ ∀ t claim, (r.claim t claim).attemptCount = r.attemptCount :=
  (h.staysClaimable r hr).isClaimable (h.reached.consistent.refunds.sound r hr).valid
    ⟨hrefunded, hopen, hterminal⟩ hclaim

/-- A paid sample purchase whose event is canceled, up to the provider's confirmation of the refund
while a worker holds the claim. -/
def confirmedRefundScript : List (Timestamp × Operation) :=
  [(0, sampleCheckout 7 none none),
    (1, .attachCheckoutSessionToEventPurchase 1 (sampleSession "cs_1") none true),
    (2, .reconcileEventPurchaseForCheckoutSession (samplePayment "cs_1" "pi_1" "ch_1")),
    (3, .cancelEvent 2 1),
    (4, .claimEventPurchaseRefund (fun _ ↦ false) "stripe"),
    (5, .recordEventPurchaseRefundSucceeded
      ⟨1, some "event-purchase-refund-1", some "re_1", some 2⟩)]

/-- The script with the check that every operation spares confirmed refunds. -/
def Operation.runSparing (env : Env) (now : Timestamp) (op : Operation) (db : Database) :
    Except DbError Database := do
  require (op.SparesConfirmed db) (.raised "the operation does not spare a confirmed refund")
  op.run env now db

theorem exists_reachedSparing (env : Env) (script : List (Timestamp × Operation)) (db₀ : Database)
    (P : Database → Prop) (hfresh : db₀.Fresh)
    (h : Replays (Operation.runSparing env) script db₀ P) :
    ∃ db : Database, db.ReachedSparing ((script.map Prod.fst).getLastD 0) ∧ P db := by
  obtain ⟨db, hscript, hP⟩ := exists_of_replays h
  refine ⟨db, reachable_of_replay (fun _ op _ _ hrun ↦ ?_) (.start hfresh)
    (List.pairwise_of_forall fun _ _ ↦ trivial) hscript, hP⟩
  simp only [Operation.runSparing, bind_eq_ok, require_eq_ok] at hrun
  obtain ⟨-, hspares, hrun⟩ := hrun
  exact ⟨env, op, hspares, hrun⟩

/-- A worker dies with a confirmed refund in hand, and its claim is taken back. -/
theorem provider_complete_claimable_sample :
    ∃ (now : Timestamp) (db : Database), db.ReachedSparing now ∧ ∃ r ∈ db.refunds,
      r.providerRefundedAt ≠ none ∧ r.claimId = none
        ∧ ∀ t, r.nextAttemptAt ≤ t → r.IsClaimable t r.paymentProviderId := by
  obtain ⟨db, hdb, r, hr, hrefunded, hopen, hterminal, hclaim⟩ :=
    exists_reachedSparing sampleEnv
      (confirmedRefundScript ++ [(hours 1, .requeueStaleEventPurchaseRefundClaims)]) (.sample 1 [])
      (fun db ↦ ∃ r ∈ db.refunds, r.providerRefundedAt ≠ none ∧ r.finalizedAt = none
        ∧ ¬ r.IsTerminal ∧ r.claimId = none) (by decide) (by decide +kernel)
  exact ⟨_, db, hdb, r, hr, hrefunded, hclaim,
    (provider_complete_claimable hdb hr hrefunded hopen hterminal hclaim).1⟩

/-- Ten attempts whose finalization fails leave a confirmed refund that nothing selects. -/
theorem not_provider_complete_claimable :
    ∃ (now : Timestamp) (db : Database), db.Reached now ∧ ∃ r ∈ db.refunds,
      r.providerRefundedAt ≠ none ∧ r.finalizedAt = none ∧ ¬ r.IsTerminal ∧ r.claimId = none
        ∧ ∀ t provider, ¬ r.IsClaimable t provider := by
  obtain ⟨db, hdb, r, hr, hrefunded, hopen, hterminal, hclaim, hstatus, hattempts⟩ :=
    exists_reached sampleEnv
      (confirmedRefundScript ++ [(6, .recordEventPurchaseRefundRetryableFailure 1 2 none)]
        ++ (List.range 9).flatMap fun i : ℕ ↦
          [(hours (i + 1), .claimEventPurchaseRefund (fun _ ↦ false) "stripe"),
            (hours (i + 1) + 1, .recordEventPurchaseRefundRetryableFailure 1 (i + 3) none)])
      (.sample 1 []) (fun db ↦ ∃ r ∈ db.refunds, r.providerRefundedAt ≠ none ∧ r.finalizedAt = none
        ∧ ¬ r.IsTerminal ∧ r.claimId = none ∧ r.status = .providerFailed ∧ 10 ≤ r.attemptCount)
      (by decide) (by decide +kernel)
  refine ⟨_, db, hdb, r, hr, hrefunded, hopen, hterminal, hclaim, ?_⟩
  rintro t provider ⟨-, -, hsucceeded | ⟨hpending, -⟩ | ⟨-, -, hfew⟩⟩
  · simp [hstatus] at hsucceeded
  · simp [hstatus] at hpending
  · exact absurd hfew (not_lt.2 hattempts)

end Ocg
