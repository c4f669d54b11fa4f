import Ocg.Refinement.RefundWrites

/-!
# Confirmed refunds

Only a reported success sets when the provider refunded a purchase, and it stores the provider's
refund beside it. Every other write leaves a confirmation as it is or takes it away, so a row that
is confirmed after an operation was confirmed before it, unless the operation is that report.
-/

namespace Ocg

open Relational

variable {now : Timestamp} {db db' : Database}

/-- The row kept its confirmation, and the provider's refund with it. -/
structure Refund.RetainsConfirmation (new old : Refund) : Prop where
  id : new.eventPurchaseRefundId = old.eventPurchaseRefundId
  purchase : new.eventPurchaseId = old.eventPurchaseId
  confirmed : old.providerRefundedAt ≠ none
  providerRefund : nullIfBlank old.providerRefundId ≠ none → nullIfBlank new.providerRefundId ≠ none

theorem RefundWrite.retainsConfirmation {op : Operation} {old new : Refund}
    (hsuccess : ∀ result, op ≠ .recordEventPurchaseRefundSucceeded result)
    (h : RefundWrite now op old new) (hconfirmed : new.providerRefundedAt ≠ none) :
    new.RetainsConfirmation old := by
  cases h with
  | pending haccepts _ _ => exact ⟨rfl, rfl, hconfirmed, fun _ ↦ haccepts.nonblank⟩
  | confirm _ _ _ => exact absurd rfl (hsuccess _)
  | failTerminally _ _ => exact absurd rfl hconfirmed
  | _ => exact ⟨rfl, rfl, hconfirmed, fun hblank ↦ hblank⟩

/-- Every row that is confirmed now was confirmed before. -/
def Database.RetainsConfirmations (db db' : Database) : Prop :=
  ∀ r ∈ db'.refunds, r.providerRefundedAt ≠ none → ∃ old ∈ db.refunds, r.RetainsConfirmation old

theorem Database.RetainsConfirmations.of_refunds_eq (hsame : db'.refunds = db.refunds) :
    db.RetainsConfirmations db' := by
  intro r hr hconfirmed
  rw [hsame] at hr
  exact ⟨r, hr, rfl, rfl, hconfirmed, fun hblank ↦ hblank⟩

theorem Database.WritesRefunds.retainsConfirmations {op : Operation}
    (hsuccess : ∀ result, op ≠ .recordEventPurchaseRefundSucceeded result)
    (h : db.WritesRefunds now op db') : db.RetainsConfirmations db' := by
  intro r hr hconfirmed
  obtain hr | ⟨old, hold, hwrite⟩ | hnew := h.rows r hr
  · exact ⟨r, hr, rfl, rfl, hconfirmed, fun hblank ↦ hblank⟩
  · exact ⟨old, hold, hwrite.retainsConfirmation hsuccess hconfirmed⟩
  · exact absurd hnew.unconfirmed hconfirmed

/-- **No operation but a reported success confirms a refund.** -/
theorem Operation.retainsConfirmations {env : Env} {op : Operation}
    (hsuccess : ∀ result, op ≠ .recordEventPurchaseRefundSucceeded result)
    (h : op.run env now db = .ok db') : db.RetainsConfirmations db' :=
  (op.writesRefunds h).retainsConfirmations hsuccess

theorem loadRefundForResult_providerRefund {result : RefundResult} {r : Refund}
    {key providerRefundId : String}
    (h : loadRefundForResult result db = .ok (r, key, providerRefundId)) :
    nullIfBlank (some providerRefundId) ≠ none := by
  rw [loadRefundForResult, bind_eq_ok] at h
  obtain ⟨-, -, h⟩ := h
  simp only [bind_eq_ok, require_eq_ok] at h
  obtain ⟨-, hblank, h⟩ := h
  split at h
  · cases h
  · simp only [bind_eq_ok, Except.ok.injEq, Prod.mk.injEq] at h
    obtain ⟨-, -, -, -, rfl⟩ := h
    cases hid : result.providerRefundId with
    | none => exact absurd (by rw [hid]; rfl) hblank
    | some id => rwa [hid] at hblank

/-- The row of an accepted success is the only one that the report may newly confirm. -/
theorem recordEventPurchaseRefundSucceeded_confirms {result : RefundResult}
    (h : recordEventPurchaseRefundSucceeded now result db = .ok db') :
    ∀ new ∈ db'.refunds, new.providerRefundedAt ≠ none →
      (∃ old ∈ db.refunds, new.RetainsConfirmation old)
        ∨ ∃ r ∈ db.refunds, loadRefundForResult result db
            = .ok (r, r.idempotencyKey, result.providerRefundId.getD "")
          ∧ ¬ r.IsTerminal ∧ new.eventPurchaseRefundId = r.eventPurchaseRefundId
          ∧ new.eventPurchaseId = r.eventPurchaseId ∧ nullIfBlank new.providerRefundId ≠ none := by
  obtain ⟨r, key, providerRefundId, hload, ⟨-, rfl⟩ | ⟨hcurrent, -, db₁, hwritten, hsettled⟩⟩ :=
    recordEventPurchaseRefundSucceeded_eq_ok h
  · exact fun new hnew hconfirmed ↦
      .inl (Database.RetainsConfirmations.of_refunds_eq rfl new hnew hconfirmed)
  have hsame : db'.refunds = db₁.refunds := by
    obtain rfl | ⟨ep, -, -, -, hset⟩ := hsettled
    · rfl
    · exact (setPurchaseStatus_sameRefunds hset).refunds
  obtain ⟨-, rfl⟩ | ⟨-, hwrite⟩ := hwritten
  · exact fun new hnew hconfirmed ↦
      .inl (Database.RetainsConfirmations.of_refunds_eq hsame new hnew hconfirmed)
  obtain ⟨-, -, rfl⟩ := writeRefund_eq_ok.1 hwrite
  intro new hnew hconfirmed
  rw [hsame] at hnew
  obtain rfl | ⟨hnew, -⟩ := mem_replaceRow hnew
  · have hkey : r.idempotencyKey = key := not_not.1 fun hne ↦ hcurrent (.inl hne)
    have hid : result.providerRefundId.getD "" = providerRefundId := by
      simp only [loadRefundForResult, bind_eq_ok] at hload
      obtain ⟨-, -, -, -, hload⟩ := hload
      split at hload
      · cases hload
      · simp only [bind_eq_ok, Except.ok.injEq, Prod.mk.injEq] at hload
        obtain ⟨-, -, -, -, hid⟩ := hload
        exact hid
    refine .inr ⟨r, (loadRefundForResult_spec hload).1, ?_,
      fun hterminal ↦ hcurrent (.inr hterminal),
      rfl, rfl, loadRefundForResult_providerRefund hload⟩
    rw [hkey, hid]
    exact hload
  · exact .inl (Database.RetainsConfirmations.of_refunds_eq rfl new hnew hconfirmed)

end Ocg
