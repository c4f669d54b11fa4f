import Ocg.Ledger.Operations
import Ocg.Ledger.Progress
import Ocg.Refinement.Confirmations

/-!
# What a transaction does to the ledger

`LedgerChange` lists the ways a committed transaction may change the ledger, each with what the code
has checked by the time it writes. A transaction is shown once to be one of them; what a history
keeps is then a case analysis over the changes.
-/

namespace Ocg

open Relational

variable {now : Timestamp} {l l' : Ledger}

/-! ## Queueing -/

/-- An adjustment is queued once, and only of a positive amount. -/
theorem queueFeeAdjustment_eq_ok {order : FeeOrder} (h : queueFeeAdjustment now order l = .ok l') :
    ((order.amountMinor ≤ 0 ∨ l.HasFeeAdjustment order.eventPurchaseId order.kind) ∧ l' = l)
      ∨ (0 < order.amountMinor ∧ ¬ l.HasFeeAdjustment order.eventPurchaseId order.kind
        ∧ l' = { l with
          feeAdjustments := l.feeAdjustments ++ [newWorkItem l.nextWorkUuid now order]
          nextWorkUuid := l.nextWorkUuid + 1 }) := by
  rw [queueFeeAdjustment] at h
  split_ifs at h with hskip
  · exact .inl ⟨hskip, (Except.ok.inj h).symm⟩
  · simp only [bind_eq_ok, Except.ok.injEq] at h
    obtain ⟨-, -, rfl⟩ := h
    push Not at hskip
    exact .inr ⟨hskip.1, hskip.2, rfl⟩

/-- A credit note is queued once, for the refund it names. -/
theorem queueCreditNote_eq_ok {ep : Purchase} {r : Refund}
    (h : queueCreditNote now ep r l = .ok l') :
    ∃ order : CreditNoteOrder, order.eventPurchaseRefundId = r.eventPurchaseRefundId
      ∧ ((l.HasCreditNote r.eventPurchaseRefundId ∧ l' = l)
        ∨ (¬ l.HasCreditNote r.eventPurchaseRefundId
          ∧ l' = { l with
            creditNotes := l.creditNotes ++ [newWorkItem l.nextWorkUuid now order]
            nextWorkUuid := l.nextWorkUuid + 1 })) := by
  rw [queueCreditNote] at h
  split at h
  · next amounts currencyCode provider account _ _ _ _ =>
    rw [bind_eq_ok] at h
    obtain ⟨-, -, h⟩ := h
    refine ⟨⟨amounts.providerTotalMinor, currencyCode, r.eventPurchaseRefundId,
      creditNoteKey r.eventPurchaseRefundId, provider, account, amounts.taxAmountMinor⟩, rfl, ?_⟩
    split_ifs at h with hhas
    · exact .inl ⟨hhas, (Except.ok.inj h).symm⟩
    · simp only [bind_eq_ok, Except.ok.injEq] at h
      obtain ⟨-, -, rfl⟩ := h
      exact .inr ⟨hhas, rfl⟩
  · cases h

theorem queueFeeAdjustment_frame {order : FeeOrder} (h : queueFeeAdjustment now order l = .ok l') :
    l'.toDatabase = l.toDatabase ∧ l'.creditNotes = l.creditNotes
      ∧ l'.providerInvoiceId = l.providerInvoiceId ∧ l.nextWorkUuid ≤ l'.nextWorkUuid := by
  obtain ⟨-, rfl⟩ | ⟨-, -, rfl⟩ := queueFeeAdjustment_eq_ok h
  · exact ⟨rfl, rfl, rfl, le_rfl⟩
  · exact ⟨rfl, rfl, rfl, Nat.le_succ _⟩

theorem queueCreditNote_frame {ep : Purchase} {r : Refund}
    (h : queueCreditNote now ep r l = .ok l') :
    l'.toDatabase = l.toDatabase ∧ l'.feeAdjustments = l.feeAdjustments
      ∧ l'.providerInvoiceId = l.providerInvoiceId ∧ l.nextWorkUuid ≤ l'.nextWorkUuid := by
  obtain ⟨order, -, ⟨-, rfl⟩ | ⟨-, rfl⟩⟩ := queueCreditNote_eq_ok h
  · exact ⟨rfl, rfl, rfl, le_rfl⟩
  · exact ⟨rfl, rfl, rfl, Nat.le_succ _⟩

/-- The purchase of a confirmed refund: its fee is queued, then its credit note. -/
theorem settleConfirmedRefund_eq_ok {r : Refund} {ep : Purchase}
    (h : settleConfirmedRefund now r ep l = .ok l') :
    ∃ queued : Ledger,
      ((ep.financialAmounts = none ∧ queued = l)
        ∨ ∃ amounts, ep.financialAmounts = some amounts
          ∧ queueFeeAdjustment now (refundFeeOrder ep amounts) l = .ok queued)
      ∧ ((queued.providerInvoiceId ep.eventPurchaseId = none ∧ l' = queued)
        ∨ (queued.providerInvoiceId ep.eventPurchaseId ≠ none
          ∧ queueCreditNote now ep r queued = .ok l')) := by
  cases hamounts : ep.financialAmounts with
  | none =>
    by_cases hinvoice : l.providerInvoiceId ep.eventPurchaseId = none
    · simp only [settleConfirmedRefund, hamounts, if_pos hinvoice, ok_bind, Except.ok.injEq] at h
      exact ⟨l, .inl ⟨rfl, rfl⟩, .inl ⟨hinvoice, h.symm⟩⟩
    · simp only [settleConfirmedRefund, hamounts, if_neg hinvoice, ok_bind] at h
      exact ⟨l, .inl ⟨rfl, rfl⟩, .inr ⟨hinvoice, h⟩⟩
  | some amounts =>
    simp only [settleConfirmedRefund, hamounts] at h
    rw [bind_eq_ok] at h
    obtain ⟨queued, hqueue, h⟩ := h
    by_cases hinvoice : queued.providerInvoiceId ep.eventPurchaseId = none
    · simp only [if_pos hinvoice, Except.ok.injEq] at h
      exact ⟨queued, .inr ⟨amounts, rfl, hqueue⟩, .inl ⟨hinvoice, h.symm⟩⟩
    · simp only [if_neg hinvoice] at h
      exact ⟨queued, .inr ⟨amounts, rfl, hqueue⟩, .inr ⟨hinvoice, h⟩⟩

/-! ## Changes -/

/-- The row as a reported success leaves it, with the provider's refund. -/
def Refund.IsConfirmationOf (new r : Refund) : Prop :=
  new.eventPurchaseRefundId = r.eventPurchaseRefundId ∧ new.eventPurchaseId = r.eventPurchaseId
    ∧ nullIfBlank new.providerRefundId ≠ none

/-- One committed transaction, seen from the ledger. -/
inductive LedgerChange (now : Timestamp) (l : Ledger) : Ledger → Prop
  /-- Neither amounts are reported nor is a refund confirmed. -/
  | partition {db : Database} (hmoves : PartitionMoves .any now l.toDatabase db)
      (hkept : l.KeepsContracts db.toEnrollment) (hretains : l.RetainsConfirmations db) :
    LedgerChange now l { l with toDatabase := db }
  | report {db : Database} {l' : Ledger} {report : CompletedSession} {ep : Purchase}
      {amounts : FinancialAmounts}
      (hchecked : checkReport now report l.toEnrollment = .ok (some (ep, amounts)))
      (hfeeId : (ep.recordReport report amounts).FeeIdChk)
      (hmoves : PartitionMoves .any now l.toDatabase db)
      {reference : Option String}
      (hreference : ep.status = .refundPending → reference = ep.providerPaymentReference)
      (hkept : (l.withPurchase (ep.recordPayment report amounts reference)).KeepsContracts
        db.toEnrollment)
      (hretains : l.RetainsConfirmations db)
      (hqueue : queueFeeAdjustment now (taxFeeOrder ep amounts) { l with toDatabase := db }
        = .ok l') : LedgerChange now l l'
  | confirm {db : Database} {l' : Ledger} {r : Refund} {ep : Purchase} (hr : r ∈ l.refunds)
      (hmoves : PartitionMoves .any now l.toDatabase db)
      (hkept : l.KeepsContracts db.toEnrollment)
      (hconfirms : ∀ new ∈ db.refunds, new.providerRefundedAt ≠ none →
        (∃ old ∈ l.refunds, new.RetainsConfirmation old) ∨ new.IsConfirmationOf r)
      (hep : ep ∈ db.purchases) (hlink : ep.eventPurchaseId = r.eventPurchaseId)
      (hsettle : settleConfirmedRefund now r ep { l with toDatabase := db } = .ok l') :
    LedgerChange now l l'
  | attachFee {ep : Purchase} {fee : String} (hep : ep ∈ l.purchases)
      (hblank : nullIfBlank (some fee) ≠ none)
      (hknown : ∀ known ∈ ep.providerApplicationFeeId, known = fee)
      (hmoves : PartitionMoves .any now l.toDatabase { l.toDatabase with
        purchases := replaceRow Purchase.eventPurchaseId
          { ep with providerApplicationFeeId := some fee } l.purchases }) :
    LedgerChange now l { l with
      purchases := replaceRow Purchase.eventPurchaseId
        { ep with providerApplicationFeeId := some fee } l.purchases }
  | attachInvoice {l' : Ledger} {ep : Purchase} {invoice : String} (hep : ep ∈ l.purchases)
      (hknown : ∀ known ∈ l.providerInvoiceId ep.eventPurchaseId, known = invoice)
      (hblank : nullIfBlank (some invoice) ≠ none)
      (hqueue : ((∀ r ∈ l.refunds, r.eventPurchaseId = ep.eventPurchaseId →
            r.providerRefundedAt = none)
          ∧ l' = { l with
            providerInvoiceId :=
              Function.update l.providerInvoiceId ep.eventPurchaseId (some invoice) })
        ∨ ∃ r ∈ l.refunds, r.eventPurchaseId = ep.eventPurchaseId ∧ r.providerRefundedAt ≠ none
          ∧ queueCreditNote now ep r { l with
            providerInvoiceId :=
              Function.update l.providerInvoiceId ep.eventPurchaseId (some invoice) } = .ok l') :
    LedgerChange now l l'
  | feeWork {rows : List FeeAdjustment} {next : Uuid} (hnext : l.nextWorkUuid ≤ next)
      (hkeeps : KeepsWork l.nextWorkUuid next l.feeAdjustments rows) :
    LedgerChange now l { l with feeAdjustments := rows, nextWorkUuid := next }
  | creditWork {rows : List CreditNote} {next : Uuid} (hnext : l.nextWorkUuid ≤ next)
      (hkeeps : KeepsWork l.nextWorkUuid next l.creditNotes rows) :
    LedgerChange now l { l with creditNotes := rows, nextWorkUuid := next }

/-! ## Rows of the partition stay -/

theorem PartitionMoves.purchase_stays {mode : MoveMode} {db db' : Database}
    (h : PartitionMoves mode now db db') (hdb : db.Consistent) {ep : Purchase}
    (hep : ep ∈ db.purchases) : ∃ new ∈ db'.purchases,
      new.eventPurchaseId = ep.eventPurchaseId ∧ new.amountMinor = ep.amountMinor := by
  refine (preserved_of_reflTransGen (P := fun t : Database ↦ t.Consistent ∧ ∃ new ∈ t.purchases,
    new.eventPurchaseId = ep.eventPurchaseId ∧ new.amountMinor = ep.amountMinor) h
      ⟨hdb, ep, hep, rfl, rfl⟩ ?_).2
  rintro t u ⟨ht, row, hrow, hid, hamount⟩ hmove
  refine ⟨hmove.consistent ht, ?_⟩
  obtain hsame | ⟨effect, henrollment⟩ := hmove.enrollmentMove
  · exact ⟨row, hsame ▸ hrow, hid, hamount⟩
  · obtain ⟨new, hnew, hcontinues⟩ := henrollment.purchase_stays ht.wellFormed hrow
    exact ⟨new, hnew, hcontinues.id.trans hid, hcontinues.amount.trans hamount⟩

theorem Move.refund_stays {mode : MoveMode} {db db' : Database} (hmove : Move mode now db db')
    (h : db.RefundsConsistent) {r : Refund} (hr : r ∈ db.refunds) :
    ∃ new ∈ db'.refunds, new.eventPurchaseRefundId = r.eventPurchaseRefundId
      ∧ new.eventPurchaseId = r.eventPurchaseId := by
  have hreplace {old new : Refund} (hold : old ∈ db.refunds)
      (hid : new.eventPurchaseRefundId = old.eventPurchaseRefundId)
      (hpurchase : new.eventPurchaseId = old.eventPurchaseId) :
      ∃ row ∈ replaceRow Refund.eventPurchaseRefundId new db.refunds,
        row.eventPurchaseRefundId = r.eventPurchaseRefundId
          ∧ row.eventPurchaseId = r.eventPurchaseId := by
    by_cases hkey : r.eventPurchaseRefundId = new.eventPurchaseRefundId
    · have hsame : r = old := eq_of_key_eq h.keys hr hold (hkey.trans hid)
      exact ⟨new, new_mem_replaceRow hr hkey, hkey.symm, hsame ▸ hpurchase⟩
    · exact ⟨r, mem_replaceRow_of_ne hr hkey, rfl, rfl⟩
  cases hmove with
  | enrollment _ | bookkeeping _ | handOver _ _ => exact ⟨r, hr, rfl, rfl⟩
  | startRefund _ _ _ _ _ _ | reserve _ _ _ _ => exact ⟨r, List.mem_append_left _ hr, rfl, rfl⟩
  | progress hold hprogress _ | reopen hold _ hprogress _ _ _ =>
    exact hreplace hold hprogress.id hprogress.purchase
  | finalize hold _ _ _ _ _ | recover hold _ _ _ _ _ => exact hreplace hold rfl rfl

theorem PartitionMoves.refund_stays {mode : MoveMode} {db db' : Database}
    (h : PartitionMoves mode now db db') (hdb : db.Consistent) {r : Refund}
    (hr : r ∈ db.refunds) :
    ∃ new ∈ db'.refunds, new.eventPurchaseRefundId = r.eventPurchaseRefundId
      ∧ new.eventPurchaseId = r.eventPurchaseId := by
  refine (preserved_of_reflTransGen (P := fun t : Database ↦ t.Consistent
    ∧ ∃ new ∈ t.refunds, new.eventPurchaseRefundId = r.eventPurchaseRefundId
      ∧ new.eventPurchaseId = r.eventPurchaseId) h ⟨hdb, r, hr, rfl, rfl⟩ ?_).2
  rintro t u ⟨ht, row, hrow, hid, hpurchase⟩ hmove
  obtain ⟨new, hnew, hid', hpurchase'⟩ := hmove.refund_stays ht.refunds hrow
  exact ⟨hmove.consistent ht, new, hnew, hid'.trans hid, hpurchase'.trans hpurchase⟩

/-! ## Every transaction is a change -/

/-- The rows of both tables have unique identifiers. -/
structure Ledger.Keyed (l : Ledger) : Prop where
  feeAdjustments : (l.feeAdjustments.map WorkItem.id).Nodup
  creditNotes : (l.creditNotes.map WorkItem.id).Nodup

theorem Operation.runOnLedger_eq {env : Env} {op : Operation}
    (hreport : ∀ report, op ≠ .reconcileEventPurchaseForCheckoutSession report)
    (hsuccess : ∀ result, op ≠ .recordEventPurchaseRefundSucceeded result) :
    op.runOnLedger env now = onDatabase (op.run env now) := by
  cases op with
  | reconcileEventPurchaseForCheckoutSession report => exact absurd rfl (hreport report)
  | recordEventPurchaseRefundSucceeded result => exact absurd rfl (hsuccess result)
  | _ => rfl

theorem onDatabase_eq_ok {f : Database → Except DbError Database} (h : onDatabase f l = .ok l') :
    ∃ db, f l.toDatabase = .ok db ∧ l' = { l with toDatabase := db } := by
  simp only [onDatabase, bind_eq_ok, Except.ok.injEq] at h
  obtain ⟨db, hf, rfl⟩ := h
  exact ⟨db, hf, rfl⟩

theorem Ledger.reconcileEventPurchaseForCheckoutSession_change {report : CompletedSession}
    {outcome : WebhookOutcome} (hl : l.toDatabase.Consistent)
    (h : l.reconcileEventPurchaseForCheckoutSession now report = .ok (outcome, l')) :
    LedgerChange now l l' := by
  rw [Ledger.reconcileEventPurchaseForCheckoutSession, bind_eq_ok] at h
  obtain ⟨checked, hchecked, h⟩ := h
  cases checked with
  | none =>
    obtain ⟨-, rfl⟩ := Prod.mk.inj (Except.ok.inj h)
    exact .partition .refl (.refl _) (.of_refunds_eq rfl)
  | some found =>
    obtain ⟨ep, amounts⟩ := found
    simp only [bind_eq_ok, require_eq_ok, Prod.exists, Except.ok.injEq, Prod.mk.injEq] at h
    obtain ⟨-, hfeeId, _, db, hrun, queued, hqueue, -, rfl⟩ := h
    have hmoves := (reconcileEventPurchaseForCheckoutSession_spec .any hl.wellFormed hl.refunds
      trivial False.elim hrun).1
    have hwrites : l.WritesRefunds now (.reconcileEventPurchaseForCheckoutSession report) db :=
      reconcileEventPurchaseForCheckoutSession_writes hrun
    have hretains := hwrites.retainsConfirmations fun _ hsuccess ↦ by cases hsuccess
    obtain ⟨hnone, -⟩ | ⟨ep', amounts', hsome, reference, hreference, hkept⟩ :=
      reconcileEventPurchaseForCheckoutSession_keeps hl.wellFormed.purchaseIssued hrun
    · rw [hnone] at hchecked
      cases hchecked
    · rw [hsome] at hchecked
      obtain ⟨rfl, rfl⟩ := Prod.mk.inj (Option.some.inj (Except.ok.inj hchecked))
      exact .report hsome hfeeId hmoves hreference hkept hretains hqueue

theorem Database.acceptedRefund_eq_some {db : Database} {result : RefundResult} {r : Refund} :
    db.acceptedRefund result = some r ↔ ∃ refund, loadRefundForResult result db
      = .ok (r, r.idempotencyKey, refund) ∧ ¬ r.IsTerminal := by
  rw [Database.acceptedRefund]
  split
  · next row key refund hload =>
    rw [hload]
    constructor
    · intro h
      split_ifs at h with hignored
      obtain rfl := Option.some.inj h
      push Not at hignored
      exact ⟨refund, by rw [hignored.1], hignored.2⟩
    · rintro ⟨_, hsame, hterminal⟩
      simp only [Except.ok.injEq, Prod.mk.injEq] at hsame
      obtain ⟨rfl, rfl, -⟩ := hsame
      exact if_neg (by simp [hterminal])
  · next hload =>
    simp [hload]

theorem Ledger.recordEventPurchaseRefundSucceeded_change {result : RefundResult}
    (hl : l.toDatabase.Consistent)
    (h : l.recordEventPurchaseRefundSucceeded now result = .ok l') : LedgerChange now l l' := by
  rw [Ledger.recordEventPurchaseRefundSucceeded, bind_eq_ok] at h
  obtain ⟨db, hrun, h⟩ := h
  have hmoves := recordEventPurchaseRefundSucceeded_moves .any hl.wellFormed hl.refunds hrun
  have hkept := recordEventPurchaseRefundSucceeded_keeps hrun
  have hconfirms := recordEventPurchaseRefundSucceeded_confirms hrun
  cases haccepted : l.toDatabase.acceptedRefund result with
  | none =>
    simp only [haccepted, Except.ok.injEq] at h
    subst h
    refine .partition hmoves hkept fun new hnew hconfirmed ↦ ?_
    obtain hold | ⟨r, -, hload, hterminal, -⟩ := hconfirms new hnew hconfirmed
    · exact hold
    · rw [Database.acceptedRefund_eq_some.2 ⟨_, hload, hterminal⟩] at haccepted
      cases haccepted
  | some r =>
    obtain ⟨refund, hload, -⟩ := Database.acceptedRefund_eq_some.1 haccepted
    have hr := (loadRefundForResult_spec hload).1
    have hconfirms' : ∀ new ∈ db.refunds, new.providerRefundedAt ≠ none →
        (∃ old ∈ l.refunds, new.RetainsConfirmation old) ∨ new.IsConfirmationOf r := by
      intro new hnew hconfirmed
      obtain hold | ⟨row, -, hload', -, hid, hpurchase, hblank⟩ := hconfirms new hnew hconfirmed
      · exact .inl hold
      · rw [hload] at hload'
        obtain ⟨rfl, -⟩ := Prod.mk.inj (Except.ok.inj hload')
        exact .inr ⟨hid, hpurchase, hblank⟩
    simp only [haccepted] at h
    split at h
    · next hfind =>
      obtain ⟨owner, howner, hlink, -⟩ := hl.refunds.owner r hr
      obtain ⟨new, hnew, hid, -⟩ := hmoves.purchase_stays hl howner
      have hnone := List.find?_eq_none.1 hfind new hnew
      simp [hid, hlink] at hnone
    · next ep hfind =>
      have hlink := List.find?_some hfind
      simp only [decide_eq_true_eq] at hlink
      exact .confirm hr hmoves hkept hconfirms' (List.mem_of_find?_eq_some hfind) hlink h

theorem attachApplicationFeeToEventPurchase_change {provider : String}
    {seller charge fee : Option String} {amountMinor : Option ℤ}
    (h : onDatabase (onEnrollment
      (attachApplicationFeeToEventPurchase provider seller charge fee amountMinor)) l = .ok l') :
    LedgerChange now l l' := by
  obtain ⟨db, hrun, rfl⟩ := onDatabase_eq_ok h
  obtain ⟨s, hs, rfl⟩ := onEnrollment_eq_ok hrun
  rw [attachApplicationFeeToEventPurchase, bind_eq_ok] at hs
  obtain ⟨_, hblank, hs⟩ := hs
  rw [require_eq_ok] at hblank
  rw [bind_eq_ok] at hs
  obtain ⟨-, -, hs⟩ := hs
  split at hs
  · cases hs
  · next ep hfind =>
    simp only [bind_eq_ok, require_eq_ok] at hs
    obtain ⟨-, -, -, hknown, hstore⟩ := hs
    obtain ⟨haccepted, rfl⟩ := storePurchase_eq_ok.1 hstore
    have hep := List.mem_of_find?_eq_some hfind
    cases fee with
    | none => exact absurd rfl hblank.2.2
    | some fee =>
      refine .attachFee hep hblank.2.2 (fun known hsome ↦ Option.some.inj (hknown known hsome)) ?_
      exact Moves.lift .any (.single (.record .any hep
        ⟨rfl, rfl, rfl, rfl, rfl, rfl, .inl rfl, .inl rfl, rfl, rfl, rfl⟩ haccepted rfl rfl))

theorem attachInvoiceToEventPurchase_change {purchase : Uuid} {seller invoice : String}
    (h : attachInvoiceToEventPurchase now purchase seller invoice l = .ok l') :
    LedgerChange now l l' := by
  rw [attachInvoiceToEventPurchase] at h
  split at h
  · cases h
  · next ep hfind =>
    have hid := List.find?_some hfind
    simp only [decide_eq_true_eq] at hid
    subst hid
    simp only [bind_eq_ok, require_eq_ok] at h
    obtain ⟨-, -, -, hknown, -, hblank, -, -, h⟩ := h
    refine .attachInvoice (List.mem_of_find?_eq_some hfind) hknown hblank ?_
    split at h
    · next hnone =>
      refine .inl ⟨fun r hr hlink ↦ ?_, (Except.ok.inj h).symm⟩
      have hr' := List.find?_eq_none.1 hnone r hr
      simpa [hlink] using hr'
    · next r hsome =>
      have hselected := List.find?_some hsome
      simp only [decide_eq_true_eq] at hselected
      exact .inr ⟨r, List.mem_of_find?_eq_some hsome, hselected.1, hselected.2, h⟩

theorem onFeeAdjustments_change {f : List FeeAdjustment → Except DbError (List FeeAdjustment)}
    (h : onFeeAdjustments f l = .ok l')
    (hf : ∀ rows, f l.feeAdjustments = .ok rows →
      KeepsWork l.nextWorkUuid l.nextWorkUuid l.feeAdjustments rows) : LedgerChange now l l' := by
  simp only [onFeeAdjustments, bind_eq_ok, Except.ok.injEq] at h
  obtain ⟨rows, hrows, rfl⟩ := h
  exact .feeWork le_rfl (hf rows hrows)

theorem onCreditNotes_change {f : List CreditNote → Except DbError (List CreditNote)}
    (h : onCreditNotes f l = .ok l')
    (hf : ∀ rows, f l.creditNotes = .ok rows →
      KeepsWork l.nextWorkUuid l.nextWorkUuid l.creditNotes rows) : LedgerChange now l l' := by
  simp only [onCreditNotes, bind_eq_ok, Except.ok.injEq] at h
  obtain ⟨rows, hrows, rfl⟩ := h
  exact .creditWork le_rfl (hf rows hrows)

theorem claimEventPurchaseApplicationFeeAdjustment_change {locked : Uuid → Bool}
    {provider : String} {claimed : Option FeeAdjustment}
    (hkeys : (l.feeAdjustments.map WorkItem.id).Nodup)
    (h : claimEventPurchaseApplicationFeeAdjustment locked now provider l = .ok (claimed, l')) :
    LedgerChange now l l' := by
  simp only [claimEventPurchaseApplicationFeeAdjustment, bind_eq_ok, Prod.exists, Except.ok.injEq,
    Prod.mk.injEq] at h
  obtain ⟨item, rows, hclaim, -, rfl⟩ := h
  exact .feeWork (Nat.le_succ _) (claimWork_keeps hkeys hclaim)

theorem claimEventPurchaseCreditNote_change {locked : Uuid → Bool} {provider : String}
    {claimed : Option CreditNote} (hkeys : (l.creditNotes.map WorkItem.id).Nodup)
    (h : claimEventPurchaseCreditNote locked now provider l = .ok (claimed, l')) :
    LedgerChange now l l' := by
  simp only [claimEventPurchaseCreditNote, bind_eq_ok, Prod.exists, Except.ok.injEq,
    Prod.mk.injEq] at h
  obtain ⟨item, rows, hclaim, -, rfl⟩ := h
  exact .creditWork (Nat.le_succ _) (claimWork_keeps hkeys hclaim)

/-- **Every committed transaction is a change.** -/
theorem LedgerOperation.change {env : Env} {op : LedgerOperation} (hl : l.toDatabase.Consistent)
    (hkeyed : l.Keyed) (h : op.run env now l = .ok l') : LedgerChange now l l' := by
  cases op with
  | operation op =>
    by_cases hreport : ∃ report, op = .reconcileEventPurchaseForCheckoutSession report
    · obtain ⟨report, rfl⟩ := hreport
      obtain ⟨outcome, h⟩ := stateOf_eq_ok.1 h
      exact Ledger.reconcileEventPurchaseForCheckoutSession_change hl h
    by_cases hsuccess : ∃ result, op = .recordEventPurchaseRefundSucceeded result
    · obtain ⟨result, rfl⟩ := hsuccess
      exact Ledger.recordEventPurchaseRefundSucceeded_change hl h
    push Not at hreport hsuccess
    rw [LedgerOperation.run, op.runOnLedger_eq hreport hsuccess] at h
    obtain ⟨db, hrun, rfl⟩ := onDatabase_eq_ok h
    exact .partition (op.moves_any hl.wellFormed hl.refunds hrun)
      (op.keepsContracts hreport hrun) (op.retainsConfirmations hsuccess hrun)
  | attachApplicationFeeToEventPurchase => exact attachApplicationFeeToEventPurchase_change h
  | attachInvoiceToEventPurchase => exact attachInvoiceToEventPurchase_change h
  | claimEventPurchaseApplicationFeeAdjustment =>
    obtain ⟨claimed, h⟩ := stateOf_eq_ok.1 h
    exact claimEventPurchaseApplicationFeeAdjustment_change hkeyed.feeAdjustments h
  | recordEventPurchaseApplicationFeeAdjustmentSucceeded =>
    exact onFeeAdjustments_change h fun rows ↦ recordWorkSucceeded_keeps hkeyed.feeAdjustments
  | recordEventPurchaseApplicationFeeAdjustmentFailure =>
    exact onFeeAdjustments_change h fun rows ↦ recordWorkFailure_keeps hkeyed.feeAdjustments
  | requeueEventPurchaseApplicationFeeAdjustment =>
    exact onFeeAdjustments_change h fun rows ↦ requeueWork_keeps hkeyed.feeAdjustments
  | requeueStaleEventPurchaseApplicationFeeAdjustmentClaims =>
    refine onFeeAdjustments_change (f := fun rows ↦ .ok (requeueStaleWork feeTexts now rows).2) h
      fun rows hrows ↦ ?_
    rw [← Except.ok.inj hrows]
    exact requeueStaleWork_keeps
  | completeEventPurchaseApplicationFeeAdjustmentRecovery =>
    exact onFeeAdjustments_change h fun rows ↦ completeWorkRecovery_keeps hkeyed.feeAdjustments
  | claimEventPurchaseCreditNote =>
    obtain ⟨claimed, h⟩ := stateOf_eq_ok.1 h
    exact claimEventPurchaseCreditNote_change hkeyed.creditNotes h
  | recordEventPurchaseCreditNoteSucceeded =>
    exact onCreditNotes_change h fun rows ↦ recordWorkSucceeded_keeps hkeyed.creditNotes
  | recordEventPurchaseCreditNoteFailure =>
    exact onCreditNotes_change h fun rows ↦ recordWorkFailure_keeps hkeyed.creditNotes
  | requeueEventPurchaseCreditNote =>
    exact onCreditNotes_change h fun rows ↦ requeueWork_keeps hkeyed.creditNotes
  | requeueStaleEventPurchaseCreditNoteClaims =>
    refine onCreditNotes_change (f := fun rows ↦ .ok (requeueStaleWork creditNoteTexts now rows).2)
      h
      fun rows hrows ↦ ?_
    rw [← Except.ok.inj hrows]
    exact requeueStaleWork_keeps
  | completeEventPurchaseCreditNoteRecovery =>
    exact onCreditNotes_change h fun rows ↦ completeWorkRecovery_keeps hkeyed.creditNotes

theorem LedgerChange.moves (h : LedgerChange now l l') :
    PartitionMoves .any now l.toDatabase l'.toDatabase := by
  cases h with
  | partition hmoves _ _ => exact hmoves
  | report _ _ hmoves _ _ _ hqueue =>
    rw [(queueFeeAdjustment_frame hqueue).1]
    exact hmoves
  | confirm _ hmoves _ _ _ _ hsettle =>
    obtain ⟨queued, hfee, hnote⟩ := settleConfirmedRefund_eq_ok hsettle
    have hsame : l'.toDatabase = queued.toDatabase := by
      obtain ⟨-, rfl⟩ | ⟨-, hcredit⟩ := hnote
      · rfl
      · exact (queueCreditNote_frame hcredit).1
    obtain ⟨-, rfl⟩ | ⟨amounts, -, hqueue⟩ := hfee
    · exact hsame ▸ hmoves
    · rw [hsame, (queueFeeAdjustment_frame hqueue).1]
      exact hmoves
  | attachFee _ _ _ hmoves => exact hmoves
  | attachInvoice _ _ _ hqueue =>
    obtain ⟨-, rfl⟩ | ⟨r, -, -, -, hcredit⟩ := hqueue
    · exact .refl
    · rw [(queueCreditNote_frame hcredit).1]
  | feeWork _ _ | creditWork _ _ => exact .refl

end Ocg
