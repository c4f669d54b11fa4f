import Ocg.Ledger.Invariant

/-!
# Durable work is done once

The provider's report, a confirmed refund and an invoice may arrive in any order, and workers,
sweeps and operators may act on the queued rows at any time. Whatever they do, a purchase has one
adjustment of each kind, a confirmed refund with an invoice has one credit note, what is finished
stays as it is, and a report under a claim that is over changes nothing.
-/

namespace Ocg

open Relational

variable {now : Timestamp} {l l' : Ledger}

/-! ## Fee adjustments -/

/-- Adjustments are queued once for a purchase and a kind, and only for purchases that were paid. -/
structure Ledger.FeesSound (l : Ledger) : Prop where
  issued : Issued l.nextWorkUuid l.feeAdjustments
  unique : (l.feeAdjustments.map fun w ↦ (w.order.eventPurchaseId, w.order.kind)).Nodup
  owner : ∀ w ∈ l.feeAdjustments, ∃ ep ∈ l.purchases,
    ep.eventPurchaseId = w.order.eventPurchaseId ∧ 0 < ep.amountMinor

namespace Ledger.FeesSound

theorem setDatabase {mode : MoveMode} {db : Database} (h : l.FeesSound)
    (hl : l.toDatabase.Consistent) (hmoves : PartitionMoves mode now l.toDatabase db) :
    ({ l with toDatabase := db } : Ledger).FeesSound := by
  refine ⟨h.issued, h.unique, fun w hw ↦ ?_⟩
  obtain ⟨ep, hep, hid, hpaid⟩ := h.owner w hw
  obtain ⟨new, hnew, hid', hamount⟩ := hmoves.purchase_stays hl hep
  exact ⟨new, hnew, hid'.trans hid, hamount ▸ hpaid⟩

theorem congr (h : l.FeesSound) (hfees : l'.feeAdjustments = l.feeAdjustments)
    (hpurchases : l'.purchases = l.purchases) (hnext : l.nextWorkUuid ≤ l'.nextWorkUuid) :
    l'.FeesSound := by
  constructor
  · rw [hfees]
    exact h.issued.mono hnext
  · rw [hfees]
    exact h.unique
  · rw [hfees, hpurchases]
    exact h.owner

theorem queue (h : l.FeesSound) {order : FeeOrder} {ep : Purchase} (hep : ep ∈ l.purchases)
    (hid : ep.eventPurchaseId = order.eventPurchaseId) (hpaid : 0 < ep.amountMinor)
    (hqueue : queueFeeAdjustment now order l = .ok l') : l'.FeesSound := by
  obtain ⟨-, rfl⟩ | ⟨-, hnew, rfl⟩ := queueFeeAdjustment_eq_ok hqueue
  · exact h
  · refine ⟨h.issued.queue order, nodup_keys_append h.unique fun w hw hsame ↦ hnew ?_, ?_⟩
    · obtain ⟨hpurchase, hkind⟩ := Prod.mk.inj hsame
      exact ⟨w, hw, hpurchase, hkind⟩
    · intro w hw
      obtain hw | hw := List.mem_append.1 hw
      · exact h.owner w hw
      · rw [List.mem_singleton.1 hw]
        exact ⟨ep, hep, hid, hpaid⟩

theorem work (h : l.FeesSound) {rows : List FeeAdjustment} {next : Uuid}
    (hnext : l.nextWorkUuid ≤ next) (hkeeps : KeepsWork l.nextWorkUuid next l.feeAdjustments rows) :
    ({ l with feeAdjustments := rows, nextWorkUuid := next } : Ledger).FeesSound := by
  refine ⟨h.issued.keep hnext hkeeps, ?_, fun w hw ↦ ?_⟩
  · change (rows.map fun w ↦ (w.order.eventPurchaseId, w.order.kind)).Nodup
    rw [hkeeps.map_eq (fun w ↦ (w.order.eventPurchaseId, w.order.kind)) fun new old hcontinues ↦ by
      rw [hcontinues.order]]
    exact h.unique
  · obtain ⟨old, hold, hcontinues⟩ := hkeeps.exists_of_mem hw
    rw [hcontinues.order]
    exact h.owner old hold

end Ledger.FeesSound

theorem Database.Consistent.paid_of_refund {db : Database} (hdb : db.Consistent) {r : Refund}
    (hr : r ∈ db.refunds) {ep : Purchase} (hep : ep ∈ db.purchases)
    (hlink : ep.eventPurchaseId = r.eventPurchaseId) : 0 < ep.amountMinor :=
  (hdb.refunds.matches_of_link hdb.wellFormed hr hep hlink).paid

theorem LedgerChange.feesSound (h : LedgerChange now l l') (hl : l.toDatabase.Consistent)
    (hfees : l.FeesSound) : l'.FeesSound := by
  cases h with
  | partition hmoves _ _ => exact hfees.setDatabase hl hmoves
  | report hchecked _ hmoves _ _ _ hqueue =>
    obtain ⟨hep, ⟨-, -, -, hsession⟩, -⟩ := checkReport_eq_some hchecked
    have hpaid := hl.wellFormed.sessionPaid _ hep (by simp [hsession])
    obtain ⟨new, hnew, hid, hamount⟩ := hmoves.purchase_stays hl hep
    exact (hfees.setDatabase hl hmoves).queue hnew hid (hamount ▸ hpaid) hqueue
  | confirm hr hmoves _ _ hep hlink hsettle =>
    obtain ⟨row, hrow, -, hpurchase⟩ := hmoves.refund_stays hl hr
    have hpaid := (hmoves.keeps hl).paid_of_refund hrow hep (hlink.trans hpurchase.symm)
    obtain ⟨queued, hfee, hnote⟩ := settleConfirmedRefund_eq_ok hsettle
    have hqueued : queued.FeesSound := by
      obtain ⟨-, rfl⟩ | ⟨amounts, -, hqueue⟩ := hfee
      · exact hfees.setDatabase hl hmoves
      · exact (hfees.setDatabase hl hmoves).queue hep rfl hpaid hqueue
    obtain ⟨-, rfl⟩ | ⟨-, hcredit⟩ := hnote
    · exact hqueued
    · obtain ⟨hdb, hsame, -, hnext⟩ := queueCreditNote_frame hcredit
      exact hqueued.congr hsame (by rw [hdb]) hnext
  | attachFee _ _ _ hmoves => exact hfees.setDatabase hl hmoves
  | attachInvoice _ _ _ hqueue =>
    obtain ⟨-, rfl⟩ | ⟨r, -, -, -, hcredit⟩ := hqueue
    · exact hfees.congr rfl rfl le_rfl
    · obtain ⟨hdb, hsame, -, hnext⟩ := queueCreditNote_frame hcredit
      exact hfees.congr hsame (by rw [hdb]) hnext
  | feeWork hnext hkeeps => exact hfees.work hnext hkeeps
  | creditWork hnext _ => exact hfees.congr rfl rfl hnext

/-! ## Credit notes -/

/-- Credit notes are queued once for a refund, whose purchase has an invoice. -/
structure Ledger.NotesSound (l : Ledger) : Prop where
  issued : Issued l.nextWorkUuid l.creditNotes
  unique : (l.creditNotes.map fun w ↦ w.order.eventPurchaseRefundId).Nodup
  refund : ∀ note ∈ l.creditNotes, ∃ r ∈ l.refunds,
    r.eventPurchaseRefundId = note.order.eventPurchaseRefundId
      ∧ l.providerInvoiceId r.eventPurchaseId ≠ none
  invoice : ∀ purchase, ∀ invoice ∈ l.providerInvoiceId purchase,
    nullIfBlank (some invoice) ≠ none

/-- A confirmed refund has the provider's refund, and its credit note once there is an invoice. -/
structure Ledger.Credits (l : Ledger) : Prop where
  providerRefund : ∀ r ∈ l.refunds, r.providerRefundedAt ≠ none →
    nullIfBlank r.providerRefundId ≠ none
  note : ∀ r ∈ l.refunds, r.providerRefundedAt ≠ none →
    l.providerInvoiceId r.eventPurchaseId ≠ none → l.HasCreditNote r.eventPurchaseRefundId

namespace Ledger.NotesSound

theorem setDatabase {mode : MoveMode} {db : Database} (h : l.NotesSound)
    (hl : l.toDatabase.Consistent) (hmoves : PartitionMoves mode now l.toDatabase db) :
    ({ l with toDatabase := db } : Ledger).NotesSound := by
  refine ⟨h.issued, h.unique, fun note hnote ↦ ?_, h.invoice⟩
  obtain ⟨r, hr, hid, hinvoice⟩ := h.refund note hnote
  obtain ⟨new, hnew, hid', hpurchase⟩ := hmoves.refund_stays hl hr
  exact ⟨new, hnew, hid'.trans hid, hpurchase ▸ hinvoice⟩

theorem congr (h : l.NotesSound) (hnotes : l'.creditNotes = l.creditNotes)
    (hrefunds : l'.refunds = l.refunds) (hinvoices : l'.providerInvoiceId = l.providerInvoiceId)
    (hnext : l.nextWorkUuid ≤ l'.nextWorkUuid) : l'.NotesSound := by
  constructor
  · rw [hnotes]
    exact h.issued.mono hnext
  · rw [hnotes]
    exact h.unique
  · rw [hnotes, hrefunds, hinvoices]
    exact h.refund
  · rw [hinvoices]
    exact h.invoice

theorem queue (h : l.NotesSound) {ep : Purchase} {r row : Refund} (hrow : row ∈ l.refunds)
    (hid : row.eventPurchaseRefundId = r.eventPurchaseRefundId)
    (hinvoice : l.providerInvoiceId row.eventPurchaseId ≠ none)
    (hqueue : queueCreditNote now ep r l = .ok l') : l'.NotesSound := by
  obtain ⟨order, horder, ⟨-, rfl⟩ | ⟨hnew, rfl⟩⟩ := queueCreditNote_eq_ok hqueue
  · exact h
  · refine ⟨h.issued.queue order, nodup_keys_append h.unique fun note hnote hsame ↦ hnew ?_, ?_,
      h.invoice⟩
    · exact ⟨note, hnote, hsame.trans horder⟩
    · intro note hnote
      obtain hnote | hnote := List.mem_append.1 hnote
      · exact h.refund note hnote
      · rw [List.mem_singleton.1 hnote]
        exact ⟨row, hrow, hid.trans horder.symm, hinvoice⟩

theorem work (h : l.NotesSound) {rows : List CreditNote} {next : Uuid}
    (hnext : l.nextWorkUuid ≤ next) (hkeeps : KeepsWork l.nextWorkUuid next l.creditNotes rows) :
    ({ l with creditNotes := rows, nextWorkUuid := next } : Ledger).NotesSound := by
  refine ⟨h.issued.keep hnext hkeeps, ?_, fun note hnote ↦ ?_, h.invoice⟩
  · change (rows.map fun w ↦ w.order.eventPurchaseRefundId).Nodup
    rw [hkeeps.map_eq (fun w ↦ w.order.eventPurchaseRefundId) fun new old hcontinues ↦ by
      rw [hcontinues.order]]
    exact h.unique
  · obtain ⟨old, hold, hcontinues⟩ := hkeeps.exists_of_mem hnote
    rw [hcontinues.order]
    exact h.refund old hold

theorem attach (h : l.NotesSound) {purchase : Uuid} {invoice : String}
    (hblank : nullIfBlank (some invoice) ≠ none) :
    ({ l with providerInvoiceId := Function.update l.providerInvoiceId purchase (some invoice) } :
      Ledger).NotesSound := by
  refine ⟨h.issued, h.unique, fun note hnote ↦ ?_, fun other known hknown ↦ ?_⟩
  · obtain ⟨r, hr, hid, hinvoice⟩ := h.refund note hnote
    refine ⟨r, hr, hid, ?_⟩
    change Function.update l.providerInvoiceId purchase (some invoice) r.eventPurchaseId ≠ none
    by_cases hsame : r.eventPurchaseId = purchase
    · simp [hsame]
    · rw [Function.update_of_ne hsame]
      exact hinvoice
  · change known ∈ Function.update l.providerInvoiceId purchase (some invoice) other at hknown
    by_cases hsame : other = purchase
    · rw [hsame, Function.update_self] at hknown
      obtain rfl := Option.some.inj hknown
      exact hblank
    · rw [Function.update_of_ne hsame] at hknown
      exact h.invoice other known hknown

end Ledger.NotesSound

theorem LedgerChange.notesSound (h : LedgerChange now l l') (hl : l.toDatabase.Consistent)
    (hnotes : l.NotesSound) : l'.NotesSound := by
  cases h with
  | partition hmoves _ _ => exact hnotes.setDatabase hl hmoves
  | report _ _ hmoves _ _ _ hqueue =>
    obtain ⟨hdb, hsame, hinvoices, hnext⟩ := queueFeeAdjustment_frame hqueue
    exact (hnotes.setDatabase hl hmoves).congr hsame (by rw [hdb]) hinvoices hnext
  | @confirm db _ r ep hr hmoves _ _ _ hlink hsettle =>
    obtain ⟨queued, hfee, hnote⟩ := settleConfirmedRefund_eq_ok hsettle
    have hqueued : queued.NotesSound ∧ queued.refunds = db.refunds := by
      obtain ⟨-, rfl⟩ | ⟨amounts, -, hqueue⟩ := hfee
      · exact ⟨hnotes.setDatabase hl hmoves, rfl⟩
      · obtain ⟨hdb, hsame, hinvoices, hnext⟩ := queueFeeAdjustment_frame hqueue
        have hfeeQueued := (hnotes.setDatabase hl hmoves).congr hsame (by rw [hdb]) hinvoices hnext
        exact ⟨hfeeQueued, by rw [hdb]⟩
    obtain ⟨-, rfl⟩ | ⟨hinvoice, hcredit⟩ := hnote
    · exact hqueued.1
    · obtain ⟨row, hrow, hid, hpurchase⟩ := hmoves.refund_stays hl hr
      rw [hlink, ← hpurchase] at hinvoice
      exact hqueued.1.queue (hqueued.2 ▸ hrow) hid hinvoice hcredit
  | attachFee _ _ _ hmoves => exact hnotes.setDatabase hl hmoves
  | attachInvoice _ _ hblank hqueue =>
    obtain ⟨-, rfl⟩ | ⟨r, hr, hlink, -, hcredit⟩ := hqueue
    · exact hnotes.attach hblank
    · refine (hnotes.attach hblank).queue hr rfl ?_ hcredit
      simp [hlink]
  | feeWork hnext _ => exact hnotes.congr rfl rfl rfl hnext
  | creditWork hnext hkeeps => exact hnotes.work hnext hkeeps

/-! ## Confirmed refunds -/

theorem Ledger.Grows.hasCreditNote {refund : Uuid} (h : l.Grows l')
    (hnote : l.HasCreditNote refund) : l'.HasCreditNote refund := by
  obtain ⟨note, hnote, hsame⟩ := hnote
  obtain ⟨note', hnote', hcontinues⟩ := h.notes.stays note hnote
  exact ⟨note', hnote', hcontinues.order ▸ hsame⟩

theorem queueCreditNote_hasCreditNote {ep : Purchase} {r : Refund}
    (h : queueCreditNote now ep r l = .ok l') : l'.HasCreditNote r.eventPurchaseRefundId := by
  obtain ⟨order, horder, ⟨hnote, rfl⟩ | ⟨-, rfl⟩⟩ := queueCreditNote_eq_ok h
  · exact hnote
  · exact ⟨newWorkItem l.nextWorkUuid now order, List.mem_append_right _ (by simp), horder⟩

theorem Ledger.Credits.retain (h : l.Credits) (hretains : l.RetainsConfirmations l'.toDatabase)
    (hinvoices : l'.providerInvoiceId = l.providerInvoiceId) (hgrows : l.Grows l') :
    l'.Credits := by
  -- the refunds kept their confirmations, and no invoice came
  constructor
  · intro r hr hconfirmed
    obtain ⟨old, hold, hretained⟩ := hretains r hr hconfirmed
    exact hretained.providerRefund (h.providerRefund old hold hretained.confirmed)
  · intro r hr hconfirmed hinvoice
    obtain ⟨old, hold, hretained⟩ := hretains r hr hconfirmed
    rw [hinvoices, hretained.purchase] at hinvoice
    rw [hretained.id]
    exact hgrows.hasCreditNote (h.note old hold hretained.confirmed hinvoice)

theorem LedgerChange.credits (h : LedgerChange now l l') (hl : l.toDatabase.Consistent)
    (hcredits : l.Credits) : l'.Credits := by
  have hgrows := h.grows
  cases h with
  | partition _ _ hretains => exact hcredits.retain hretains rfl hgrows
  | report _ _ _ _ _ hretains hqueue =>
    obtain ⟨hdb, -, hinvoices, -⟩ := queueFeeAdjustment_frame hqueue
    exact hcredits.retain (hdb ▸ hretains) hinvoices hgrows
  | @confirm db _ r ep hr hmoves _ hconfirms _ hlink hsettle =>
    obtain ⟨queued, hfee, hnote⟩ := settleConfirmedRefund_eq_ok hsettle
    have hqueued : queued.toDatabase = db ∧ queued.providerInvoiceId = l.providerInvoiceId := by
      obtain ⟨-, rfl⟩ | ⟨amounts, -, hqueue⟩ := hfee
      · exact ⟨rfl, rfl⟩
      · obtain ⟨hdb, -, hinvoices, -⟩ := queueFeeAdjustment_frame hqueue
        exact ⟨hdb, hinvoices⟩
    have hcredited : l'.toDatabase = db ∧ l'.providerInvoiceId = l.providerInvoiceId
        ∧ (l.providerInvoiceId ep.eventPurchaseId ≠ none →
          l'.HasCreditNote r.eventPurchaseRefundId) := by
      obtain ⟨hnone, rfl⟩ | ⟨-, hcredit⟩ := hnote
      · refine ⟨hqueued.1, hqueued.2, fun hinvoice ↦ absurd ?_ hinvoice⟩
        rw [← hqueued.2]
        exact hnone
      · obtain ⟨hdb, -, hinvoices, -⟩ := queueCreditNote_frame hcredit
        exact ⟨hdb.trans hqueued.1, hinvoices.trans hqueued.2,
          fun _ ↦ queueCreditNote_hasCreditNote hcredit⟩
    obtain ⟨hdb, hinvoices, hnew⟩ := hcredited
    constructor
    · intro row hrow hconfirmed
      change row ∈ l'.refunds at hrow
      rw [hdb] at hrow
      obtain ⟨old, hold, hretained⟩ | ⟨-, -, hblank⟩ := hconfirms row hrow hconfirmed
      · exact hretained.providerRefund (hcredits.providerRefund old hold hretained.confirmed)
      · exact hblank
    · intro row hrow hconfirmed hinvoice
      change row ∈ l'.refunds at hrow
      change l'.providerInvoiceId row.eventPurchaseId ≠ none at hinvoice
      rw [hdb] at hrow
      rw [hinvoices] at hinvoice
      obtain ⟨old, hold, hretained⟩ | ⟨hid, hpurchase, -⟩ := hconfirms row hrow hconfirmed
      · rw [hretained.purchase] at hinvoice
        rw [hretained.id]
        exact hgrows.hasCreditNote (hcredits.note old hold hretained.confirmed hinvoice)
      · rw [hpurchase, ← hlink] at hinvoice
        rw [hid]
        exact hnew hinvoice
  | attachFee _ _ _ _ => exact hcredits.retain (.of_refunds_eq rfl) rfl hgrows
  | @attachInvoice _ ep invoice _ _ _ hqueue =>
    have hother {row : Refund} (hrow : row ∈ l.refunds) (hconfirmed : row.providerRefundedAt ≠ none)
        (hne : row.eventPurchaseId ≠ ep.eventPurchaseId)
        (hinvoice : Function.update l.providerInvoiceId ep.eventPurchaseId (some invoice)
          row.eventPurchaseId ≠ none) : l'.HasCreditNote row.eventPurchaseRefundId := by
      rw [Function.update_of_ne hne] at hinvoice
      exact hgrows.hasCreditNote (hcredits.note row hrow hconfirmed hinvoice)
    obtain ⟨hnone, rfl⟩ | ⟨r, hr, hlink, -, hcredit⟩ := hqueue
    · refine ⟨hcredits.providerRefund, fun row hrow hconfirmed hinvoice ↦ ?_⟩
      refine hother hrow hconfirmed (fun hsame ↦ hconfirmed (hnone row hrow hsame)) hinvoice
    · obtain ⟨hdb, -, hinvoices, -⟩ := queueCreditNote_frame hcredit
      constructor
      · rw [hdb]
        exact hcredits.providerRefund
      · intro row hrow hconfirmed hinvoice
        rw [hdb] at hrow
        rw [hinvoices] at hinvoice
        by_cases hsame : row.eventPurchaseId = ep.eventPurchaseId
        · -- a purchase has one refund row
          rw [eq_of_key_eq hl.refunds.purchaseKeys hrow hr (hsame.trans hlink.symm)]
          exact queueCreditNote_hasCreditNote hcredit
        · exact hother hrow hconfirmed hsame hinvoice
  | feeWork _ _ | creditWork _ _ => exact hcredits.retain (.of_refunds_eq rfl) rfl hgrows

/-! ## Histories -/

/-- What every ledger satisfies. -/
structure Ledger.Sound (l : Ledger) : Prop where
  database : l.toDatabase.Consistent
  contracts : l.ContractsSound
  fees : l.FeesSound
  notes : l.NotesSound
  credits : l.Credits

theorem Ledger.Fresh.sound (h : l.Fresh) : l.Sound where
  database := h.database.consistent
  contracts := by simp [Enrollment.ContractsSound, h.database.purchases]
  fees := by
    refine ⟨?_, ?_, ?_⟩
    · constructor <;> simp [h.feeAdjustments]
    · simp [h.feeAdjustments]
    · simp [h.feeAdjustments]
  notes := by
    refine ⟨?_, ?_, ?_, ?_⟩
    · constructor <;> simp [h.creditNotes]
    · simp [h.creditNotes]
    · simp [h.creditNotes]
    · simp [h.providerInvoiceId]
  credits := by constructor <;> simp [h.database.refunds]

theorem LedgerStep.change (h : LedgerStep now l l') (hl : l.Sound) : LedgerChange now l l' := by
  obtain ⟨env, op, hrun⟩ := h
  exact op.change hl.database ⟨hl.fees.issued.keys, hl.notes.issued.keys⟩ hrun

theorem LedgerChange.sound (h : LedgerChange now l l') (hl : l.Sound) : l'.Sound :=
  ⟨h.moves.keeps hl.database, h.contractsSound hl.contracts, h.feesSound hl.database hl.fees,
    h.notesSound hl.database hl.notes, h.credits hl.database hl.credits⟩

theorem Ledger.Reached.sound (h : l.Reached now) : l.Sound :=
  Reachable.stable h (fun _ hfresh ↦ hfresh.sound) fun _ _ _ hl hstep ↦ (hstep.change hl).sound hl

/-- A ledger that a history goes on to from a given one, under any order of start times. -/
def Ledger.ReachedFrom (l₀ : Ledger) (now : Timestamp) (l : Ledger) : Prop :=
  Reachable LedgerStep AnyOrder (· = l₀) now l

theorem Ledger.ReachedFrom.grows {l₀ : Ledger} (h : l₀.ReachedFrom now l) (hl₀ : l₀.Sound) :
    l.Sound ∧ l₀.Grows l := by
  refine Reachable.stable (P := fun l ↦ l.Sound ∧ l₀.Grows l) h (fun l heq ↦ ?_) ?_
  · rw [heq]
    exact ⟨hl₀, .refl l₀⟩
  · rintro t u v ⟨hu, hgrows⟩ hstep
    have hchange := hstep.change hu
    exact ⟨hchange.sound hu, hgrows.trans hchange.grows⟩

/-! ## Context -/

namespace Ledger.Sound

theorem seller (h : l.Sound) {ep : Purchase} (hep : ep ∈ l.purchases) (hpaid : 0 < ep.amountMinor) :
    nullIfBlank ep.connectedSellerId ≠ none := by
  have hvalid := (h.database.wellFormed.purchaseAccepted ep hep).valid
  have hdirect : ep.chargeModel = .directCharge := by
    obtain ⟨hdirect, -⟩ | ⟨-, hfree⟩ := hvalid.chargeModel
    · exact hdirect
    · exact absurd hfree hpaid.ne'
  obtain ⟨hseller, -⟩ := hvalid.directCharge.resolve_left fun hne ↦ hne hdirect
  obtain ⟨seller, hsome⟩ := Option.ne_none_iff_exists'.1 hseller
  rw [hsome]
  exact (h.contracts ep hep).seller seller hsome

theorem hasFeeContext (h : l.Sound) {provider : String} {w : FeeAdjustment}
    (hw : w ∈ l.feeAdjustments) (hfee : l.HasFee provider w.order) : l.HasFeeContext w.order := by
  obtain ⟨ep, hep, hid, -, hfee⟩ := hfee
  obtain ⟨owner, howner, hid', hpaid⟩ := h.fees.owner w hw
  obtain rfl := eq_of_key_eq h.database.wellFormed.purchaseKeys howner hep (hid'.trans hid.symm)
  obtain ⟨fee, hsome⟩ := Option.ne_none_iff_exists'.1 hfee
  refine ⟨owner, hep, hid, h.seller hep hpaid, ?_⟩
  rw [hsome]
  exact (h.contracts owner hep).feeId fee hsome

theorem hasCreditContext (h : l.Sound) {provider : String} {note : CreditNote}
    (hnote : note ∈ l.creditNotes) (hrefund : l.HasRefundToCredit provider note.order) :
    l.HasCreditContext note.order := by
  obtain ⟨-, r, hr, hid, hconfirmed⟩ := hrefund
  obtain ⟨row, hrow, hid', hinvoice⟩ := h.notes.refund note hnote
  obtain rfl := eq_of_key_eq h.database.refunds.keys hrow hr (hid'.trans hid.symm)
  obtain ⟨owner, howner, hlink, hmatches⟩ := h.database.refunds.owner row hrow
  obtain ⟨invoice, hsome⟩ := Option.ne_none_iff_exists'.1 hinvoice
  refine ⟨row, hr, hid, h.credits.providerRefund row hr hconfirmed, owner, howner, hlink,
    h.seller howner hmatches.paid, ?_⟩
  rw [hlink, hsome]
  exact h.notes.invoice _ invoice hsome

theorem exists_claimEventPurchaseApplicationFeeAdjustment (h : l.Sound) (locked : Uuid → Bool)
    (t : Timestamp) (provider : String) :
    ∃ result, claimEventPurchaseApplicationFeeAdjustment locked t provider l = .ok result := by
  obtain ⟨result, hclaim⟩ : ∃ result, claimWork locked feeTexts (l.PaysThrough provider)
      (l.HasFee provider) l.HasFeeContext t l.nextWorkUuid l.feeAdjustments = .ok result :=
    exists_claimWork fun w hw ↦ h.hasFeeContext hw
  rw [claimEventPurchaseApplicationFeeAdjustment, hclaim]
  exact ⟨_, rfl⟩

theorem exists_claimEventPurchaseCreditNote (h : l.Sound) (locked : Uuid → Bool) (t : Timestamp)
    (provider : String) :
    ∃ result, claimEventPurchaseCreditNote locked t provider l = .ok result := by
  obtain ⟨result, hclaim⟩ : ∃ result, claimWork locked creditNoteTexts
      (·.paymentProviderId = provider) (l.HasRefundToCredit provider) l.HasCreditContext t
      l.nextWorkUuid l.creditNotes = .ok result :=
    exists_claimWork fun w hw ↦ h.hasCreditContext hw
  rw [claimEventPurchaseCreditNote, hclaim]
  exact ⟨_, rfl⟩

end Ledger.Sound

/-! ## Exactly once -/

/-- Nothing is queued twice, and no row stops the workers. -/
structure Ledger.ExactlyOnce (l : Ledger) : Prop where
  noteOnce : ∀ refund, l.creditNotes.countP
    (fun note ↦ note.order.eventPurchaseRefundId = refund) ≤ 1
  feeOnce : ∀ purchase kind, l.feeAdjustments.countP
    (fun w ↦ (w.order.eventPurchaseId, w.order.kind) = (purchase, kind)) ≤ 1
  feeClaim : ∀ locked t provider, ∃ result,
    claimEventPurchaseApplicationFeeAdjustment locked t provider l = .ok result
  noteClaim : ∀ locked t provider, ∃ result,
    claimEventPurchaseCreditNote locked t provider l = .ok result

/-- The claim was made, and its item no longer holds it. -/
def ClaimIsOver {δ : Type} (next : Uuid) (rows : List (WorkItem δ)) (item claimId : Uuid) : Prop :=
  item < next ∧ claimId < next ∧ ∀ w ∈ rows, w.id = item → ¬ w.status.IsClaimedBy claimId

/-- What a ledger has still of an earlier one: the note of a refund that was confirmed and invoiced,
every order, every finished row as it was, and no use for a claim that was over. -/
structure Ledger.Preserves (l l' : Ledger) : Prop where
  credited : ∀ r ∈ l.refunds, r.providerRefundedAt ≠ none →
    l.providerInvoiceId r.eventPurchaseId ≠ none → l'.creditNotes.countP
      (fun note ↦ note.order.eventPurchaseRefundId = r.eventPurchaseRefundId) = 1
  fees : ∀ w ∈ l.feeAdjustments, ∃ w' ∈ l'.feeAdjustments,
    w'.id = w.id ∧ w'.order = w.order ∧ (w.status.IsDone → w' = w)
  notes : ∀ w ∈ l.creditNotes, ∃ w' ∈ l'.creditNotes,
    w'.id = w.id ∧ w'.order = w.order ∧ (w.status.IsDone → w' = w)
  staleFee : ∀ item claimId, ClaimIsOver l.nextWorkUuid l.feeAdjustments item claimId → ∀ t,
    (∀ object l'', recordEventPurchaseApplicationFeeAdjustmentSucceeded t item claimId object l'
      = .ok l'' → l'' = l')
    ∧ ∀ message l'', recordEventPurchaseApplicationFeeAdjustmentFailure t item claimId message l'
      ≠ .ok l''
  staleNote : ∀ item claimId, ClaimIsOver l.nextWorkUuid l.creditNotes item claimId → ∀ t,
    (∀ object l'', recordEventPurchaseCreditNoteSucceeded t item claimId object l' = .ok l'' →
      l'' = l')
    ∧ ∀ message l'', recordEventPurchaseCreditNoteFailure t item claimId message l' ≠ .ok l''

theorem Ledger.Sound.exactlyOnce (h : l.Sound) : l.ExactlyOnce where
  noteOnce := countP_key_le_one h.notes.unique
  feeOnce purchase kind := countP_key_le_one h.fees.unique (purchase, kind)
  feeClaim := h.exists_claimEventPurchaseApplicationFeeAdjustment
  noteClaim := h.exists_claimEventPurchaseCreditNote

theorem onFeeAdjustments_eq_self {f : List FeeAdjustment → Except DbError (List FeeAdjustment)}
    (hf : ∀ rows, f l.feeAdjustments = .ok rows → rows = l.feeAdjustments)
    (h : onFeeAdjustments f l = .ok l') : l' = l := by
  simp only [onFeeAdjustments, bind_eq_ok, Except.ok.injEq] at h
  obtain ⟨rows, hrows, rfl⟩ := h
  rw [hf rows hrows]

theorem onCreditNotes_eq_self {f : List CreditNote → Except DbError (List CreditNote)}
    (hf : ∀ rows, f l.creditNotes = .ok rows → rows = l.creditNotes)
    (h : onCreditNotes f l = .ok l') : l' = l := by
  simp only [onCreditNotes, bind_eq_ok, Except.ok.injEq] at h
  obtain ⟨rows, hrows, rfl⟩ := h
  rw [hf rows hrows]

theorem Ledger.Grows.preserves (h : l.Grows l') (hl : l.Sound) (hl' : l'.Sound) :
    l.Preserves l' := by
  constructor
  · intro r hr hconfirmed hinvoice
    refine le_antisymm (countP_key_le_one hl'.notes.unique _) (List.countP_pos_iff.2 ?_)
    obtain ⟨note, hnote, hsame⟩ := h.hasCreditNote (hl.credits.note r hr hconfirmed hinvoice)
    exact ⟨note, hnote, by simp [hsame]⟩
  · intro w hw
    obtain ⟨w', hw', hcontinues⟩ := h.fees.stays w hw
    exact ⟨w', hw', hcontinues.id, hcontinues.order, hcontinues.done⟩
  · intro w hw
    obtain ⟨w', hw', hcontinues⟩ := h.notes.stays w hw
    exact ⟨w', hw', hcontinues.id, hcontinues.order, hcontinues.done⟩
  · rintro item claimId ⟨hitem, hclaim, hover⟩ t
    have hstale := h.fees.not_claimed hitem hclaim hover
    refine ⟨fun object l'' hrun ↦ onFeeAdjustments_eq_self (fun rows ↦
      recordWorkSucceeded_of_stale hstale) hrun, fun message l'' hrun ↦ ?_⟩
    rw [recordEventPurchaseApplicationFeeAdjustmentFailure, onFeeAdjustments,
      recordWorkFailure_of_stale hstale] at hrun
    cases hrun
  · rintro item claimId ⟨hitem, hclaim, hover⟩ t
    have hstale := h.notes.not_claimed hitem hclaim hover
    refine ⟨fun object l'' hrun ↦ onCreditNotes_eq_self (fun rows ↦
      recordWorkSucceeded_of_stale hstale) hrun, fun message l'' hrun ↦ ?_⟩
    rw [recordEventPurchaseCreditNoteFailure, onCreditNotes,
      recordWorkFailure_of_stale hstale] at hrun
    cases hrun

/-- **Durable work is done exactly once**, whatever the order of reports, workers and operators. -/
theorem durable_work_exactly_once (h : l.Reached now) :
    ∀ now' l', l.ReachedFrom now' l' → l'.ExactlyOnce ∧ l.Preserves l' := by
  intro now' l' hfrom
  obtain ⟨hl', hgrows⟩ := hfrom.grows h.sound
  exact ⟨hl'.exactlyOnce, hgrows.preserves h.sound hl'⟩

/-! ### A sample ledger -/

/-- The sample event with automatic tax, and no work. -/
def Ledger.sample : Ledger where
  toDatabase := { Database.sample 1 [] with
    event := { sampleEvent with taxCalculationMode := .automatic } }
  creditNotes := []
  feeAdjustments := []
  nextWorkUuid := 1
  providerInvoiceId := fun _ ↦ none

/-- A payment of 10.00 with 1.00 of tax, whose event is canceled and whose refund is confirmed; the
invoice comes last. -/
def refundedSaleScript : List (Timestamp × LedgerOperation) :=
  [(0, .operation (sampleCheckout 7 none none)),
    (1, .operation
      (.attachCheckoutSessionToEventPurchase 1 (sampleSession "cs_1") none true)),
    (2, .operation (.reconcileEventPurchaseForCheckoutSession
      ⟨sampleSession "cs_1", some "pi_1", some "ch_1", some 1000, some 100, some "fee_1"⟩)),
    (3, .operation (.cancelEvent 2 1)),
    (4, .operation (.claimEventPurchaseRefund (fun _ ↦ false) "stripe")),
    (5, .operation (.recordEventPurchaseRefundSucceeded
      ⟨1, some "event-purchase-refund-1", some "re_1", some 2⟩)),
    (6, .attachInvoiceToEventPurchase 1 "acct_1" "in_1"),
    (7, .claimEventPurchaseApplicationFeeAdjustment (fun _ ↦ false) "stripe"),
    (8, .recordEventPurchaseApplicationFeeAdjustmentSucceeded 1 4 (some "fr_1"))]

theorem exists_ledgerReached (env : Env) (script : List (Timestamp × LedgerOperation))
    (l₀ : Ledger) (P : Ledger → Prop) (hfresh : l₀.Fresh)
    (h : Replays (LedgerOperation.run env) script l₀ P) :
    ∃ l : Ledger, l.Reached ((script.map Prod.fst).getLastD 0) ∧ P l := by
  obtain ⟨l, hscript, hP⟩ := exists_of_replays h
  exact ⟨l, reachable_of_replay (fun _ op _ _ hrun ↦ ⟨env, op, hrun⟩) (.start hfresh)
    (List.pairwise_of_forall fun _ _ ↦ trivial) hscript, hP⟩

theorem Ledger.sample_fresh : Ledger.sample.Fresh where
  database := by decide
  creditNotes := rfl
  feeAdjustments := rfl
  providerInvoiceId _ := rfl

theorem durable_work_exactly_once_sample :
    ∃ (now : Timestamp) (l : Ledger), l.Reached now
      ∧ l.feeAdjustments.map (fun w ↦ (w.order.amountMinor, decide w.status.IsDone))
        = [(1, true), (9, false)]
      ∧ l.creditNotes.length = 1
      ∧ ∀ now' l', l.ReachedFrom now' l' → l'.ExactlyOnce ∧ l.Preserves l' := by
  obtain ⟨l, hl, hfees, hnotes⟩ := exists_ledgerReached sampleEnv refundedSaleScript .sample
    (fun l ↦ l.feeAdjustments.map (fun w ↦ (w.order.amountMinor, decide w.status.IsDone))
        = [(1, true), (9, false)] ∧ l.creditNotes.length = 1) Ledger.sample_fresh
          (by decide +kernel)
  exact ⟨_, l, hl, hfees, hnotes, durable_work_exactly_once hl⟩

end Ocg
