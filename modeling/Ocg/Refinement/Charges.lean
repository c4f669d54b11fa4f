import Ocg.Ledger.Steps

/-!
# The charge of a refund

What the provider is asked for a refund is fixed once the refund is queued: the row keeps its terms,
and its purchase keeps the seller it pays and the payment that it was for. A report of the provider
may still come in for the purchase; it leaves the payment of a purchase that waits for its refund
alone.
-/

namespace Ocg

open Relational

variable {now : Timestamp} {db db' : Database}

/-- The row of a refund is stored, and its purchase pays the seller by the payment. -/
structure Database.Charges (db : Database) (r : Refund) (seller reference : Option String) :
    Prop where
  refund : ∃ row ∈ db.refunds, row.SameTerms r
  purchase : ∃ ep ∈ db.purchases, ep.eventPurchaseId = r.eventPurchaseId
    ∧ ep.connectedSellerId = seller ∧ ep.providerPaymentReference = reference

theorem Database.Charges.unique {r r' : Refund}
    {seller seller' reference reference' : Option String}
    (hdb : db.Consistent) (h : db.Charges r seller reference)
    (h' : db.Charges r' seller' reference') (hlink : r.eventPurchaseId = r'.eventPurchaseId) :
    r.SameTerms r' ∧ seller = seller' ∧ reference = reference' := by
  obtain ⟨⟨row, hrow, hterms⟩, ep, hep, hid, rfl, rfl⟩ := h
  obtain ⟨⟨row', hrow', hterms'⟩, ep', hep', hid', rfl, rfl⟩ := h'
  obtain rfl := eq_of_key_eq hdb.refunds.purchaseKeys hrow hrow'
    (hterms.purchase.trans (hlink.trans hterms'.purchase.symm))
  obtain rfl := eq_of_key_eq hdb.wellFormed.purchaseKeys hep hep'
    (hid.trans (hlink.trans hid'.symm))
  exact ⟨⟨hterms.id.symm.trans hterms'.id, hlink, hterms.amount.symm.trans hterms'.amount,
    hterms.key.symm.trans hterms'.key, hterms.provider.symm.trans hterms'.provider⟩, rfl, rfl⟩

theorem Enrollment.KeepsContracts.contract_eq {s s' : Enrollment} {ep new : Purchase}
    (h : s.KeepsContracts s') (hkeys : (s.purchases.map Purchase.eventPurchaseId).Nodup)
    (hissued : ep.eventPurchaseId < s.nextUuid) (hep : ep ∈ s.purchases)
    (hnew : new ∈ s'.purchases) (hid : new.eventPurchaseId = ep.eventPurchaseId) :
    new.contract = ep.contract := by
  obtain ⟨old, hold, heq⟩ | ⟨hfresh, -⟩ := h.rows new hnew
  · have hsame : new.eventPurchaseId = old.eventPurchaseId := congrArg Contract.eventPurchaseId heq
    obtain rfl := eq_of_key_eq hkeys hold hep (hsame.symm.trans hid)
    exact heq
  · exact absurd (hid ▸ hfresh) (Nat.not_le.2 hissued)

/-- A purchase with a refund keeps the seller and the payment, also through a report. -/
theorem Operation.keepsPayment {env : Env} {op : Operation} {ep new : Purchase} {r : Refund}
    (hdb : db.Consistent) (h : op.run env now db = .ok db') (hr : r ∈ db.refunds)
    (hlink : r.eventPurchaseId = ep.eventPurchaseId) (hep : ep ∈ db.purchases)
    (hnew : new ∈ db'.purchases) (hid : new.eventPurchaseId = ep.eventPurchaseId) :
    new.connectedSellerId = ep.connectedSellerId
      ∧ new.providerPaymentReference = ep.providerPaymentReference := by
  have hissued := hdb.wellFormed.purchaseIssued
  have hof {c c' : Contract} (heq : c = c') : c.connectedSellerId = c'.connectedSellerId
      ∧ c.providerPaymentReference = c'.providerPaymentReference := heq ▸ ⟨rfl, rfl⟩
  by_cases hreport : ∃ report, op = .reconcileEventPurchaseForCheckoutSession report
  · obtain ⟨report, rfl⟩ := hreport
    obtain ⟨outcome, hrun⟩ := stateOf_eq_ok.1 h
    obtain ⟨-, rfl⟩ | ⟨paid, amounts, hchecked, reference, hreference, hkept⟩ :=
      reconcileEventPurchaseForCheckoutSession_keeps hissued hrun
    · obtain rfl := eq_of_key_eq hdb.wellFormed.purchaseKeys hnew hep hid
      exact ⟨rfl, rfl⟩
    obtain ⟨hpaid, -, hawaits, -⟩ := checkReport_eq_some hchecked
    obtain ⟨old, hold, heq⟩ | ⟨hfresh, -⟩ := hkept.rows new hnew
    · obtain ⟨hsame, rfl⟩ | ⟨hne, hold⟩ := Enrollment.contract_withPurchase hold heq
      · obtain rfl := eq_of_key_eq hdb.wellFormed.purchaseKeys hpaid hep (hsame.symm.trans hid)
        -- the purchase has a refund, so it neither is pending nor has expired
        obtain ⟨owner, howner, howned, hmatches⟩ := hdb.refunds.owner r hr
        obtain rfl := eq_of_key_eq hdb.wellFormed.purchaseKeys howner hpaid (howned.trans hlink)
        have hstatus : owner.status = .refundPending := by
          obtain hstatus | ⟨hexpired, -⟩ := hawaits
          · obtain hpending | hrefund := List.mem_pair.1 hstatus
            · exact absurd hpending hmatches.started.1
            · exact hrefund
          · exact absurd hexpired hmatches.started.2
        obtain ⟨hseller, hpayment⟩ := hof heq
        exact ⟨hseller, hpayment.trans (hreference hstatus)⟩
      · have hsame : new.eventPurchaseId = old.eventPurchaseId :=
          congrArg Contract.eventPurchaseId heq
        obtain rfl := eq_of_key_eq hdb.wellFormed.purchaseKeys hold hep (hsame.symm.trans hid)
        exact hof heq
    · exact absurd (hid ▸ hfresh) (Nat.not_le.2 (hissued ep hep))
  · push Not at hreport
    exact hof ((op.keepsContracts hreport h).contract_eq hdb.wellFormed.purchaseKeys
      (hissued ep hep) hep hnew hid)

/-- **Every operation keeps the charge of a queued refund.** -/
theorem Operation.keepsCharges {env : Env} {op : Operation} {r : Refund}
    {seller reference : Option String} (hdb : db.Consistent) (h : op.run env now db = .ok db')
    (hcharges : db.Charges r seller reference) : db'.Charges r seller reference := by
  have hmoves := op.moves_any hdb.wellFormed hdb.refunds h
  obtain ⟨⟨row, hrow, hterms⟩, ep, hep, hid, rfl, rfl⟩ := hcharges
  constructor
  · obtain ⟨new, hnew, hnewId, -⟩ := hmoves.refund_stays hdb hrow
    exact ⟨new, hnew, hterms.trans ((op.writesRefunds h).sameTerms hdb.refunds hrow hnew hnewId)⟩
  · obtain ⟨new, hnew, hnewId, -⟩ := hmoves.purchase_stays hdb hep
    obtain ⟨hseller, hpayment⟩ := op.keepsPayment hdb h hrow
      (hterms.purchase.trans hid.symm) hep hnew
      hnewId
    exact ⟨new, hnew, hnewId.trans hid, hseller, hpayment⟩

end Ocg
