import Ocg.Ledger.Steps

/-!
# What every ledger satisfies

The work tables only grow, and what is queued is queued once: an adjustment for a paid purchase and
its kind, a credit note for a refund that was confirmed while its purchase had an invoice. A sound
purchase keeps the fee that its checkout fixed, and names the seller it pays.
-/

namespace Ocg

open Relational

variable {δ : Type} {now : Timestamp} {l l' : Ledger}

/-! ## Issued identifiers -/

/-- Rows and claims have identifiers that were issued before `next`. -/
structure Issued (next : Uuid) (rows : List (WorkItem δ)) : Prop where
  keys : (rows.map WorkItem.id).Nodup
  id : ∀ w ∈ rows, w.id < next
  attempts : ∀ w ∈ rows, w.attemptCount ≤ 10
  claim : ∀ w ∈ rows, ∀ claimId, w.status.IsClaimedBy claimId → claimId < next

namespace Issued

variable {first next : Uuid} {rows rows' : List (WorkItem δ)}

theorem mono (h : Issued first rows) (hnext : first ≤ next) : Issued next rows :=
  ⟨h.keys, fun w hw ↦ (h.id w hw).trans_le hnext, h.attempts,
    fun w hw c hc ↦ (h.claim w hw c hc).trans_le hnext⟩

theorem keep (h : Issued first rows) (hnext : first ≤ next) (hk : KeepsWork first next rows rows') :
    Issued next rows' := by
  constructor
  · rw [hk.map_id_eq]
    exact h.keys
  · intro w hw
    obtain ⟨old, hold, hcontinues⟩ := hk.exists_of_mem hw
    rw [hcontinues.id]
    exact (h.id old hold).trans_le hnext
  · intro w hw
    obtain ⟨old, hold, hcontinues⟩ := hk.exists_of_mem hw
    exact hcontinues.attempts (h.attempts old hold)
  · intro w hw c hc
    obtain ⟨old, hold, hcontinues⟩ := hk.exists_of_mem hw
    obtain hc | ⟨-, hlt⟩ := hcontinues.claim c hc
    · exact (h.claim old hold c hc).trans_le hnext
    · exact hlt

theorem queue (h : Issued next rows) (order : δ) :
    Issued (next + 1) (rows ++ [newWorkItem next now order]) := by
  have hmem {w : WorkItem δ} (hw : w ∈ rows ++ [newWorkItem next now order]) :
      w ∈ rows ∨ w = newWorkItem next now order := by simpa using hw
  constructor
  · exact nodup_keys_append h.keys fun w hw ↦ (h.id w hw).ne
  · intro w hw
    obtain hw | rfl := hmem hw
    · exact (h.id w hw).trans (Nat.lt_succ_self next)
    · exact Nat.lt_succ_self next
  · intro w hw
    obtain hw | rfl := hmem hw
    · exact h.attempts w hw
    · exact Nat.zero_le 10
  · intro w hw c hc
    obtain hw | rfl := hmem hw
    · exact (h.claim w hw c hc).trans (Nat.lt_succ_self next)
    · exact absurd hc fun hclaimed ↦ hclaimed

end Issued

/-! ## Growing tables -/

/-- Every row stays and continues; a new row, and its claims, have new identifiers. -/
structure GrowsWork (first next : Uuid) (rows rows' : List (WorkItem δ)) : Prop where
  stays : ∀ w ∈ rows, ∃ w' ∈ rows', w'.Continues first next w
  origin : ∀ w' ∈ rows', (∃ w ∈ rows, w'.Continues first next w)
    ∨ (first ≤ w'.id ∧ ∀ claimId, w'.status.IsClaimedBy claimId → first ≤ claimId)

namespace GrowsWork

variable {first mid next : Uuid} {rows rows' rows'' : List (WorkItem δ)}

theorem refl (rows : List (WorkItem δ)) : GrowsWork first next rows rows :=
  ⟨fun w hw ↦ ⟨w, hw, .refl w⟩, fun w hw ↦ .inl ⟨w, hw, .refl w⟩⟩

theorem of_keeps (h : KeepsWork first next rows rows') : GrowsWork first next rows rows' :=
  ⟨fun _ ↦ h.stays, fun _ hw ↦ .inl (h.exists_of_mem hw)⟩

theorem queue (rows : List (WorkItem δ)) (order : δ) :
    GrowsWork first next rows (rows ++ [newWorkItem first now order]) := by
  refine ⟨fun w hw ↦ ⟨w, List.mem_append_left _ hw, .refl w⟩, fun w hw ↦ ?_⟩
  obtain hw | hw := List.mem_append.1 hw
  · exact .inl ⟨w, hw, .refl w⟩
  · rw [List.mem_singleton.1 hw]
    exact .inr ⟨le_rfl, fun _ hclaimed ↦ absurd hclaimed fun h ↦ h⟩

theorem trans (hfirst : first ≤ mid) (hnext : mid ≤ next) (h : GrowsWork first mid rows rows')
    (h' : GrowsWork mid next rows' rows'') : GrowsWork first next rows rows'' := by
  constructor
  · intro w hw
    obtain ⟨w', hw', hcontinues⟩ := h.stays w hw
    obtain ⟨w'', hw'', hcontinues'⟩ := h'.stays w' hw'
    exact ⟨w'', hw'', hcontinues.trans hfirst hnext hcontinues'⟩
  · intro w'' hw''
    obtain ⟨w', hw', hcontinues'⟩ | ⟨hid, hclaims⟩ := h'.origin w'' hw''
    · obtain ⟨w, hw, hcontinues⟩ | ⟨hid, hclaims⟩ := h.origin w' hw'
      · exact .inl ⟨w, hw, hcontinues.trans hfirst hnext hcontinues'⟩
      · refine .inr ⟨hcontinues'.id ▸ hid, fun c hc ↦ ?_⟩
        obtain hc | ⟨hle, -⟩ := hcontinues'.claim c hc
        · exact hclaims c hc
        · exact hfirst.trans hle
    · exact .inr ⟨hfirst.trans hid, fun c hc ↦ hfirst.trans (hclaims c hc)⟩

/-- A claim that is over, or was never made of the row, is not current later either. -/
theorem not_claimed {item claimId : Uuid} (h : GrowsWork first next rows rows')
    (hitem : item < first) (hclaim : claimId < first)
    (hover : ∀ w ∈ rows, w.id = item → ¬ w.status.IsClaimedBy claimId) :
    ∀ w' ∈ rows', w'.id = item → ¬ w'.status.IsClaimedBy claimId := by
  intro w' hw' hid hclaimed
  obtain ⟨w, hw, hcontinues⟩ | ⟨hle, -⟩ := h.origin w' hw'
  · obtain hold | ⟨hle, -⟩ := hcontinues.claim claimId hclaimed
    · exact hover w hw (hcontinues.id.symm.trans hid) hold
    · exact absurd hclaim (not_lt.2 hle)
  · exact absurd (hid ▸ hitem) (not_lt.2 hle)

end GrowsWork

/-- Both tables grow. -/
structure Ledger.Grows (l l' : Ledger) : Prop where
  issued : l.nextWorkUuid ≤ l'.nextWorkUuid
  fees : GrowsWork l.nextWorkUuid l'.nextWorkUuid l.feeAdjustments l'.feeAdjustments
  notes : GrowsWork l.nextWorkUuid l'.nextWorkUuid l.creditNotes l'.creditNotes

namespace Ledger.Grows

theorem refl (l : Ledger) : l.Grows l := ⟨le_rfl, .refl _, .refl _⟩

theorem trans {l'' : Ledger} (h : l.Grows l') (h' : l'.Grows l'') : l.Grows l'' :=
  ⟨h.issued.trans h'.issued, h.fees.trans h.issued h'.issued h'.fees,
    h.notes.trans h.issued h'.issued h'.notes⟩

theorem of_queueFeeAdjustment {order : FeeOrder} (h : queueFeeAdjustment now order l = .ok l') :
    l.Grows l' := by
  obtain ⟨-, rfl⟩ | ⟨-, -, rfl⟩ := queueFeeAdjustment_eq_ok h
  · exact .refl l'
  · exact ⟨Nat.le_succ _, .queue _ order, .refl _⟩

theorem of_queueCreditNote {ep : Purchase} {r : Refund} (h : queueCreditNote now ep r l = .ok l') :
    l.Grows l' := by
  obtain ⟨order, -, ⟨-, rfl⟩ | ⟨-, rfl⟩⟩ := queueCreditNote_eq_ok h
  · exact .refl l'
  · exact ⟨Nat.le_succ _, .refl _, .queue _ order⟩

theorem of_settleConfirmedRefund {r : Refund} {ep : Purchase}
    (h : settleConfirmedRefund now r ep l = .ok l') : l.Grows l' := by
  obtain ⟨queued, hfee, hnote⟩ := settleConfirmedRefund_eq_ok h
  have hqueued : l.Grows queued := by
    obtain ⟨-, rfl⟩ | ⟨amounts, -, hqueue⟩ := hfee
    · exact .refl queued
    · exact of_queueFeeAdjustment hqueue
  obtain ⟨-, rfl⟩ | ⟨-, hcredit⟩ := hnote
  · exact hqueued
  · exact hqueued.trans (of_queueCreditNote hcredit)

end Ledger.Grows

/-- **The tables of work only grow.** -/
theorem LedgerChange.grows (h : LedgerChange now l l') : l.Grows l' := by
  cases h with
  | partition _ _ _ | attachFee _ _ _ _ => exact ⟨le_rfl, .refl _, .refl _⟩
  | report _ _ _ _ _ _ hqueue =>
    have hqueued := Ledger.Grows.of_queueFeeAdjustment hqueue
    exact ⟨hqueued.issued, hqueued.fees, hqueued.notes⟩
  | confirm _ _ _ _ _ _ hsettle =>
    have hsettled := Ledger.Grows.of_settleConfirmedRefund hsettle
    exact ⟨hsettled.issued, hsettled.fees, hsettled.notes⟩
  | attachInvoice _ _ _ hqueue =>
    obtain ⟨-, rfl⟩ | ⟨r, -, -, -, hcredit⟩ := hqueue
    · exact ⟨le_rfl, .refl _, .refl _⟩
    · have hcredited := Ledger.Grows.of_queueCreditNote hcredit
      exact ⟨hcredited.issued, hcredited.fees, hcredited.notes⟩
  | feeWork hnext hkeeps => exact ⟨hnext, .of_keeps hkeeps, .refl _⟩
  | creditWork hnext hkeeps => exact ⟨hnext, .refl _, .of_keeps hkeeps⟩

/-! ## Sound contracts -/

/-- A contract with the fee that its price and rate give, a seller and a fee that are not blank. -/
structure Contract.IsSound (c : Contract) : Prop where
  bps : 0 ≤ c.platformFeeBps ∧ c.platformFeeBps < 10000
  fee : c.provisionalPlatformFeeAmountMinor = (c.amountMinor * c.platformFeeBps).tdiv 10000
  seller : ∀ seller ∈ c.connectedSellerId, nullIfBlank (some seller) ≠ none
  feeId : ∀ fee ∈ c.providerApplicationFeeId, nullIfBlank (some fee) ≠ none

theorem Contract.IsOpened.isSound {c : Contract} (h : c.IsOpened) : c.IsSound :=
  ⟨h.bps, h.fee, h.seller, fun fee hfee ↦ by rw [h.feeId] at hfee; cases hfee⟩

theorem Enrollment.KeepsContracts.forall {P : Contract → Prop} {s s' : Enrollment}
    (hkept : s.KeepsContracts s') (hopened : ∀ c : Contract, c.IsOpened → P c)
    (h : ∀ ep ∈ s.purchases, P ep.contract) : ∀ ep ∈ s'.purchases, P ep.contract := by
  intro row hrow
  obtain ⟨ep, hep, hsame⟩ | ⟨-, hnew⟩ := hkept.rows row hrow
  · rw [hsame]
    exact h ep hep
  · exact hopened _ hnew

def Enrollment.ContractsSound (s : Enrollment) : Prop := ∀ ep ∈ s.purchases, ep.contract.IsSound

theorem Enrollment.KeepsContracts.sound {s s' : Enrollment} (hkept : s.KeepsContracts s')
    (h : s.ContractsSound) : s'.ContractsSound :=
  hkept.forall (fun _ hopened ↦ hopened.isSound) h

theorem Enrollment.ContractsSound.replace {s : Enrollment} (h : s.ContractsSound)
    {ep new : Purchase}
    (hep : ep ∈ s.purchases) (hbps : new.platformFeeBps = ep.platformFeeBps)
    (hamount : new.amountMinor = ep.amountMinor)
    (hfee : new.provisionalPlatformFeeAmountMinor = ep.provisionalPlatformFeeAmountMinor)
    (hseller : new.connectedSellerId = ep.connectedSellerId) (hfeeId : new.FeeIdChk) :
    ({ s with purchases := replaceRow Purchase.eventPurchaseId new s.purchases } :
      Enrollment).ContractsSound := by
  intro row hrow
  obtain rfl | ⟨hrow, -⟩ := mem_replaceRow hrow
  · obtain ⟨hold, hprice, hpaid, -⟩ := h ep hep
    refine ⟨?_, ?_, ?_, hfeeId⟩
    · rw [Purchase.contract, hbps]
      exact hold
    · rw [Purchase.contract, hfee, hamount, hbps]
      exact hprice
    · rw [Purchase.contract, hseller]
      exact hpaid
  · exact h row hrow

theorem LedgerChange.contractsSound (h : LedgerChange now l l') (hl : l.ContractsSound) :
    l'.ContractsSound := by
  cases h with
  | partition _ hkept _ => exact hkept.sound hl
  | report hchecked hfeeId _ _ hkept _ hqueue =>
    have hep := (checkReport_eq_some hchecked).1
    have hrecorded := hkept.sound (hl.replace hep rfl rfl rfl rfl hfeeId)
    rw [(queueFeeAdjustment_frame hqueue).1]
    exact hrecorded
  | confirm _ _ hkept _ _ _ hsettle =>
    obtain ⟨queued, hfee, hnote⟩ := settleConfirmedRefund_eq_ok hsettle
    have hcredited : l'.toDatabase = queued.toDatabase := by
      obtain ⟨-, rfl⟩ | ⟨-, hcredit⟩ := hnote
      · rfl
      · exact (queueCreditNote_frame hcredit).1
    rw [hcredited]
    obtain ⟨-, rfl⟩ | ⟨amounts, -, hqueue⟩ := hfee
    · exact hkept.sound hl
    · rw [(queueFeeAdjustment_frame hqueue).1]
      exact hkept.sound hl
  | attachFee hep hblank _ _ =>
    refine hl.replace hep rfl rfl rfl rfl fun fee hfee ↦ ?_
    obtain rfl := Option.some.inj hfee
    exact hblank
  | attachInvoice _ _ _ hqueue =>
    obtain ⟨-, rfl⟩ | ⟨r, -, -, -, hcredit⟩ := hqueue
    · exact hl
    · rw [(queueCreditNote_frame hcredit).1]
      exact hl
  | feeWork _ _ | creditWork _ _ => exact hl

end Ocg
