import Ocg.Refund.Finalize
import Ocg.Transition.Lifecycle

/-!
# Refund moves

A move of the whole partition is an enrollment move together with what happens to the refund row of
the purchase it touches, or a step of one refund row alone. `Database.RefundsConsistent` is what the
two tables agree on after every move: a purchase and its only refund row are at the same stage.

A terminally failed row is absorbing. `Refund.Continues` says what may still happen to a row over a
whole run.
-/

namespace Ocg

open Relational

/-! ## The moves -/

/-- The row that starts the refund of a purchase. -/
structure Refund.Starts (row : Refund) (db : Database) (ep : Purchase) : Prop where
  id : row.eventPurchaseRefundId = db.nextRefundUuid
  purchase : row.eventPurchaseId = ep.eventPurchaseId
  key : row.idempotencyKey = refundIdempotencyKey ep.eventPurchaseId
  status : row.status = .providerPending
  finalizedAt : row.finalizedAt = none
  recoveryCompletedAt : row.recoveryCompletedAt = none
  valid : row.Valid
  first : ∀ r ∈ db.refunds, r.eventPurchaseId ≠ ep.eventPurchaseId

/-- A step of a row that no terminal failure has settled: a claim, a provider result, a requeue. -/
structure Refund.Progresses (new r : Refund) : Prop where
  id : new.eventPurchaseRefundId = r.eventPurchaseRefundId
  purchase : new.eventPurchaseId = r.eventPurchaseId
  kind : new.kind = r.kind
  key : new.idempotencyKey = r.idempotencyKey
  amount : new.amountMinor = r.amountMinor
  finalizedAt : new.finalizedAt = r.finalizedAt
  recoveryCompletedAt : new.recoveryCompletedAt = r.recoveryCompletedAt
  pinned : r.providerRefundId = none ∨ new.providerRefundId = r.providerRefundId
  notTerminal : ¬ r.IsTerminal
  valid : new.Valid

/-- One movement of the partition. -/
inductive Move (mode : MoveMode) (now : Timestamp) : Database → Database → Prop
  | enrollment {db : Database} {s : Enrollment}
      (hmove : EnrollmentMove mode now .plain db.toEnrollment s) :
    Move mode now db { db with toEnrollment := s }
  /-- Requests, users and identifiers, which no invariant mentions. -/
  | bookkeeping {db : Database} {requests : List RefundRequest} {users : List User} {n : Uuid}
      (hn : db.nextRefundUuid ≤ n) :
    Move mode now db { db with nextRefundUuid := n, refundRequests := requests, users := users }
  | startRefund {db : Database} {ep : Purchase} {row : Refund} (hep : ep ∈ db.purchases)
      (hentitled : ep.status.IsEntitled) (hpaid : 0 < ep.amountMinor) (hstarts : row.Starts db ep)
      (hkind : row.kind ≠ .automaticUnfulfillableCheckout)
      (hamount : ep.financialAmounts.map (·.providerTotalMinor) = some row.amountMinor) :
    Move mode now db
      { db with nextRefundUuid := db.nextRefundUuid + 1, refunds := db.refunds ++ [row] }
  | reserve {db : Database} {s : Enrollment} {ep : Purchase} {row : Refund}
      (hmove : EnrollmentMove mode now (.reserve ep) db.toEnrollment s)
      (hpaid : 0 < ep.amountMinor) (hstarts : row.Starts db ep)
      (hkind : row.kind = .automaticUnfulfillableCheckout) :
    Move mode now db
      { db with
        toEnrollment := s
        nextRefundUuid := db.nextRefundUuid + 1
        refunds := db.refunds ++ [row] }
  | handOver {db : Database} {s : Enrollment} {ep : Purchase}
      (hmove : EnrollmentMove mode now (.handOver ep) db.toEnrollment s)
      (hrefund : ∃ r ∈ db.refunds, r.eventPurchaseId = ep.eventPurchaseId) :
    Move mode now db { db with toEnrollment := s }
  | progress {db : Database} {r new : Refund} (hr : r ∈ db.refunds) (hprogress : new.Progresses r)
      (hterminal : new.IsTerminal → r.finalizedAt = none) :
    Move mode now db { db with refunds := replaceRow Refund.eventPurchaseRefundId new db.refunds }
  | finalize {db : Database} {s : Enrollment} {ep : Purchase} {r : Refund} (hr : r ∈ db.refunds)
      (hlink : ep.eventPurchaseId = r.eventPurchaseId) (hfinalizedAt : r.finalizedAt = none)
      (hnotTerminal : ¬ r.IsTerminal) (hvalid : (r.finalize now).Valid)
      (hmove : EnrollmentMove mode now
        (.settle ep (r.kind ≠ .automaticUnfulfillableCheckout)) db.toEnrollment s) :
    Move mode now db
      { db with
        toEnrollment := s
        refunds := replaceRow Refund.eventPurchaseRefundId (r.finalize now) db.refunds }
  | recover {db : Database} {s : Enrollment} {ep : Purchase} {r : Refund} {actor : Uuid}
      {evidence : RecoveryEvidence} (hr : r ∈ db.refunds)
      (hlink : ep.eventPurchaseId = r.eventPurchaseId) (hterminal : r.IsTerminal)
      (hrecovery : r.recoveryCompletedAt = none) (hvalid : (r.recover now actor evidence).Valid)
      (hmove : EnrollmentMove mode now
        (.settle ep (r.finalizedAt = none ∧ r.kind ≠ .automaticUnfulfillableCheckout))
        db.toEnrollment s) :
    Move mode now db
      { db with
        toEnrollment := s
        refunds := replaceRow Refund.eventPurchaseRefundId (r.recover now actor evidence)
          db.refunds }
  | reopen {db : Database} {s : Enrollment} {ep : Purchase} {r new : Refund} (hr : r ∈ db.refunds)
      (hlink : ep.eventPurchaseId = r.eventPurchaseId) (hprogress : new.Progresses r)
      (hfinalizedAt : r.finalizedAt ≠ none) (hterminal : new.IsTerminal)
      (hmove : EnrollmentMove mode now (.reopen ep) db.toEnrollment s) :
    Move mode now db
      { db with
        toEnrollment := s
        refunds := replaceRow Refund.eventPurchaseRefundId new db.refunds }

theorem Move.enrollmentMove {mode : MoveMode} {now : Timestamp} {db db' : Database}
    (hmove : Move mode now db db') :
    db'.toEnrollment = db.toEnrollment
      ∨ ∃ effect, EnrollmentMove mode now effect db.toEnrollment db'.toEnrollment := by
  cases hmove with
  | enrollment hmove | reserve hmove _ _ _ | handOver hmove _ | finalize _ _ _ _ _ hmove
  | recover _ _ _ _ _ hmove | reopen _ _ _ _ _ hmove => exact .inr ⟨_, hmove⟩
  | bookkeeping _ | startRefund _ _ _ _ _ _ | progress _ _ _ => exact .inl rfl

/-! ## Consistency of purchase and refund -/

/-- A refund row and its purchase are at the same stage. -/
structure Refund.Matches (r : Refund) (ep : Purchase) : Prop where
  paid : 0 < ep.amountMinor
  started : ep.status ≠ .pending ∧ ep.status ≠ .expired
  automatic : r.kind = .automaticUnfulfillableCheckout → ¬ ep.status.IsEntitled
  finalized : r.finalizedAt ≠ none ↔ ep.status = .refunded ∨ ep.status = .refundRecoveryPending
  reopened : r.finalizedAt ≠ none → r.recoveryCompletedAt = none →
    (ep.status = .refundRecoveryPending ↔ r.IsTerminal)
  recovered : r.recoveryCompletedAt ≠ none → ep.status = .refunded
  amount : ep.status.IsEntitled →
    ep.financialAmounts.map (·.providerTotalMinor) = some r.amountMinor

/-- What a stored refund row satisfies by itself. -/
structure Refund.Sound (r : Refund) : Prop where
  valid : r.Valid
  key : r.idempotencyKey = refundIdempotencyKey r.eventPurchaseId
  recovered : r.recoveryCompletedAt ≠ none → r.IsTerminal

structure Database.RefundsConsistent (db : Database) : Prop where
  keys : (db.refunds.map Refund.eventPurchaseRefundId).Nodup
  issued : ∀ r ∈ db.refunds, r.eventPurchaseRefundId < db.nextRefundUuid
  purchaseKeys : (db.refunds.map Refund.eventPurchaseId).Nodup
  sound : ∀ r ∈ db.refunds, r.Sound
  owner : ∀ r ∈ db.refunds, ∃ ep ∈ db.purchases, ep.eventPurchaseId = r.eventPurchaseId
    ∧ r.Matches ep
  queued : ∀ ep ∈ db.purchases, ep.status ∈ [PurchaseStatus.refundPending, .refundRecoveryPending] →
    ∃ r ∈ db.refunds, r.eventPurchaseId = ep.eventPurchaseId

theorem Refund.Matches.of_plain {r : Refund} {ep new : Purchase} {released : Bool}
    (h : r.Matches ep) (hcontinues : new.Continues ep)
    (hstep : StatusStep ep new .plain released) : r.Matches new := by
  -- a plain step of a purchase keeps it at the stage of its refund row
  have hpaid : 0 < new.amountMinor := hcontinues.amount ▸ h.paid
  have hamount : ep.status.IsEntitled →
      new.financialAmounts.map (·.providerTotalMinor) = some r.amountMinor := by
    intro hentitled
    rcases hcontinues.financial with hsame | ⟨hnot, -⟩
    · exact hsame ▸ h.amount hentitled
    · exact absurd hentitled hnot
  cases hstep with
  | record hstatus =>
    exact ⟨hpaid, hstatus ▸ h.started, hstatus ▸ h.automatic, hstatus ▸ h.finalized,
      hstatus ▸ h.reopened, hstatus ▸ h.recovered, hstatus ▸ hamount⟩
  | exchange hfrom hto =>
    -- an entitled purchase has an open refund, and stays entitled
    have hopen : r.finalizedAt = none := by
      by_contra hne
      rcases h.finalized.1 hne with hstatus | hstatus <;> simp [hstatus] at hfrom
    have hnotRecovered : r.recoveryCompletedAt = none := by
      by_contra hne
      have := h.recovered hne
      simp [this] at hfrom
    refine ⟨hpaid, ?_, fun hkind ↦ absurd hfrom (h.automatic hkind), ?_, ?_, ?_,
      fun _ ↦ hamount hfrom⟩
    · rcases PurchaseStatus.isEntitled_iff.1 hto with hto | hto <;> simp [hto]
    · rcases PurchaseStatus.isEntitled_iff.1 hto with hto | hto <;> simp [hto, hopen]
    · exact fun hne ↦ absurd hopen hne
    · exact fun hne ↦ absurd hnotRecovered hne
  | complete hfrom _ | expire hfrom _ => exact absurd hfrom h.started.1
  | refundFree _ hamount _ => exact absurd hamount h.paid.ne'

namespace Database.RefundsConsistent

variable {db : Database}

theorem matches_of_link (h : db.RefundsConsistent) (hwf : db.toEnrollment.WellFormed) {r : Refund}
    (hr : r ∈ db.refunds) {ep : Purchase} (hep : ep ∈ db.purchases)
    (hlink : ep.eventPurchaseId = r.eventPurchaseId) : r.Matches ep := by
  obtain ⟨owner, howner, howner_link, hmatches⟩ := h.owner r hr
  rwa [eq_of_key_eq hwf.purchaseKeys hep howner (hlink.trans howner_link.symm)]

/-- One refund row is replaced by a row of the same purchase that matches it, while one purchase may
change. -/
theorem replaceRefund (h : db.RefundsConsistent) {s : Enrollment} {r new : Refund}
    (hr : r ∈ db.refunds) (hid : new.eventPurchaseRefundId = r.eventPurchaseRefundId)
    (hpurchase : new.eventPurchaseId = r.eventPurchaseId) (hsound : new.Sound)
    (hother : ∀ other ∈ db.refunds, other.eventPurchaseId ≠ r.eventPurchaseId →
      ∃ ep ∈ s.purchases, ep.eventPurchaseId = other.eventPurchaseId ∧ other.Matches ep)
    (hself : ∃ ep ∈ s.purchases, ep.eventPurchaseId = r.eventPurchaseId ∧ new.Matches ep)
    (hqueued : ∀ ep ∈ s.purchases,
      ep.status ∈ [PurchaseStatus.refundPending, .refundRecoveryPending] →
      ∃ other ∈ db.refunds, other.eventPurchaseId = ep.eventPurchaseId) :
    ({ db with
      toEnrollment := s
      refunds := replaceRow Refund.eventPurchaseRefundId new db.refunds } :
        Database).RefundsConsistent := by
  have hcolumn : ∀ row ∈ db.refunds, row.eventPurchaseRefundId = new.eventPurchaseRefundId →
      row.eventPurchaseId = new.eventPurchaseId := fun row hrow hkey ↦ by
    rw [eq_of_key_eq h.keys hrow hr (hkey.trans hid), hpurchase]
  refine ⟨?_, ?_, ?_, ?_, ?_, ?_⟩
  · rw [map_key_replaceRow]
    exact h.keys
  · intro row hrow
    rcases mem_replaceRow hrow with rfl | ⟨hrow, -⟩
    · rw [hid]
      exact h.issued r hr
    · exact h.issued row hrow
  · rw [map_replaceRow_eq _ hcolumn]
    exact h.purchaseKeys
  · intro row hrow
    rcases mem_replaceRow hrow with rfl | ⟨hrow, -⟩
    · exact hsound
    · exact h.sound row hrow
  · intro row hrow
    rcases mem_replaceRow hrow with rfl | ⟨hrow, hne⟩
    · rw [hpurchase]
      exact hself
    · refine hother row hrow fun hsame ↦ hne ?_
      rw [eq_of_key_eq h.purchaseKeys hrow hr hsame, hid]
  · intro ep hep hstatus
    obtain ⟨other, hother, hlink⟩ := hqueued ep hep hstatus
    by_cases hkey : other.eventPurchaseRefundId = new.eventPurchaseRefundId
    · exact ⟨new, new_mem_replaceRow hother hkey, (hcolumn other hother hkey).symm.trans hlink⟩
    · exact ⟨other, mem_replaceRow_of_ne hother hkey, hlink⟩

theorem addRefund (h : db.RefundsConsistent) {s : Enrollment} {ep : Purchase} {row : Refund}
    (hstarts : row.Starts db ep)
    (hold : ∀ r ∈ db.refunds, ∃ ep ∈ s.purchases, ep.eventPurchaseId = r.eventPurchaseId
      ∧ r.Matches ep)
    (hself : ∃ new ∈ s.purchases, new.eventPurchaseId = ep.eventPurchaseId ∧ row.Matches new)
    (hqueued : ∀ new ∈ s.purchases,
      new.status ∈ [PurchaseStatus.refundPending, .refundRecoveryPending] →
      new.eventPurchaseId = ep.eventPurchaseId
        ∨ ∃ r ∈ db.refunds, r.eventPurchaseId = new.eventPurchaseId) :
    ({ db with
      toEnrollment := s
      nextRefundUuid := db.nextRefundUuid + 1
      refunds := db.refunds ++ [row] } : Database).RefundsConsistent := by
  have hcases {r : Refund} (hr : r ∈ db.refunds ++ [row]) : r ∈ db.refunds ∨ r = row := by
    simpa using hr
  refine ⟨nodup_keys_append h.keys fun r hr ↦ ?_, ?_,
    nodup_keys_append h.purchaseKeys fun r hr ↦ ?_,
    ?_, ?_, ?_⟩
  · rw [hstarts.id]
    exact (h.issued r hr).ne
  · intro r hr
    rcases hcases hr with hr | rfl
    · exact (h.issued r hr).trans (Nat.lt_succ_self _)
    · rw [hstarts.id]
      exact Nat.lt_succ_self _
  · rw [hstarts.purchase]
    exact hstarts.first r hr
  · intro r hr
    rcases hcases hr with hr | rfl
    · exact h.sound r hr
    · exact ⟨hstarts.valid, by rw [hstarts.key, hstarts.purchase],
        fun hne ↦ absurd hstarts.recoveryCompletedAt hne⟩
  · intro r hr
    rcases hcases hr with hr | rfl
    · exact hold r hr
    · rw [hstarts.purchase]
      exact hself
  · intro new hnew hstatus
    rcases hqueued new hnew hstatus with hsame | ⟨r, hr, hlink⟩
    · exact ⟨row, by simp, hstarts.purchase.trans hsame.symm⟩
    · exact ⟨r, List.mem_append_left _ hr, hlink⟩

end Database.RefundsConsistent

/-! ## Preservation -/

section Preservation

variable {mode : MoveMode} {now : Timestamp} {db : Database} {s : Enrollment} {effect : Effect}

namespace Database.RefundsConsistent

theorem owner_of_ne (h : db.RefundsConsistent) (hwf : db.toEnrollment.WellFormed)
    (hchange : PurchaseChange db.toEnrollment s effect) {ep : Purchase}
    (heffect : ∀ row new released, StatusStep row new effect released → row = ep)
    {r : Refund} (hr : r ∈ db.refunds) (hne : r.eventPurchaseId ≠ ep.eventPurchaseId) :
    ∃ row ∈ s.purchases, row.eventPurchaseId = r.eventPurchaseId ∧ r.Matches row := by
  -- a move with one named purchase leaves the other owners alone
  obtain ⟨owner, howner, hlink, hmatches⟩ := h.owner r hr
  obtain ⟨new, hnew, rfl | ⟨-, released, hstep⟩⟩ := hchange.stays hwf.purchaseKeys howner
  · exact ⟨new, hnew, hlink, hmatches⟩
  · exact absurd (heffect owner new released hstep ▸ hlink).symm hne

theorem queued_of_ne (h : db.RefundsConsistent)
    (hchange : PurchaseChange db.toEnrollment s effect) {ep : Purchase}
    (heffect : ∀ row new released, StatusStep row new effect released → row = ep)
    {row : Purchase} (hrow : row ∈ s.purchases)
    (hstatus : row.status ∈ [PurchaseStatus.refundPending, .refundRecoveryPending]) :
    row.eventPurchaseId = ep.eventPurchaseId
      ∨ ∃ r ∈ db.refunds, r.eventPurchaseId = row.eventPurchaseId := by
  -- after a move with one named purchase, only that purchase may be newly queued
  rcases hchange.cases_of_mem hrow with hold | ⟨-, hpending, -⟩ | ⟨old, -, released, hc, hstep⟩
  · exact .inr (h.queued row hold hstatus)
  · simp [hpending] at hstatus
  · exact .inl (heffect old row released hstep ▸ hc.id)

theorem settleRefund (h : db.RefundsConsistent) (hwf : db.toEnrollment.WellFormed)
    (hchange : PurchaseChange db.toEnrollment s effect) (ep : Purchase) {r new : Refund}
    (hplain : effect ≠ .plain)
    (heffect : ∀ row new released, StatusStep row new effect released → row = ep)
    (hr : r ∈ db.refunds) (hlink : ep.eventPurchaseId = r.eventPurchaseId)
    (hid : new.eventPurchaseRefundId = r.eventPurchaseRefundId)
    (hpurchase : new.eventPurchaseId = r.eventPurchaseId) (hsound : new.Sound)
    (hmatches : ∀ row released, row.Continues ep → StatusStep ep row effect released →
      r.Matches ep → new.Matches row) :
    ({ db with
      toEnrollment := s
      refunds := replaceRow Refund.eventPurchaseRefundId new db.refunds } :
        Database).RefundsConsistent := by
  obtain ⟨hep, row, released, hcontinues, hstep, hpurchases, -⟩ :=
    hchange.moved_of_effect ep hplain heffect
  have hself : r.Matches ep := h.matches_of_link hwf hr hep hlink
  refine h.replaceRefund hr hid hpurchase hsound ?_ ?_ ?_
  · intro other hother hne
    exact h.owner_of_ne hwf hchange heffect hother (hlink ▸ hne)
  · refine ⟨row, ?_, hcontinues.id.trans hlink, hmatches row released hcontinues hstep hself⟩
    rw [hpurchases]
    exact new_mem_replaceRow hep hcontinues.id.symm
  · intro other hother hstatus
    rcases h.queued_of_ne hchange heffect hother hstatus with hsame | hqueued
    · exact ⟨r, hr, hlink.symm.trans hsame.symm⟩
    · exact hqueued

theorem enrollment (h : db.RefundsConsistent) (hwf : db.toEnrollment.WellFormed)
    (hchange : PurchaseChange db.toEnrollment s .plain) :
    ({ db with toEnrollment := s } : Database).RefundsConsistent := by
  refine { h with owner := ?_, queued := ?_ }
  · intro r hr
    obtain ⟨owner, howner, hlink, hmatches⟩ := h.owner r hr
    obtain ⟨new, hnew, rfl | ⟨hcontinues, released, hstep⟩⟩ :=
      hchange.stays hwf.purchaseKeys howner
    · exact ⟨new, hnew, hlink, hmatches⟩
    · exact ⟨new, hnew, hcontinues.id.trans hlink, hmatches.of_plain hcontinues hstep⟩
  · intro ep hep hstatus
    rcases hchange.cases_of_mem hep with hold | ⟨-, hpending, -⟩ | ⟨old, hold, _, hc, hstep⟩
    · exact h.queued ep hold hstatus
    · simp [hpending] at hstatus
    · cases hstep with
      | record hsame =>
        rw [hc.id]
        exact h.queued old hold (hsame ▸ hstatus)
      | exchange _ hto =>
        rcases PurchaseStatus.isEntitled_iff.1 hto with hto | hto <;> simp [hto] at hstatus
      | complete _ hto | expire _ hto | refundFree _ _ hto => simp [hto] at hstatus

end Database.RefundsConsistent

/-- **Every move keeps purchases and refund rows at the same stage.** -/
theorem Move.refundsConsistent {db' : Database} (hmove : Move mode now db db')
    (hwf : db.toEnrollment.WellFormed) (h : db.RefundsConsistent) : db'.RefundsConsistent := by
  cases hmove with
  | enrollment hmove => exact h.enrollment hwf hmove.purchaseChange
  | bookkeeping hn => exact { h with issued := fun r hr ↦ (h.issued r hr).trans_le hn }
  | @startRefund ep row hep hentitled hpaid hstarts hkind hamount =>
    refine h.addRefund hstarts h.owner ⟨ep, hep, rfl, ?_⟩ fun new hnew hstatus ↦
      .inr (h.queued new hnew hstatus)
    have hnone := hstarts.recoveryCompletedAt
    have hopen := hstarts.finalizedAt
    refine ⟨hpaid, ?_, fun hauto ↦ absurd hauto hkind, ?_, ?_, ?_, fun _ ↦ hamount⟩
    · rcases PurchaseStatus.isEntitled_iff.1 hentitled with hs | hs <;> simp [hs]
    · rcases PurchaseStatus.isEntitled_iff.1 hentitled with hs | hs <;> simp [hs, hopen]
    · exact fun hne ↦ absurd hopen hne
    · exact fun hne ↦ absurd hnone hne
  | @reserve s ep row hmove hpaid hstarts hkind =>
    have heffect : ∀ row new released, StatusStep row new (.reserve ep) released → row = ep := by
      rintro row new released ⟨⟩
      rfl
    have hchange := hmove.purchaseChange
    obtain ⟨hep, new, released, hcontinues, hstep, hpurchases, -⟩ :=
      hchange.moved_of_effect ep (by simp) heffect
    refine h.addRefund hstarts (fun r hr ↦
      h.owner_of_ne hwf hchange heffect hr (hstarts.first r hr))
      ⟨new, ?_, hcontinues.id, ?_⟩ fun row hrow ↦ h.queued_of_ne hchange heffect hrow
    · rw [hpurchases]
      exact new_mem_replaceRow hep hcontinues.id.symm
    · have hopen := hstarts.finalizedAt
      have hnone := hstarts.recoveryCompletedAt
      cases hstep with
      | reserve hfrom hto =>
        refine ⟨hcontinues.amount ▸ hpaid, by simp [hto], by simp [hto], by simp [hto, hopen], ?_,
          ?_,
          by simp [hto]⟩
        · exact fun hne ↦ absurd hopen hne
        · exact fun hne ↦ absurd hnone hne
  | @handOver s ep hmove hrefund =>
    have heffect : ∀ row new released, StatusStep row new (.handOver ep) released → row = ep := by
      rintro row new released ⟨⟩
      rfl
    have hchange := hmove.purchaseChange
    obtain ⟨hep, new, released, hcontinues, hstep, hpurchases, -⟩ :=
      hchange.moved_of_effect ep (by simp) heffect
    obtain ⟨r, hr, hlink⟩ := hrefund
    refine { h with owner := ?_, queued := ?_ }
    · intro other hother
      by_cases hsame : other.eventPurchaseId = ep.eventPurchaseId
      · refine ⟨new, ?_, hcontinues.id.trans hsame.symm, ?_⟩
        · rw [hpurchases]
          exact new_mem_replaceRow hep hcontinues.id.symm
        · have hmatches := h.matches_of_link hwf hother hep hsame.symm
          cases hstep with
          | handOver hfrom hto =>
            have hopen : other.finalizedAt = none := by
              by_contra hne
              rcases hmatches.finalized.1 hne with hs | hs <;> simp [hs] at hfrom
            refine ⟨hcontinues.amount ▸ hmatches.paid, by simp [hto], by simp [hto],
              by simp [hto, hopen], fun hne ↦ absurd hopen hne, fun hne ↦ ?_, by simp [hto]⟩
            have := hmatches.recovered hne
            simp [this] at hfrom
      · exact h.owner_of_ne hwf hchange heffect hother hsame
    · intro row hrow hstatus
      rcases h.queued_of_ne hchange heffect hrow hstatus with hsame | hqueued
      · exact ⟨r, hr, hlink.trans hsame.symm⟩
      · exact hqueued
  | @progress r new hr hprogress hterminal =>
    have hsound := h.sound r hr
    have hnotRecovered : r.recoveryCompletedAt = none := by
      by_contra hne
      exact hprogress.notTerminal (hsound.recovered hne)
    obtain ⟨owner, howner, hlink, hmatches⟩ := h.owner r hr
    refine h.replaceRefund hr hprogress.id hprogress.purchase
      ⟨hprogress.valid, by rw [hprogress.key, hprogress.purchase, hsound.key], fun hne ↦
        absurd (hprogress.recoveryCompletedAt.trans hnotRecovered) hne⟩
      (fun other hother _ ↦ h.owner other hother) ⟨owner, howner, hlink, ?_⟩ h.queued
    refine ⟨hmatches.paid, hmatches.started, hprogress.kind ▸ hmatches.automatic,
      hprogress.finalizedAt ▸ hmatches.finalized, fun hne _ ↦ ?_, fun hne ↦ ?_,
      hprogress.amount ▸ hmatches.amount⟩
    · rw [hprogress.finalizedAt] at hne
      exact ⟨fun hs ↦ absurd ((hmatches.reopened hne hnotRecovered).1 hs) hprogress.notTerminal,
        fun hnew ↦ absurd (hterminal hnew) hne⟩
    · exact absurd (hprogress.recoveryCompletedAt.trans hnotRecovered) hne
  | @finalize s ep r hr hlink hfinalizedAt hnotTerminal hvalid hmove =>
    have hsound := h.sound r hr
    refine h.settleRefund hwf hmove.purchaseChange ep (by simp) ?_ hr hlink rfl rfl
      ⟨hvalid, hsound.key, fun hne ↦ absurd (hsound.recovered hne) hnotTerminal⟩ ?_
    · rintro row new released ⟨⟩
      rfl
    · intro row released hcontinues hstep hmatches
      cases hstep with
      | settle _ hfrom hto =>
        refine ⟨hcontinues.amount ▸ hmatches.paid, by simp [hto], by simp [hto],
          by simp [hto, Refund.finalize], fun _ _ ↦ ?_, fun _ ↦ hto, by simp [hto]⟩
        simp [hto, Refund.finalize, Refund.IsTerminal]
  | @recover s ep r actor evidence hr hlink hterminal hrecovery hvalid hmove =>
    have hsound := h.sound r hr
    refine h.settleRefund hwf hmove.purchaseChange ep (by simp) ?_ hr hlink rfl rfl
      ⟨hvalid, hsound.key, fun _ ↦ hterminal⟩ ?_
    · rintro row new released ⟨⟩
      rfl
    · intro row released hcontinues hstep hmatches
      cases hstep with
      | settle _ hfrom hto =>
        refine ⟨hcontinues.amount ▸ hmatches.paid, by simp [hto], by simp [hto], ?_,
          fun _ hnone ↦ by simp [Refund.recover] at hnone, fun _ ↦ hto, by simp [hto]⟩
        simp [hto, Refund.recover]
  | @reopen s ep r new hr hlink hprogress hfinalizedAt hterminal hmove =>
    have hsound := h.sound r hr
    have hnotRecovered : new.recoveryCompletedAt = none := by
      by_contra hne
      exact hprogress.notTerminal (hsound.recovered (hprogress.recoveryCompletedAt ▸ hne))
    refine h.settleRefund hwf hmove.purchaseChange ep (by simp) ?_ hr hlink hprogress.id
      hprogress.purchase ⟨hprogress.valid, by rw [hprogress.key, hprogress.purchase, hsound.key],
        fun hne ↦ absurd hnotRecovered hne⟩ ?_
    · rintro row new released ⟨⟩
      rfl
    · intro row released hcontinues hstep hmatches
      cases hstep with
      | reopen hfrom hto =>
        refine ⟨hcontinues.amount ▸ hmatches.paid, by simp [hto], by simp [hto], ?_,
          fun _ _ ↦ by simp [hto, hterminal], fun hne ↦ absurd hnotRecovered hne, by simp [hto]⟩
        simp [hto, hprogress.finalizedAt, hfinalizedAt]

end Preservation

/-! ## The life of a refund row -/

/-- What may happen to a refund row: the provider's refund and the finalization are set once, and a
terminal failure ends in itself or in one recovery. -/
structure Refund.Continues (new r : Refund) : Prop where
  id : new.eventPurchaseRefundId = r.eventPurchaseRefundId
  providerRefundId : r.providerRefundId ≠ none → new.providerRefundId = r.providerRefundId
  finalizedAt : r.finalizedAt ≠ none → new.finalizedAt = r.finalizedAt
  terminal : r.IsTerminal → new = r ∨ (r.recoveryCompletedAt = none
    ∧ ∃ now actor evidence, new = r.recover now actor evidence)

theorem Refund.Continues.refl (r : Refund) : r.Continues r :=
  ⟨rfl, fun _ ↦ rfl, fun _ ↦ rfl, fun _ ↦ .inl rfl⟩

theorem Refund.Continues.trans {r r' r'' : Refund} (h : r'.Continues r) (h' : r''.Continues r') :
    r''.Continues r := by
  refine ⟨h'.id.trans h.id, fun hne ↦ ?_, fun hne ↦ ?_, fun hterminal ↦ ?_⟩
  · have hsame := h.providerRefundId hne
    exact (h'.providerRefundId (hsame ▸ hne)).trans hsame
  · have hsame := h.finalizedAt hne
    exact (h'.finalizedAt (hsame ▸ hne)).trans hsame
  · rcases h.terminal hterminal with rfl | ⟨hnone, now, actor, evidence, rfl⟩
    · exact h'.terminal hterminal
    · rcases h'.terminal hterminal with rfl | ⟨hnone', -⟩
      · exact .inr ⟨hnone, now, actor, evidence, rfl⟩
      · simp [Refund.recover] at hnone'

theorem Move.refund_continues {mode : MoveMode} {now : Timestamp} {db db' : Database}
    (hmove : Move mode now db db') (h : db.RefundsConsistent) {r : Refund}
    (hr : r ∈ db.refunds) : ∃ new ∈ db'.refunds, new.Continues r := by
  have hreplace : ∀ {old new : Refund}, old ∈ db.refunds →
      new.eventPurchaseRefundId = old.eventPurchaseRefundId → new.Continues old →
      ∃ row ∈ replaceRow Refund.eventPurchaseRefundId new db.refunds, row.Continues r := by
    intro old new hold hid hcontinues
    by_cases hkey : r.eventPurchaseRefundId = new.eventPurchaseRefundId
    · have hsame : r = old := eq_of_key_eq h.keys hr hold (hkey.trans hid)
      exact ⟨new, new_mem_replaceRow hr hkey, hsame ▸ hcontinues⟩
    · exact ⟨r, mem_replaceRow_of_ne hr hkey, .refl r⟩
  have hstep : ∀ {old new : Refund}, new.Progresses old → new.Continues old := by
    intro old new hprogress
    refine ⟨hprogress.id, fun hne ↦ ?_, fun _ ↦ hprogress.finalizedAt, fun hterminal ↦
      absurd hterminal hprogress.notTerminal⟩
    exact hprogress.pinned.resolve_left hne
  cases hmove with
  | enrollment _ | bookkeeping _ | handOver _ _ => exact ⟨r, hr, .refl r⟩
  | startRefund _ _ _ _ _ _ | reserve _ _ _ _ => exact ⟨r, List.mem_append_left _ hr, .refl r⟩
  | progress hold hprogress _ => exact hreplace hold hprogress.id (hstep hprogress)
  | finalize hold _ hfinalizedAt hnotTerminal _ _ =>
    exact hreplace hold rfl ⟨rfl, fun _ ↦ rfl, fun hne ↦ absurd hfinalizedAt hne,
      fun hterminal ↦ absurd hterminal hnotTerminal⟩
  | recover hold _ _ hrecovery _ _ =>
    refine hreplace hold rfl ⟨rfl, fun _ ↦ rfl, fun hne ↦ ?_, fun _ ↦
      .inr ⟨hrecovery, _, _, _, rfl⟩⟩
    obtain ⟨t, ht⟩ := Option.ne_none_iff_exists'.1 hne
    simp [Refund.recover, ht]
  | reopen hold _ hprogress _ _ _ => exact hreplace hold hprogress.id (hstep hprogress)

end Ocg
