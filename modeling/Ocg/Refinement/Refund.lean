import Ocg.Refinement.Cancellation

/-!
# Refunds as runs of moves

Every operation on refunds is a run of moves of the partition. Recording a provider result is one
step of the refund row; finalizing and recovering settle the purchase together with the row, and end
attendance afterwards, although the code ends it before.
-/

namespace Ocg

open Relational

section

variable (mode : MoveMode) {now : Timestamp} {s s' : Enrollment} {db db' : Database}

/-! ## Rows -/

theorem setPurchaseStatus_eq_ok {ep : Purchase} {status : PurchaseStatus}
    (hkeys : (db.purchases.map Purchase.eventPurchaseId).Nodup) (hep : ep ∈ db.purchases)
    (h : setPurchaseStatus ep.eventPurchaseId status db = .ok db') :
    db.AcceptsPurchase { ep with status := status } ∧ db' = { db with
      toEnrollment := { db.toEnrollment with
        purchases := replaceRow Purchase.eventPurchaseId { ep with status := status }
          db.purchases } } := by
  unfold setPurchaseStatus at h
  simp only [bind_eq_ok, Except.ok.injEq] at h
  obtain ⟨t, ht, rfl⟩ := h
  obtain ⟨haccepted, rfl⟩ := updatePurchase_eq_ok hkeys hep ht
  exact ⟨haccepted, rfl⟩

theorem setPurchaseStatus_move {ep : Purchase} {status : PurchaseStatus}
    (hkeys : (db.purchases.map Purchase.eventPurchaseId).Nodup) (hep : ep ∈ db.purchases)
    (hstep : PurchaseStep mode db.toEnrollment ep { ep with status := status } .plain false)
    (h : setPurchaseStatus ep.eventPurchaseId status db = .ok db') : Move mode now db db' := by
  obtain ⟨haccepted, rfl⟩ := setPurchaseStatus_eq_ok hkeys hep h
  exact .enrollment (.setStatus mode hep haccepted hstep)

theorem writeRefund_move {r new : Refund} (h : writeRefund new db = .ok db') (hr : r ∈ db.refunds)
    (hsame : new.eventPurchaseRefundId = r.eventPurchaseRefundId
      ∧ new.eventPurchaseId = r.eventPurchaseId ∧ new.kind = r.kind
      ∧ new.idempotencyKey = r.idempotencyKey ∧ new.amountMinor = r.amountMinor
      ∧ new.finalizedAt = r.finalizedAt ∧ new.recoveryCompletedAt = r.recoveryCompletedAt)
    (hpinned : r.providerRefundId = none ∨ new.providerRefundId = r.providerRefundId)
    (hnotTerminal : ¬ r.IsTerminal) (hterminal : new.IsTerminal → r.finalizedAt = none) :
    Move mode now db db' := by
  obtain ⟨hvalid, -, rfl⟩ := writeRefund_eq_ok.1 h
  obtain ⟨hid, hpurchase, hkind, hkey, hamount, hfinalizedAt, hrecovery⟩ := hsame
  exact .progress hr ⟨hid, hpurchase, hkind, hkey, hamount, hfinalizedAt, hrecovery, hpinned,
    hnotTerminal, hvalid⟩ hterminal

theorem ensureRefund_moves {ep : Purchase} {provider : Option String} {kind : RefundKind}
    {request initiatedBy : Option Uuid} {reviewNote : Option String} (hep : ep ∈ db.purchases)
    (hentitled : ep.status.IsEntitled) (hpaid : 0 < ep.amountMinor)
    (hkind : kind ≠ .automaticUnfulfillableCheckout)
    (h : ensureRefund now ep (ep.financialAmounts.map (·.providerTotalMinor)) provider kind request
      initiatedBy reviewNote db = .ok db') :
    PartitionMoves mode now db db' ∧ db'.toEnrollment = db.toEnrollment := by
  rcases ensureRefund_spec h with ⟨-, rfl⟩ | ⟨row, hstarts, hrow, hamount, rfl⟩
  · exact ⟨.refl, rfl⟩
  · exact ⟨.single (.startRefund hep hentitled hpaid hstarts (hrow ▸ hkind) hamount), rfl⟩

/-! ## Requests -/

theorem requestEventRefund_moves {env : Env} {communityId user : Uuid} {reason : Option String}
    (hwf : db.toEnrollment.WellFormed)
    (h : requestEventRefund env now communityId user reason db = .ok db') :
    PartitionMoves mode now db db' := by
  unfold requestEventRefund at h
  simp only [bind_eq_ok, require_eq_ok] at h
  obtain ⟨-, -, h⟩ := h
  split at h
  · simp at h
  · next ep hfind =>
    have hep := (List.mem_filter.1 (firstBy_mem hfind)).1
    simp only [bind_eq_ok, require_eq_ok, Except.ok.injEq] at h
    obtain ⟨-, -, -, hcompleted, db₁, hset, -, -, rfl⟩ := h
    have hkeys := hwf.purchaseKeys
    exact (Relation.ReflTransGen.single (.bookkeeping (Nat.le_succ _))).tail
      (setPurchaseStatus_move mode (by exact hkeys) (by exact hep)
        (.requestRefund hcompleted rfl) hset)

theorem rejectEventRefundRequest_moves {actor groupId purchase : Uuid} {note : Option String}
    (hwf : db.toEnrollment.WellFormed)
    (h : rejectEventRefundRequest now actor groupId purchase note db = .ok db') :
    PartitionMoves mode now db db' := by
  unfold rejectEventRefundRequest at h
  simp only [bind_eq_ok, require_eq_ok, Except.ok.injEq] at h
  obtain ⟨-, -, -, ⟨-, ⟨ep, hep, hid, hrequested⟩, -⟩, db₁, hset, rfl⟩ := h
  have hmove : Move mode now db db₁ := setPurchaseStatus_move mode hwf.purchaseKeys hep
    (.rejectRefund hrequested rfl) (hid ▸ hset)
  exact (Relation.ReflTransGen.single hmove).tail (.bookkeeping le_rfl)

theorem queueEventRefundRequestApproval_moves {actor groupId purchase : Uuid} {note : Option String}
    (h : queueEventRefundRequestApproval now actor groupId purchase note db = .ok db') :
    PartitionMoves mode now db db' := by
  unfold queueEventRefundRequestApproval at h
  simp only [bind_eq_ok, require_eq_ok] at h
  obtain ⟨-, -, h⟩ := h
  split at h
  · next ep err hfind _ =>
    have hep := List.mem_of_find?_eq_some hfind
    have hselected := List.find?_some hfind
    simp only [decide_eq_true_eq] at hselected
    split at h
    · simp only [bind_eq_ok, Except.ok.injEq] at h
      obtain ⟨-, -, rfl⟩ := h
      exact .refl
    · simp only [bind_eq_ok, require_eq_ok] at h
      obtain ⟨-, hready, h⟩ := h
      exact (Relation.ReflTransGen.single (.bookkeeping le_rfl)).trans
        (ensureRefund_moves mode (by exact hep) (by simp [hselected.2]) hready.1 (by simp) h).1
  · simp at h

/-! ## Attendance cancellation -/

theorem attachOrganizerDecision_move {actor purchase request : Uuid}
    (h : attachOrganizerDecision now actor purchase db = .ok (request, db')) :
    Move mode now db db' ∧ db'.toEnrollment = db.toEnrollment := by
  unfold attachOrganizerDecision at h
  split at h
  · simp only [Except.ok.injEq, Prod.mk.injEq] at h
    obtain ⟨-, rfl⟩ := h
    exact ⟨.bookkeeping (Nat.le_succ _), rfl⟩
  · simp only [bind_eq_ok, Except.ok.injEq, Prod.mk.injEq] at h
    obtain ⟨-, -, -, rfl⟩ := h
    exact ⟨.bookkeeping le_rfl, rfl⟩

theorem queueAttendanceRefund_moves {actor : Uuid} {ep : Purchase}
    (hwf : db.toEnrollment.WellFormed) (hep : ep ∈ db.purchases) (hentitled : ep.status.IsEntitled)
    (hpaid : 0 < ep.amountMinor) (h : queueAttendanceRefund now actor ep db = .ok db') :
    PartitionMoves mode now db db' := by
  unfold queueAttendanceRefund at h
  split at h
  · simp only [bind_eq_ok, Except.ok.injEq] at h
    obtain ⟨-, -, rfl⟩ := h
    exact .refl
  · simp only [bind_eq_ok, Prod.exists] at h
    obtain ⟨-, -, request, db₁, hattach, db₂, hensure, hset⟩ := h
    obtain ⟨hmove, hsame₁⟩ := attachOrganizerDecision_move mode hattach
    have hep₁ : ep ∈ db₁.purchases := hsame₁ ▸ hep
    obtain ⟨hmoves, hsame₂⟩ := ensureRefund_moves mode hep₁ hentitled hpaid (by simp) hensure
    have hep₂ : ep ∈ db₂.purchases := hsame₂ ▸ hep₁
    have hkeys : (db₂.purchases.map Purchase.eventPurchaseId).Nodup := by
      rw [hsame₂, hsame₁]
      exact hwf.purchaseKeys
    refine ((Relation.ReflTransGen.single hmove).trans hmoves).tail
      (setPurchaseStatus_move mode hkeys hep₂ ?_ hset)
    rcases PurchaseStatus.isEntitled_iff.1 hentitled with hcompleted | hrequested
    · exact .requestRefund hcompleted rfl
    · exact .record hrequested.symm rfl

/-- **Canceling a user's attendance is a run of moves.** -/
theorem cancelEventAttendeeAttendance_moves {actor groupId user : Uuid} {provider : Option String}
    {outcome : CancellationOutcome} (hwf : db.toEnrollment.WellFormed)
    (h : cancelEventAttendeeAttendance now actor groupId user provider db = .ok (outcome, db')) :
    PartitionMoves mode now db db' := by
  unfold cancelEventAttendeeAttendance at h
  simp only [bind_eq_ok, require_eq_ok] at h
  obtain ⟨-, -, -, -, h⟩ := h
  split at h
  · next ep hpurchase =>
    simp only [bind_eq_ok, Except.ok.injEq, Prod.mk.injEq] at h
    obtain ⟨db₁, hqueue, -, rfl⟩ := h
    obtain ⟨hsome, hpaid⟩ := Option.filter_eq_some_iff.1 hpurchase
    obtain ⟨hep, hselected⟩ := List.mem_filter.1 (firstBy_mem hsome)
    exact queueAttendanceRefund_moves mode hwf hep (of_decide_eq_true hselected).2
      (by simpa using hpaid) hqueue
  · simp only [bind_eq_ok, Except.ok.injEq, Prod.mk.injEq, Prod.exists] at h
    obtain ⟨found, s, hcancel, t, ht, -, rfl⟩ := h
    exact Moves.lift mode (releaseFreeAttendance_moves mode hwf hcancel ht)

/-! ## Provider results -/

theorem claimEventPurchaseRefund_moves {locked : Uuid → Bool} {provider : String}
    {claimed : Option Refund}
    (h : claimEventPurchaseRefund locked now provider db = .ok (claimed, db')) :
    PartitionMoves mode now db db' := by
  unfold claimEventPurchaseRefund at h
  split at h
  · simp only [Except.ok.injEq, Prod.mk.injEq] at h
    obtain ⟨-, rfl⟩ := h
    exact .refl
  · next r hfind =>
    obtain ⟨hr, hselected⟩ := List.mem_filter.1 (firstBy_mem hfind)
    obtain ⟨⟨-, -, hclaimable⟩, -⟩ := of_decide_eq_true hselected
    simp only [bind_eq_ok, require_eq_ok, Except.ok.injEq, Prod.mk.injEq] at h
    obtain ⟨db₁, hwrite, -, -, -, -, -, rfl⟩ := h
    refine (Relation.ReflTransGen.single (.bookkeeping (Nat.le_succ _))).tail
      (writeRefund_move mode hwrite hr ⟨rfl, rfl, rfl, rfl, rfl, rfl, rfl⟩ (.inr rfl) ?_ ?_)
    · rintro ⟨hfailed, hterminal⟩
      rcases hclaimable with hs | ⟨hs, -⟩ | ⟨-, hnot, -⟩
      · simp [hs] at hfailed
      · simp [hs] at hfailed
      · simp [hnot] at hterminal
    · rintro ⟨hfailed, -⟩
      simp [Refund.claim] at hfailed

theorem loadRefundForResult_spec {result : RefundResult} {r : Refund}
    {key providerRefundId : String}
    (h : loadRefundForResult result db = .ok (r, key, providerRefundId)) :
    r ∈ db.refunds ∧ r.eventPurchaseRefundId = result.eventPurchaseRefundId
      ∧ key = result.expectedIdempotencyKey.getD "" := by
  unfold loadRefundForResult at h
  simp only [bind_eq_ok] at h
  obtain ⟨-, -, -, -, h⟩ := h
  split at h
  · simp at h
  · next row hfind =>
    simp only [bind_eq_ok, require_eq_ok, Except.ok.injEq, Prod.mk.injEq] at h
    obtain ⟨-, -, rfl, hkey, -⟩ := h
    exact ⟨List.mem_of_find?_eq_some hfind, by simpa using List.find?_some hfind, hkey.symm⟩

theorem checkPinnedRefund_eq_ok {r : Refund} {providerRefundId : String} {u : Unit}
    (h : checkPinnedRefund r providerRefundId = .ok u) :
    r.providerRefundId = none ∨ some providerRefundId = r.providerRefundId := by
  unfold checkPinnedRefund at h
  rw [require_eq_ok] at h
  cases hid : r.providerRefundId with
  | none => exact .inl rfl
  | some id => exact .inr (congrArg some (h id hid).symm)

theorem recordEventPurchaseRefundPending_moves {result : RefundResult}
    (h : recordEventPurchaseRefundPending now result db = .ok db') :
    PartitionMoves mode now db db' := by
  unfold recordEventPurchaseRefundPending at h
  simp only [bind_eq_ok, Prod.exists] at h
  obtain ⟨r, key, providerRefundId, hload, h⟩ := h
  split at h
  · obtain rfl := Except.ok.inj h
    exact .refl
  · simp only [bind_eq_ok] at h
    obtain ⟨_, hpinned, h⟩ := h
    split at h
    · obtain rfl := Except.ok.inj h
      exact .refl
    · next hopen =>
      refine .single (writeRefund_move mode h (loadRefundForResult_spec hload).1
        ⟨rfl, rfl, rfl, rfl, rfl, rfl, rfl⟩ (checkPinnedRefund_eq_ok hpinned)
        (fun hterminal ↦ hopen (.inr hterminal)) ?_)
      rintro ⟨hfailed, -⟩
      simp at hfailed

theorem recordEventPurchaseRefundRetryableFailure_move {refund claim : Uuid}
    {message : Option String}
    (h : recordEventPurchaseRefundRetryableFailure now refund claim message db = .ok db') :
    Move mode now db db' := by
  unfold recordEventPurchaseRefundRetryableFailure at h
  split at h
  · simp at h
  · next r hfind =>
    have hselected := List.find?_some hfind
    simp only [decide_eq_true_eq] at hselected
    refine writeRefund_move mode h (List.mem_of_find?_eq_some hfind)
      ⟨rfl, rfl, rfl, rfl, rfl, rfl, rfl⟩ (.inr rfl) ?_ ?_
    · rintro ⟨hfailed, -⟩
      simp [hselected.2.2] at hfailed
    · rintro ⟨-, hterminal⟩
      simp at hterminal

theorem Refund.Matches.terminal_of_recovery {r : Refund} {ep : Purchase} (h : r.Matches ep)
    (hstatus : ep.status = .refundRecoveryPending) : r.IsTerminal := by
  -- the refund of a purchase in recovery failed terminally
  have hfinalized : r.finalizedAt ≠ none := h.finalized.2 (.inr hstatus)
  have hnotRecovered : r.recoveryCompletedAt = none := by
    by_contra hne
    have := h.recovered hne
    simp [hstatus] at this
  exact (h.reopened hfinalized hnotRecovered).1 hstatus

/-- A committed success is ignored, or confirms the row; the purchase of a finalized row that waits
for recovery is refunded again. -/
theorem recordEventPurchaseRefundSucceeded_eq_ok {result : RefundResult}
    (h : recordEventPurchaseRefundSucceeded now result db = .ok db') :
    ∃ (r : Refund) (key providerRefundId : String),
      loadRefundForResult result db = .ok (r, key, providerRefundId)
      ∧ (((r.idempotencyKey ≠ key ∨ r.IsTerminal) ∧ db' = db)
        ∨ (¬ (r.idempotencyKey ≠ key ∨ r.IsTerminal) ∧ checkPinnedRefund r providerRefundId = .ok ()
          ∧ ∃ db₁ : Database,
            ((r.status = .finalized ∧ db₁ = db)
              ∨ (r.status ≠ .finalized ∧ writeRefund (r.confirm now providerRefundId) db = .ok db₁))
            ∧ (db' = db₁ ∨ ∃ ep ∈ db₁.purchases, ep.eventPurchaseId = r.eventPurchaseId
              ∧ ep.status = .refundRecoveryPending
              ∧ setPurchaseStatus ep.eventPurchaseId .refunded db₁ = .ok db'))) := by
  unfold recordEventPurchaseRefundSucceeded at h
  simp only [bind_eq_ok, Prod.exists] at h
  obtain ⟨r, key, providerRefundId, hload, h⟩ := h
  refine ⟨r, key, providerRefundId, hload, ?_⟩
  split at h
  · next hignored => exact .inl ⟨hignored, (Except.ok.inj h).symm⟩
  next hcurrent =>
  simp only [bind_eq_ok] at h
  obtain ⟨⟨⟩, hpinned, h⟩ := h
  refine .inr ⟨hcurrent, hpinned, ?_⟩
  by_cases hfinal : r.status = .finalized
  · simp only [hfinal, if_true, ok_bind] at h
    refine ⟨db, .inl ⟨hfinal, rfl⟩, ?_⟩
    split at h
    · exact .inl (Except.ok.inj h).symm
    · split at h
      · next ep hfind =>
        have hselected := List.find?_some hfind
        simp only [decide_eq_true_eq] at hselected
        exact .inr ⟨ep, List.mem_of_find?_eq_some hfind, hselected.1, hselected.2, h⟩
      · simp only [bind_eq_ok, Except.ok.injEq] at h
        obtain ⟨-, -, rfl⟩ := h
        exact .inl rfl
  · simp only [hfinal, if_false, bind_eq_ok] at h
    obtain ⟨db₁, hwrite, h⟩ := h
    refine ⟨db₁, .inr ⟨hfinal, hwrite⟩, ?_⟩
    split at h
    · exact .inl (Except.ok.inj h).symm
    · split at h
      · next ep hfind =>
        have hselected := List.find?_some hfind
        simp only [decide_eq_true_eq] at hselected
        exact .inr ⟨ep, List.mem_of_find?_eq_some hfind, hselected.1, hselected.2, h⟩
      · simp only [bind_eq_ok, Except.ok.injEq] at h
        obtain ⟨-, -, rfl⟩ := h
        exact .inl rfl

theorem recordEventPurchaseRefundSucceeded_moves {result : RefundResult}
    (hwf : db.toEnrollment.WellFormed) (hrefunds : db.RefundsConsistent)
    (h : recordEventPurchaseRefundSucceeded now result db = .ok db') :
    PartitionMoves mode now db db' := by
  obtain ⟨r, key, providerRefundId, hload,
    ⟨-, rfl⟩ | ⟨hcurrent, hpinned, db₁, hwritten, hsettled⟩⟩ :=
    recordEventPurchaseRefundSucceeded_eq_ok h
  · exact .refl
  have hr := (loadRefundForResult_spec hload).1
  have hnotTerminal : ¬ r.IsTerminal := fun hterminal ↦ hcurrent (.inr hterminal)
  have hmoved : db₁.purchases = db.purchases ∧ PartitionMoves mode now db db₁ := by
    obtain ⟨-, rfl⟩ | ⟨-, hwrite⟩ := hwritten
    · exact ⟨rfl, .refl⟩
    · have hmove : Move mode now db db₁ := by
        refine writeRefund_move mode hwrite hr ⟨rfl, rfl, rfl, rfl, rfl, rfl, rfl⟩
          (checkPinnedRefund_eq_ok hpinned) hnotTerminal ?_
        rintro ⟨-, hterminal⟩
        simp [Refund.confirm] at hterminal
      obtain ⟨-, -, rfl⟩ := writeRefund_eq_ok.1 hwrite
      exact ⟨rfl, .single hmove⟩
  obtain rfl | ⟨ep, hep, hlink, hrecovery, -⟩ := hsettled
  · exact hmoved.2
  · -- no purchase of a row that is not terminal waits for recovery
    refine absurd ?_ hnotTerminal
    exact (hrefunds.matches_of_link hwf hr (hmoved.1 ▸ hep) hlink).terminal_of_recovery hrecovery

/-- The purchase of a finalized refund that is reopened, when it is. -/
def Database.Reopens (db : Database) (result : RefundResult) (ep : Purchase) : Prop :=
  ∃ r ∈ db.refunds, r.eventPurchaseRefundId = result.eventPurchaseRefundId
    ∧ r.idempotencyKey = result.expectedIdempotencyKey.getD "" ∧ ¬ r.IsTerminal
    ∧ r.eventPurchaseId = ep.eventPurchaseId ∧ ep.status = .refunded

instance (db : Database) (result : RefundResult) (ep : Purchase) :
    Decidable (db.Reopens result ep) :=
  inferInstanceAs (Decidable (∃ r ∈ db.refunds, _))

theorem recordEventPurchaseRefundTerminalFailed_moves {result : RefundResult}
    {message : Option String} (hwf : db.toEnrollment.WellFormed) (hrefunds : db.RefundsConsistent)
    (hreopen : mode.strict → ∀ ep ∈ db.purchases, db.Reopens result ep → db.MayReopen ep)
    (h : recordEventPurchaseRefundTerminalFailed result message db = .ok db') :
    PartitionMoves mode now db db' := by
  unfold recordEventPurchaseRefundTerminalFailed at h
  simp only [bind_eq_ok, Prod.exists] at h
  obtain ⟨r, key, providerRefundId, hload, h⟩ := h
  obtain ⟨hr, hrefund, hkey⟩ := loadRefundForResult_spec hload
  split at h
  · obtain rfl := Except.ok.inj h
    exact .refl
  · next hsame =>
    simp only [bind_eq_ok] at h
    obtain ⟨_, hpinned, h⟩ := h
    have hpinned := checkPinnedRefund_eq_ok hpinned
    split at h
    · obtain rfl := Except.ok.inj h
      exact .refl
    · next hnew =>
      -- a terminal row is pinned to the provider refund it failed with
      have hnotTerminal : ¬ r.IsTerminal := fun hterminal ↦ by
        have hvalid := (hrefunds.sound r hr).valid.terminal hterminal.2
        exact hnew ⟨hterminal, (hpinned.resolve_left hvalid.2).symm⟩
      simp only [bind_eq_ok] at h
      obtain ⟨db₁, hwrite, h⟩ := h
      split at h
      · next hopen =>
        obtain rfl := Except.ok.inj h
        exact .single (writeRefund_move mode hwrite hr ⟨rfl, rfl, rfl, rfl, rfl, rfl, rfl⟩ hpinned
          hnotTerminal fun _ ↦ hopen)
      · next hfinalized =>
        obtain ⟨hvalid, -, rfl⟩ := writeRefund_eq_ok.1 hwrite
        split at h
        · simp at h
        · next ep hfind =>
          have hep : ep ∈ db.purchases := List.mem_of_find?_eq_some hfind
          have hselected := List.find?_some hfind
          simp only [decide_eq_true_eq] at hselected
          have hmatches := hrefunds.matches_of_link hwf hr hep hselected.1
          have hstatus : ep.status = .refunded := by
            have := hselected.2
            simp only [List.mem_cons, List.not_mem_nil, or_false] at this
            exact this.resolve_right fun hrecovery ↦
              hnotTerminal (hmatches.terminal_of_recovery hrecovery)
          obtain ⟨haccepted, rfl⟩ :=
            setPurchaseStatus_eq_ok (by exact hwf.purchaseKeys) (by exact hep) h
          have hmove : EnrollmentMove mode now (.reopen ep) db.toEnrollment _ :=
            .setStatus mode hep haccepted (.reopen hstatus rfl fun hstrict ↦
              hreopen hstrict ep hep ⟨r, hr, hrefund, (not_not.1 hsame).trans hkey, hnotTerminal,
                hselected.1.symm, hstatus⟩)
          exact .single (.reopen hr hselected.1
            ⟨rfl, rfl, rfl, rfl, rfl, rfl, rfl, hpinned, hnotTerminal, hvalid⟩ hfinalized ⟨rfl, rfl⟩
            hmove)

/-! ## Requeueing -/

theorem requeueEventPurchaseRefund_move {groupId purchase : Uuid}
    (h : requeueEventPurchaseRefund now groupId purchase db = .ok db') : Move mode now db db' := by
  unfold requeueEventPurchaseRefund at h
  split at h
  · simp at h
  · next r hfind =>
    have hselected := List.find?_some hfind
    simp only [decide_eq_true_eq] at hselected
    refine writeRefund_move mode h (List.mem_of_find?_eq_some hfind)
      ⟨rfl, rfl, rfl, rfl, rfl, rfl, rfl⟩ (.inr rfl) ?_ ?_
    · rintro ⟨-, hterminal⟩
      simp [hselected.2.2.2.1] at hterminal
    · rintro ⟨hfailed, -⟩
      simp at hfailed

theorem requeueStaleEventPurchaseRefundClaims_moves (hrefunds : db.RefundsConsistent)
    (h : requeueStaleEventPurchaseRefundClaims now db = .ok db') :
    PartitionMoves mode now db db' := by
  refine (foldlM_suffix (P := fun rest t ↦ PartitionMoves mode now db t
    ∧ (rest.map Refund.eventPurchaseRefundId).Nodup ∧ ∀ r ∈ rest, r ∈ t.refunds
      ∧ r.HasStaleClaim now) ?_ ⟨.refl, nodup_keys_filter hrefunds.keys _, fun r hr ↦ ?_⟩ h).1
  · rintro r rest t t' ⟨hmoves, hnodup, hrest⟩ hwrite
    obtain ⟨hr, hstale⟩ := hrest r (by simp)
    have hmove : Move mode now t t' := by
      refine writeRefund_move mode hwrite hr ⟨rfl, rfl, rfl, rfl, rfl, rfl, rfl⟩ (.inr rfl) ?_ ?_
      · rintro ⟨hfailed, -⟩
        simp [hstale.1] at hfailed
      · rintro ⟨-, hterminal⟩
        simp [Refund.releaseClaim] at hterminal
    obtain ⟨-, -, rfl⟩ := writeRefund_eq_ok.1 hwrite
    rw [List.map_cons, List.nodup_cons] at hnodup
    refine ⟨hmoves.tail hmove, hnodup.2, fun row hrow ↦ ?_⟩
    obtain ⟨hmem, hrow_stale⟩ := hrest row (List.mem_cons_of_mem _ hrow)
    refine ⟨mem_replaceRow_of_ne hmem fun hid ↦ hnodup.1 ?_, hrow_stale⟩
    rw [← show row.eventPurchaseRefundId = r.eventPurchaseRefundId from hid]
    exact List.mem_map_of_mem hrow
  · have := List.mem_filter.1 hr
    exact ⟨this.1, of_decide_eq_true this.2⟩

/-! ## Settling -/

theorem reconcile_spec {tier : Option Uuid} {provider : Option String}
    (hwf : db.toEnrollment.WellFormed) (h : reconcile now tier provider db = .ok db') :
    ∃ s, db' = { db with toEnrollment := s } ∧ Moves mode now db.toEnrollment s
      ∧ db.toEnrollment.Reconciled now s := by
  obtain ⟨s, hs, rfl⟩ := onEnrollment_eq_ok h
  simp only [bind_eq_ok, Except.ok.injEq, Prod.exists] at hs
  obtain ⟨promoted, t, ht, rfl⟩ := hs
  exact ⟨t, rfl, reconcileEventEnrollment_spec mode hwf ht⟩

/-- Ending attendance, apart from the state it ran in: a run of moves once nothing but a replacement
entitles the user. -/
theorem endAttendance_spec (now : Timestamp) {ep : Purchase} (hwf : s.WellFormed)
    (h : endAttendance ep s = .ok s') :
    ∃ attendees, s' = { s with attendees := attendees } ∧ ∀ u : Enrollment,
      u.attendees = s.attendees →
      (¬ s.HasReplacement ep → ∀ row ∈ u.purchases, row.userId = ep.userId →
        ¬ row.status.IsEntitled) → Moves mode now u { u with attendees := attendees } := by
  unfold endAttendance at h
  split at h
  · obtain rfl := Except.ok.inj h
    refine ⟨s.attendees, rfl, fun u hu _ ↦ ?_⟩
    rw [← hu]
  · next hnone =>
    simp only [bind_eq_ok, Except.ok.injEq, Prod.exists] at h
    obtain ⟨found, t, ht, rfl⟩ := h
    obtain ⟨-, attendees, rfl, -, hmoves⟩ :=
      updateAttendees_cancel_spec mode now hwf.attendeeKeys ht
    exact ⟨attendees, rfl, fun u hu hfree ↦ hmoves u hu fun ea _ hselected row hrow huser ↦
      hfree hnone row hrow (huser.trans hselected.1)⟩

theorem not_entitled_of_refunded {ep row : Purchase} (hnone : ¬ s.HasReplacement ep)
    (hrow : row ∈ replaceRow Purchase.eventPurchaseId { ep with status := .refunded } s.purchases)
    (huser : row.userId = ep.userId) : ¬ row.status.IsEntitled := by
  -- once a purchase without a replacement is refunded, nothing entitles its user
  intro hentitled
  rcases mem_replaceRow hrow with rfl | ⟨hrow, hne⟩
  · simp at hentitled
  · exact hnone ⟨row, hrow, hne, hentitled, huser⟩

/-- The enrollment in which a purchase was just refunded, its discount given back or not. -/
def Enrollment.settle (s : Enrollment) (released : Bool) (ep : Purchase) : Enrollment :=
  releaseIf released ep.eventDiscountCodeId { s with
    purchases := replaceRow Purchase.eventPurchaseId { ep with status := .refunded } s.purchases }

@[simp] theorem Enrollment.settle_attendees (released : Bool) (ep : Purchase) :
    (s.settle released ep).attendees = s.attendees := releaseIf_attendees _ _ _

@[simp] theorem Enrollment.settle_purchases (released : Bool) (ep : Purchase) :
    (s.settle released ep).purchases
      = replaceRow Purchase.eventPurchaseId { ep with status := .refunded } s.purchases :=
  releaseIf_purchases _ _ _

theorem Enrollment.settle_setAttendees (released : Bool) (ep : Purchase)
    (attendees : List Attendee) : { s with attendees := attendees }.settle released ep
      = { s.settle released ep with attendees := attendees } := by
  unfold settle releaseIf
  split <;> rfl

/-- The open refund row of a purchase belongs to an entitled purchase, or to one that waits. -/
theorem Refund.Matches.settles {r : Refund} {ep : Purchase} (h : r.Matches ep)
    (hopen : r.finalizedAt = none) :
    ep.status.IsEntitled ∨ ep.status ∈ [PurchaseStatus.refundPending, .refundRecoveryPending] := by
  have hnot := mt h.finalized.2 (not_not.2 hopen)
  obtain ⟨hpending, hexpired⟩ := h.started
  cases hstatus : ep.status <;> simp_all

theorem releaseUnlessAutomatic (kind : RefundKind) (code : Option Uuid) :
    (if kind = .automaticUnfulfillableCheckout then s
      else releaseEventDiscountCodeAvailability code s)
      = releaseIf (kind ≠ .automaticUnfulfillableCheckout) code s := by
  unfold releaseIf
  by_cases hkind : kind = .automaticUnfulfillableCheckout <;> simp [hkind]

theorem finalizeEnrollment_spec (now : Timestamp) {kind : RefundKind} {ep : Purchase}
    (hwf : s.WellFormed) (hep : ep ∈ s.purchases) (h : finalizeEnrollment kind ep s = .ok s') :
    ∃ attendees, s.AcceptsPurchase { ep with status := .refunded }
      ∧ s' = { s.settle (kind ≠ .automaticUnfulfillableCheckout) ep with attendees := attendees }
      ∧ ∀ released, Moves mode now (s.settle released ep)
        { s.settle released ep with attendees := attendees } := by
  unfold finalizeEnrollment refundPurchase at h
  simp only [bind_eq_ok, Except.ok.injEq] at h
  obtain ⟨t, ht, u, hu, rfl⟩ := h
  obtain ⟨attendees, rfl, hmoves⟩ := endAttendance_spec mode now hwf ht
  obtain ⟨haccepted, rfl⟩ := updatePurchase_eq_ok (by exact hwf.purchaseKeys) (by exact hep) hu
  rw [releaseUnlessAutomatic]
  refine ⟨attendees, haccepted.congr rfl, Enrollment.settle_setAttendees _ _ _, fun released ↦
    hmoves _ (Enrollment.settle_attendees _ _) fun hnone row hrow huser ↦ ?_⟩
  rw [Enrollment.settle_purchases] at hrow
  exact not_entitled_of_refunded hnone hrow huser

theorem settleRefund_moves {claim : Option Uuid} {r : Refund} {ep : Purchase}
    {provider : Option String} (hwf : db.toEnrollment.WellFormed) (hrefunds : db.RefundsConsistent)
    (hr : r ∈ db.refunds) (hep : ep ∈ db.purchases)
    (hlink : ep.eventPurchaseId = r.eventPurchaseId) (hclaimed : r.claimId = claim)
    (h : settleRefund now claim r ep provider db = .ok db') : PartitionMoves mode now db db' := by
  subst hclaimed
  simp only [settleRefund, bind_eq_ok, require_eq_ok] at h
  obtain ⟨db₁, hsettle, -, hclaim, db₂, hwrite, hrest⟩ := h
  obtain ⟨s, hs, rfl⟩ := onEnrollment_eq_ok hsettle
  obtain ⟨hvalid, -, rfl⟩ := writeRefund_eq_ok.1 hwrite
  -- the claimed row is being processed, so it is open and its purchase is not pending
  have hprocessing : r.status = .processing := by
    rcases (hrefunds.sound r hr).valid.claim with ⟨hstatus, -⟩ | ⟨-, hnone, -⟩
    · exact hstatus
    · exact absurd hnone hclaim
  have hopen : r.finalizedAt = none := by
    rcases (hrefunds.sound r hr).valid.finalizedAt with ⟨hs, -⟩ | hs | ⟨-, hnone⟩
    · simp [hs] at hprocessing
    · simp [hs] at hprocessing
    · exact hnone
  have hmatches := hrefunds.matches_of_link hwf hr hep hlink
  obtain ⟨attendees, haccepted, hstate, hattendance⟩ :=
    finalizeEnrollment_spec mode now hwf hep hs
  subst hstate
  have hmove : EnrollmentMove mode now (.settle ep (r.kind ≠ .automaticUnfulfillableCheckout))
      db.toEnrollment (db.settle (r.kind ≠ .automaticUnfulfillableCheckout) ep) :=
    .setStatus mode hep haccepted (.settle _ (hmatches.settles hopen) rfl)
  let u : Database := { db with
    toEnrollment := db.settle (r.kind ≠ .automaticUnfulfillableCheckout) ep
    refunds := replaceRow Refund.eventPurchaseRefundId (r.finalize now) db.refunds }
  let v : Database := { u with
    toEnrollment := { u.toEnrollment with attendees := attendees } }
  have hsettled : Move mode now db u :=
    .finalize hr hlink hopen (by simp [Refund.IsTerminal, hprocessing]) hvalid hmove
  have hended : PartitionMoves mode now u v := Moves.lift mode (hattendance _)
  have happroved : Move mode now v (approveRequest now r v) := .bookkeeping le_rfl
  have hreach : PartitionMoves mode now db (approveRequest now r v) :=
    ((Relation.ReflTransGen.single hsettled).trans hended).tail happroved
  obtain ⟨w, rfl, hlast, -⟩ := reconcile_spec mode
    (PartitionMoves.consistent mode hreach hwf hrefunds).1 hrest
  exact hreach.trans (Moves.lift mode hlast)

/-- **Finalizing a refund is a run of moves.** -/
theorem finalizeEventPurchaseRefund_moves {refund : Uuid} {claim : Option Uuid}
    {hasNotification : Bool} {provider : Option String} (hwf : db.toEnrollment.WellFormed)
    (hrefunds : db.RefundsConsistent)
    (h : finalizeEventPurchaseRefund now refund claim hasNotification provider db = .ok db') :
    PartitionMoves mode now db db' := by
  unfold finalizeEventPurchaseRefund at h
  simp only [bind_eq_ok, require_eq_ok] at h
  obtain ⟨-, -, h⟩ := h
  split at h
  · simp at h
  · next r hfind =>
    have hr : r ∈ db.refunds := List.mem_of_find?_eq_some hfind
    split at h
    · simp at h
    · next ep hfind' =>
      have hep : ep ∈ db.purchases := List.mem_of_find?_eq_some hfind'
      have hlink : ep.eventPurchaseId = r.eventPurchaseId := by
        simpa using List.find?_some hfind'
      simp only [bind_eq_ok] at h
      obtain ⟨db₁, hreconcile, h⟩ := h
      obtain ⟨t, rfl, hmoves, hreconciled⟩ := reconcile_spec mode hwf hreconcile
      have hfirst : PartitionMoves mode now db { db with toEnrollment := t } :=
        Moves.lift mode hmoves
      split at h
      · obtain rfl := Except.ok.inj h
        exact hfirst
      · simp only [bind_eq_ok, require_eq_ok] at h
        obtain ⟨-, ⟨hclaimed, -⟩, hsettle⟩ := h
        obtain ⟨hwf₁, hrefunds₁⟩ := PartitionMoves.consistent mode hfirst hwf hrefunds
        have hmatches := hrefunds.matches_of_link hwf hr hep hlink
        have hep₁ : ep ∈ t.purchases :=
          hreconciled.kept ep hep fun hdue ↦ hmatches.started.1 hdue.1
        exact hfirst.trans (settleRefund_moves mode hwf₁ hrefunds₁ hr hep₁ hlink hclaimed hsettle)

/-! ## Recovery -/

theorem Enrollment.settle_keeps (now : Timestamp) (released : Bool) (ep : Purchase) :
    Moves mode now (s.settle released ep)
      { s.settle released ep with attendees := s.attendees } := by
  rw [← Enrollment.settle_attendees released ep]

theorem recoverEnrollment_spec (now : Timestamp) {kind : RefundKind} {ep : Purchase}
    (hwf : s.WellFormed) (h : recoverEnrollment kind ep s = .ok s') :
    ∃ attendees, s' = { releaseIf (kind ≠ .automaticUnfulfillableCheckout) ep.eventDiscountCodeId s
        with attendees := attendees }
      ∧ ∀ released, Moves mode now (s.settle released ep)
        { s.settle released ep with attendees := attendees } := by
  unfold recoverEnrollment at h
  by_cases hends : kind ∈ [RefundKind.attendanceCancellation, .refundRequestApproval]
  · simp only [if_pos hends, bind_eq_ok, Except.ok.injEq, releaseUnlessAutomatic] at h
    obtain ⟨t, ht, rfl⟩ := h
    obtain ⟨attendees, rfl, hmoves⟩ := endAttendance_spec mode now hwf ht
    refine ⟨attendees, ?_, fun released ↦
      hmoves _ (Enrollment.settle_attendees _ _) fun hnone row hrow huser ↦ ?_⟩
    · unfold releaseIf
      split <;> rfl
    · rw [Enrollment.settle_purchases] at hrow
      exact not_entitled_of_refunded hnone hrow huser
  · simp only [if_neg hends, bind_eq_ok, Except.ok.injEq, releaseUnlessAutomatic] at h
    obtain ⟨_, rfl, rfl⟩ := h
    refine ⟨s.attendees, ?_, fun released ↦ s.settle_keeps mode now released ep⟩
    rw [releaseIf_eq]

/-- A terminally failed row that nothing has recovered belongs to an open purchase. -/
theorem Refund.Matches.recovers {r : Refund} {ep : Purchase} (h : r.Matches ep)
    (hterminal : r.IsTerminal) (hrecovery : r.recoveryCompletedAt = none) :
    ep.status.IsEntitled ∨ ep.status ∈ [PurchaseStatus.refundPending, .refundRecoveryPending] := by
  by_cases hopen : r.finalizedAt = none
  · exact h.settles hopen
  · right
    simp [(h.reopened hopen hrecovery).2 hterminal]

theorem settleRecovery_moves {r : Refund} {ep : Purchase} {released : Bool} {actor : Uuid}
    {evidence : RecoveryEvidence} {attendees : List Attendee} {requests : List RefundRequest}
    {db₂ db₃ : Database} (hwf : db.toEnrollment.WellFormed) (hrefunds : db.RefundsConsistent)
    (hr : r ∈ db.refunds) (hep : ep ∈ db.purchases)
    (hlink : ep.eventPurchaseId = r.eventPurchaseId) (hterminal : r.IsTerminal)
    (hrecovery : r.recoveryCompletedAt = none)
    (hreleased : released = decide
      (r.finalizedAt = none ∧ r.kind ≠ .automaticUnfulfillableCheckout))
    (hended : Moves mode now (db.settle released ep)
      { db.settle released ep with attendees := attendees })
    (hwrite : writeRefund (r.recover now actor evidence) { db with
      toEnrollment := { releaseIf released ep.eventDiscountCodeId db.toEnrollment
        with attendees := attendees }
      refundRequests := requests } = .ok db₂)
    (hset : setPurchaseStatus ep.eventPurchaseId .refunded db₂ = .ok db₃) :
    PartitionMoves mode now db db₃ := by
  -- the two writes of a recovery, once its local half is done
  obtain ⟨hvalid, -, rfl⟩ := writeRefund_eq_ok.1 hwrite
  obtain ⟨haccepted, rfl⟩ := setPurchaseStatus_eq_ok (by simpa using hwf.purchaseKeys)
    (by simpa using hep) hset
  have hmove : EnrollmentMove mode now (.settle ep released) db.toEnrollment
      (db.settle released ep) :=
    .setStatus mode hep (haccepted.congr (by simp))
      (.settle _ ((hrefunds.matches_of_link hwf hr hep hlink).recovers hterminal hrecovery) rfl)
  let u : Database := { db with
    toEnrollment := db.settle released ep
    refunds := replaceRow Refund.eventPurchaseRefundId (r.recover now actor evidence) db.refunds }
  let v : Database := { u with toEnrollment := { u.toEnrollment with attendees := attendees } }
  have hsettled : Move mode now db u := .recover hr hlink hterminal hrecovery hvalid
    (hreleased ▸ hmove)
  have hended : PartitionMoves mode now u v := Moves.lift mode hended
  have happroved : Move mode now v { v with refundRequests := requests } := .bookkeeping le_rfl
  convert (Relation.ReflTransGen.single hsettled).trans (hended.tail happroved) using 2
  simp only [u, v, Enrollment.settle, releaseIf]
  split <;> rfl

/-- **Completing a recovery is a run of moves.** -/
theorem completeEventPurchaseRefundRecovery_moves {env : Env} {refund : Uuid}
    {evidence : RecoveryEvidence} {provider : Option String} {completed : Bool}
    (hwf : db.toEnrollment.WellFormed) (hrefunds : db.RefundsConsistent)
    (h : completeEventPurchaseRefundRecovery env now refund evidence provider db
      = .ok (completed, db')) :
    PartitionMoves mode now db db' := by
  unfold completeEventPurchaseRefundRecovery at h
  split at h
  · simp at h
  · next actor _ =>
    simp only [bind_eq_ok, require_eq_ok] at h
    obtain ⟨-, -, -, -, -, -, h⟩ := h
    split at h
    · simp at h
    · next r hfind =>
      have hr : r ∈ db.refunds := List.mem_of_find?_eq_some hfind
      simp only [bind_eq_ok, require_eq_ok] at h
      obtain ⟨-, -, db₁, hreconcile, h⟩ := h
      obtain ⟨t, rfl, hmoves, -⟩ := reconcile_spec mode hwf hreconcile
      have hreconciled : PartitionMoves mode now db { db with toEnrollment := t } :=
        Moves.lift mode hmoves
      obtain ⟨hwf₁, hrefunds₁⟩ := PartitionMoves.consistent mode hreconciled hwf hrefunds
      split at h
      · simp at h
      · next ep hfind' =>
        have hep : ep ∈ t.purchases := List.mem_of_find?_eq_some hfind'
        have hlink : ep.eventPurchaseId = r.eventPurchaseId := by
          simpa using List.find?_some hfind'
        simp only [bind_eq_ok, require_eq_ok] at h
        obtain ⟨-, -, h⟩ := h
        split at h
        · simp only [bind_eq_ok, Except.ok.injEq, Prod.mk.injEq] at h
          obtain ⟨-, -, -, rfl⟩ := h
          exact hreconciled
        · next hrecovery =>
          simp only [bind_eq_ok, require_eq_ok] at h
          obtain ⟨-, ⟨hterminal, -⟩, -, -, -, -, h⟩ := h
          -- both branches end with the same two writes and a reconciliation
          have hrest : ∃ db₂, PartitionMoves mode now db db₂
              ∧ ∃ tier, reconcile now tier provider db₂ = .ok db' := by
            split at h
            · next hopen =>
              simp only [bind_eq_ok, Except.ok.injEq, Prod.mk.injEq] at h
              obtain ⟨db₂, hlocal, db₃, rfl, db₄, hwrite, db₅, hset, db₆, hrest, -, rfl⟩ := h
              obtain ⟨s, hs, rfl⟩ := onEnrollment_eq_ok hlocal
              obtain ⟨attendees, rfl, hended⟩ := recoverEnrollment_spec mode now hwf₁ hs
              refine ⟨db₅, hreconciled.trans (settleRecovery_moves mode hwf₁ hrefunds₁ hr hep
                hlink hterminal (not_not.1 hrecovery) ?_ (hended _) hwrite hset), _, hrest⟩
              simp [hopen]
            · next hfinalized =>
              simp only [bind_eq_ok, Except.ok.injEq, Prod.mk.injEq] at h
              obtain ⟨db₃, rfl, db₄, hwrite, db₅, hset, db₆, hrest, -, rfl⟩ := h
              refine ⟨db₅, hreconciled.trans (settleRecovery_moves mode hwf₁ hrefunds₁ hr hep
                hlink hterminal (not_not.1 hrecovery) ?_ (t.settle_keeps mode now false ep)
                (by exact hwrite) hset), _, hrest⟩
              simp [hfinalized]
          obtain ⟨db₂, hreach, tier, hrest⟩ := hrest
          obtain ⟨u, rfl, hlast, -⟩ := reconcile_spec mode
            (PartitionMoves.consistent mode hreach hwf hrefunds).1 hrest
          exact hreach.trans (Moves.lift mode hlast)

end

end Ocg
