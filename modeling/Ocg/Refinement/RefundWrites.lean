import Ocg.System

/-!
# What a transaction may write to a refund row

Nine operations change a refund row, each in its own way. `RefundWrite` lists them, each with what
the code has checked by then; an operation writes a row at most once. The lemmas follow the code
statement by statement, and everything that refund rows keep is a case analysis over the writes.
-/

namespace Ocg

open Relational

/-- The state of a refund at the provider. -/
inductive RefundPaymentStatus
  | failed
  | pending
  | succeeded
  deriving DecidableEq, Repr

/-- The provider's report that an operation records. -/
def Operation.report : Operation → Option (RefundPaymentStatus × RefundResult)
  | .recordEventPurchaseRefundPending result => some (.pending, result)
  | .recordEventPurchaseRefundSucceeded result => some (.succeeded, result)
  | .recordEventPurchaseRefundTerminalFailed result _ => some (.failed, result)
  | _ => none

variable {now : Timestamp} {db db' : Database}

/-- The row is the one that a report is about, under the claim that its sender loaded, and it is not
pinned to another refund of the provider. -/
structure Refund.Accepts (r : Refund) (result : RefundResult) (providerRefundId : String) :
    Prop where
  id : r.eventPurchaseRefundId = result.eventPurchaseRefundId
  claim : r.claimId = result.expectedClaimId
  key : result.expectedIdempotencyKey = some r.idempotencyKey
  reported : result.providerRefundId = some providerRefundId
  nonblank : nullIfBlank (some providerRefundId) ≠ none
  pinned : ∀ id ∈ r.providerRefundId, id = providerRefundId

/-- A write of an operation to a refund row. -/
inductive RefundWrite (now : Timestamp) : Operation → Refund → Refund → Prop
  | claim {r : Refund} {locked : Uuid → Bool} {provider : String} (claim : Uuid)
      (hdue : r.IsClaimable now provider) :
    RefundWrite now (.claimEventPurchaseRefund locked provider) r (r.claim now claim)
  | pending {r : Refund} {result : RefundResult} {providerRefundId : String}
      (haccepts : r.Accepts result providerRefundId)
      (hopen : r.status ∉ [RefundStatus.finalized, .providerSucceeded])
      (hterminal : ¬ r.IsTerminal) :
    RefundWrite now (.recordEventPurchaseRefundPending result) r { r with
      claimId := none
      claimedAt := none
      failureMessage := none
      nextAttemptAt := now + refundBackoff r.attemptCount
      providerRefundId := some providerRefundId
      status := .providerPending
      terminalFailure := false }
  | fail {r : Refund} {refund claim : Uuid} {message : Option String} (text : String)
      (hid : r.eventPurchaseRefundId = refund) (hclaim : r.claimId = some claim)
      (hclaimed : r.status = .processing) :
    RefundWrite now (.recordEventPurchaseRefundRetryableFailure refund claim message) r { r with
      claimId := none
      claimedAt := none
      failureMessage := some text
      nextAttemptAt := now + refundBackoff r.attemptCount
      status := .providerFailed
      terminalFailure := false }
  | confirm {r : Refund} {result : RefundResult} {providerRefundId : String}
      (haccepts : r.Accepts result providerRefundId) (hterminal : ¬ r.IsTerminal)
      (hopen : r.status ≠ .finalized) :
    RefundWrite now (.recordEventPurchaseRefundSucceeded result) r (r.confirm now providerRefundId)
  | failTerminally {r : Refund} {result : RefundResult} {providerRefundId : String}
      {message : Option String} (text : String) (haccepts : r.Accepts result providerRefundId) :
    RefundWrite now (.recordEventPurchaseRefundTerminalFailed result message) r { r with
      claimId := none
      claimedAt := none
      failureMessage := some text
      providerRefundId := some providerRefundId
      providerRefundedAt := none
      status := .providerFailed
      terminalFailure := true }
  | finalize {r : Refund} {refund : Uuid} {claim : Option Uuid} {hasNotification : Bool}
      {provider : Option String} (hid : r.eventPurchaseRefundId = refund)
      (hclaim : r.claimId = claim)
      (hconfirmed : r.providerRefundedAt ≠ none) (hclaimed : claim ≠ none) :
    RefundWrite now (.finalizeEventPurchaseRefund refund claim hasNotification provider) r
      (r.finalize now)
  | recover {r : Refund} {refund : Uuid} {evidence : RecoveryEvidence} {provider : Option String}
      (actor : Uuid) (hterminal : r.IsTerminal) :
    RefundWrite now (.completeEventPurchaseRefundRecovery refund evidence provider) r
      (r.recover now actor evidence)
  | requeue {r : Refund} {groupId purchase : Uuid}
      (hstatus : r.status ∈ [RefundStatus.providerFailed, .providerPending])
      (hterminal : r.terminalFailure = false) :
    RefundWrite now (.requeueEventPurchaseRefund groupId purchase) r { r with
      attemptCount := 0
      failureMessage := none
      nextAttemptAt := now
      status := .providerPending }
  | release {r : Refund} (hstale : r.HasStaleClaim now) :
    RefundWrite now .requeueStaleEventPurchaseRefundClaims r (r.releaseClaim now)

/-- What identifies a refund at the provider. -/
structure Refund.SameTerms (new old : Refund) : Prop where
  id : new.eventPurchaseRefundId = old.eventPurchaseRefundId
  purchase : new.eventPurchaseId = old.eventPurchaseId
  amount : new.amountMinor = old.amountMinor
  key : new.idempotencyKey = old.idempotencyKey
  provider : new.paymentProviderId = old.paymentProviderId

theorem Refund.SameTerms.refl (r : Refund) : r.SameTerms r := ⟨rfl, rfl, rfl, rfl, rfl⟩

theorem Refund.SameTerms.trans {r r' r'' : Refund} (h : r'.SameTerms r) (h' : r''.SameTerms r') :
    r''.SameTerms r :=
  ⟨h'.id.trans h.id, h'.purchase.trans h.purchase, h'.amount.trans h.amount, h'.key.trans h.key,
    h'.provider.trans h.provider⟩

theorem RefundWrite.sameTerms {op : Operation} {old new : Refund}
    (h : RefundWrite now op old new) : new.SameTerms old := by
  cases h with
  | _ => exact ⟨rfl, rfl, rfl, rfl, rfl⟩

/-- A row that was inserted after the state `db`. -/
structure Refund.IsNew (r : Refund) (db : Database) : Prop where
  id : db.nextRefundUuid ≤ r.eventPurchaseRefundId
  key : r.idempotencyKey = refundIdempotencyKey r.eventPurchaseId
  unpinned : r.providerRefundId = none
  unconfirmed : r.providerRefundedAt = none
  unfinalized : r.finalizedAt = none
  live : r.terminalFailure = false

/-- Every row is as it was, or written once, or inserted, and none is lost. -/
structure Database.WritesRefunds (now : Timestamp) (op : Operation) (db db' : Database) : Prop where
  issued : db.nextRefundUuid ≤ db'.nextRefundUuid
  rows : ∀ r ∈ db'.refunds, r ∈ db.refunds ∨ (∃ old ∈ db.refunds, RefundWrite now op old r)
    ∨ r.IsNew db
  kept : ∀ r ∈ db.refunds, ∃ new ∈ db'.refunds, new.eventPurchaseRefundId = r.eventPurchaseRefundId

/-- No refund row changes. -/
structure Database.SameRefunds (db db' : Database) : Prop where
  refunds : db'.refunds = db.refunds
  next : db.nextRefundUuid ≤ db'.nextRefundUuid

namespace Database.SameRefunds

variable {t : Database}

theorem refl (db : Database) : db.SameRefunds db := ⟨rfl, le_rfl⟩

theorem trans (h : db.SameRefunds t) (h' : t.SameRefunds db') : db.SameRefunds db' :=
  ⟨h'.refunds.trans h.refunds, h.next.trans h'.next⟩

end Database.SameRefunds

namespace Database.WritesRefunds

variable {t : Database} {op : Operation}

theorem of_same (h : db.SameRefunds db') : db.WritesRefunds now op db' :=
  ⟨h.next, fun _ hr ↦ .inl (h.refunds ▸ hr), fun r hr ↦ ⟨r, h.refunds.symm ▸ hr, rfl⟩⟩

theorem refl (db : Database) : db.WritesRefunds now op db := of_same (.refl db)

theorem congr (h : db.WritesRefunds now op t) (hsame : t.SameRefunds db') :
    db.WritesRefunds now op db' :=
  ⟨h.issued.trans hsame.next, fun r hr ↦ h.rows r (hsame.refunds ▸ hr),
    fun r hr ↦ hsame.refunds.symm ▸ h.kept r hr⟩

theorem write {r new : Refund} (h : db.WritesRefunds now op t)
    (hwrite : writeRefund new t = .ok db') (hr : r ∈ db.refunds)
    (hnew : RefundWrite now op r new) : db.WritesRefunds now op db' := by
  obtain ⟨-, -, rfl⟩ := writeRefund_eq_ok.1 hwrite
  refine ⟨h.issued, fun row hrow ↦ ?_, fun row hrow ↦ ?_⟩
  · obtain rfl | ⟨hrow, -⟩ := mem_replaceRow hrow
    · exact .inr (.inl ⟨r, hr, hnew⟩)
    · exact h.rows row hrow
  · obtain ⟨last, hlast, hid⟩ := h.kept row hrow
    by_cases hsame : last.eventPurchaseRefundId = new.eventPurchaseRefundId
    · exact ⟨new, new_mem_replaceRow hlast hsame, hsame.symm.trans hid⟩
    · exact ⟨last, mem_replaceRow_of_ne hlast hsame, hid⟩

theorem ensure {ep : Purchase} {amount : Option ℤ} {provider : Option String} {kind : RefundKind}
    {request initiatedBy : Option Uuid} {note : Option String}
    (h : db.WritesRefunds now op t)
    (hensure : ensureRefund now ep amount provider kind request initiatedBy note t = .ok db') :
    db.WritesRefunds now op db' := by
  unfold ensureRefund at hensure
  split at hensure
  · split_ifs at hensure
    · exact Except.ok.inj hensure ▸ h
    · simp only [bind_eq_ok, Except.ok.injEq] at hensure
      obtain ⟨-, -, -, -, rfl⟩ := hensure
      refine ⟨h.issued.trans (Nat.le_succ _), fun row hrow ↦ ?_, fun row hrow ↦ ?_⟩
      · obtain hrow | hrow := List.mem_append.1 hrow
        · exact h.rows row hrow
        · rw [List.mem_singleton.1 hrow]
          exact .inr (.inr ⟨h.issued, rfl, rfl, rfl, rfl, rfl⟩)
      · obtain ⟨last, hlast, hid⟩ := h.kept row hrow
        exact ⟨last, List.mem_append_left _ hlast, hid⟩
  · cases hensure

end Database.WritesRefunds

section

variable {op : Operation}

/-! ## Statements that touch no refund row -/

theorem onEnrollment_sameRefunds {f : Enrollment → Except DbError Enrollment}
    (h : onEnrollment f db = .ok db') : db.SameRefunds db' := by
  simp only [onEnrollment, bind_eq_ok, Except.ok.injEq] at h
  obtain ⟨s, -, rfl⟩ := h
  exact ⟨rfl, le_rfl⟩

theorem reconcile_sameRefunds {tier : Option Uuid} {provider : Option String}
    (h : reconcile now tier provider db = .ok db') : db.SameRefunds db' :=
  onEnrollment_sameRefunds h

theorem setPurchaseStatus_sameRefunds {purchase : Uuid} {status : PurchaseStatus}
    (h : setPurchaseStatus purchase status db = .ok db') : db.SameRefunds db' := by
  simp only [setPurchaseStatus, bind_eq_ok, Except.ok.injEq] at h
  obtain ⟨s, -, rfl⟩ := h
  exact ⟨rfl, le_rfl⟩

theorem attachOrganizerDecision_sameRefunds {actor purchase request : Uuid}
    (h : attachOrganizerDecision now actor purchase db = .ok (request, db')) :
    db.SameRefunds db' := by
  rw [attachOrganizerDecision] at h
  split at h
  · obtain ⟨-, rfl⟩ := Prod.mk.inj (Except.ok.inj h)
    exact ⟨rfl, Nat.le_succ _⟩
  · simp only [bind_eq_ok, Except.ok.injEq, Prod.mk.injEq] at h
    obtain ⟨-, -, -, rfl⟩ := h
    exact ⟨rfl, le_rfl⟩

theorem requestEventRefund_sameRefunds {env : Env} {communityId user : Uuid}
    {reason : Option String} (h : requestEventRefund env now communityId user reason db = .ok db') :
    db.SameRefunds db' := by
  rw [requestEventRefund, bind_eq_ok] at h
  obtain ⟨-, -, h⟩ := h
  split at h
  · cases h
  · simp only [bind_eq_ok, Except.ok.injEq] at h
    obtain ⟨-, -, -, -, t, hset, -, -, rfl⟩ := h
    have hsame := setPurchaseStatus_sameRefunds hset
    exact ⟨hsame.refunds, (Nat.le_succ _).trans hsame.next⟩

theorem rejectEventRefundRequest_sameRefunds {actor groupId purchase : Uuid}
    {note : Option String}
    (h : rejectEventRefundRequest now actor groupId purchase note db = .ok db') :
    db.SameRefunds db' := by
  simp only [rejectEventRefundRequest, bind_eq_ok, Except.ok.injEq] at h
  obtain ⟨-, -, -, -, t, hset, rfl⟩ := h
  have hsame := setPurchaseStatus_sameRefunds hset
  exact ⟨hsame.refunds, hsame.next⟩

/-! ## Starting refunds -/

theorem reconcileEventPurchaseForCheckoutSession_writes {session : CompletedSession}
    {outcome : WebhookOutcome}
    (h : reconcileEventPurchaseForCheckoutSession now session db = .ok (outcome, db')) :
    db.WritesRefunds now op db' := by
  simp only [reconcileEventPurchaseForCheckoutSession, bind_eq_ok, Prod.exists] at h
  obtain ⟨settled, s, -, h⟩ := h
  cases settled with
  | noop | completed =>
    obtain ⟨-, rfl⟩ := Prod.mk.inj (Except.ok.inj h)
    exact .of_same ⟨rfl, le_rfl⟩
  | refundQueued ep total =>
    simp only [bind_eq_ok, Except.ok.injEq, Prod.mk.injEq] at h
    obtain ⟨t, hensure, -, rfl⟩ := h
    have hsettled : db.WritesRefunds now op { db with toEnrollment := s } :=
      .of_same ⟨rfl, le_rfl⟩
    exact hsettled.ensure hensure

theorem queuePaidRefunds_writes {actor : Uuid} {t : Database} (h : db.WritesRefunds now op t)
    (hqueue : queuePaidRefunds now actor t = .ok db') : db.WritesRefunds now op db' :=
  foldlM_invariant (P := db.WritesRefunds now op) (fun _ _ _ _ ht hensure ↦ ht.ensure hensure) h
    hqueue

theorem cancelEvent_writes {actor groupId : Uuid}
    (h : cancelEvent now actor groupId db = .ok db') : db.WritesRefunds now op db' := by
  simp only [cancelEvent, bind_eq_ok, Except.ok.injEq] at h
  obtain ⟨-, -, db₁, h₁, -, -, db₂, h₂, db₃, h₃, db₄, h₄, db₅, h₅, rfl⟩ := h
  have hdb₃ : db.SameRefunds db₃ :=
    ((onEnrollment_sameRefunds h₁).trans (onEnrollment_sameRefunds h₂)).trans
      (onEnrollment_sameRefunds h₃)
  have hdb₄ : db.WritesRefunds now op db₄ := by
    refine queuePaidRefunds_writes (.of_same ?_) h₄
    exact ⟨hdb₃.refunds, hdb₃.next⟩
  have hdb₅ := onEnrollment_sameRefunds h₅
  exact hdb₄.congr ⟨hdb₅.refunds, hdb₅.next⟩

theorem queueEventRefundRequestApproval_writes {actor groupId purchase : Uuid}
    {note : Option String}
    (h : queueEventRefundRequestApproval now actor groupId purchase note db = .ok db') :
    db.WritesRefunds now op db' := by
  rw [queueEventRefundRequestApproval, bind_eq_ok] at h
  obtain ⟨-, -, h⟩ := h
  split at h
  · split at h
    · simp only [bind_eq_ok, Except.ok.injEq] at h
      obtain ⟨-, -, rfl⟩ := h
      exact .refl db
    · rw [bind_eq_ok] at h
      obtain ⟨-, -, h⟩ := h
      refine Database.WritesRefunds.ensure ?_ h
      exact .of_same ⟨rfl, le_rfl⟩
  · cases h

theorem cancelEventAttendeeAttendance_writes {actor groupId user : Uuid}
    {provider : Option String} {outcome : CancellationOutcome}
    (h : cancelEventAttendeeAttendance now actor groupId user provider db = .ok (outcome, db')) :
    db.WritesRefunds now op db' := by
  simp only [cancelEventAttendeeAttendance, bind_eq_ok] at h
  obtain ⟨-, -, -, -, h⟩ := h
  split at h
  · simp only [bind_eq_ok, Except.ok.injEq, Prod.mk.injEq] at h
    obtain ⟨t, hqueue, -, rfl⟩ := h
    rw [queueAttendanceRefund] at hqueue
    split at hqueue
    · simp only [bind_eq_ok, Except.ok.injEq] at hqueue
      obtain ⟨-, -, rfl⟩ := hqueue
      exact .refl db
    · simp only [bind_eq_ok, Prod.exists] at hqueue
      obtain ⟨-, -, request, db₁, hattach, db₂, hensure, hset⟩ := hqueue
      have hdb₁ : db.WritesRefunds now op db₁ :=
        .of_same (attachOrganizerDecision_sameRefunds hattach)
      exact (hdb₁.ensure hensure).congr (setPurchaseStatus_sameRefunds hset)
  · simp only [bind_eq_ok, Except.ok.injEq, Prod.mk.injEq] at h
    obtain ⟨-, -, s, -, -, rfl⟩ := h
    exact .of_same ⟨rfl, le_rfl⟩

/-! ## Claims and reports -/

theorem claimEventPurchaseRefund_writes {locked : Uuid → Bool} {provider : String}
    {claimed : Option Refund}
    (h : claimEventPurchaseRefund locked now provider db = .ok (claimed, db')) :
    db.WritesRefunds now (.claimEventPurchaseRefund locked provider) db' := by
  rw [claimEventPurchaseRefund] at h
  split at h
  · obtain ⟨-, rfl⟩ := Prod.mk.inj (Except.ok.inj h)
    exact .refl db
  · next r hfind =>
    simp only [bind_eq_ok, Except.ok.injEq, Prod.mk.injEq] at h
    obtain ⟨t, hwrite, -, -, -, -, -, rfl⟩ := h
    obtain ⟨hr, hdue⟩ := List.mem_filter.1 (firstBy_mem hfind)
    rw [decide_eq_true_eq] at hdue
    have hissued : db.WritesRefunds now (.claimEventPurchaseRefund locked provider)
        { db with nextRefundUuid := db.nextRefundUuid + 1 } :=
      .of_same ⟨rfl, Nat.le_succ _⟩
    exact hissued.write hwrite hr (.claim _ hdue.1)

theorem ne_none_of_nullIfBlank {text : Option String} (h : nullIfBlank text ≠ none) :
    text ≠ none := by
  rintro rfl
  exact h rfl

/-- The row that a report is loaded for accepts it, once its key is checked. -/
theorem loadRefundForResult_accepts {result : RefundResult} {r : Refund}
    {key providerRefundId : String} {u : Unit}
    (h : loadRefundForResult result db = .ok (r, key, providerRefundId))
    (hkey : r.idempotencyKey = key) (hpinned : checkPinnedRefund r providerRefundId = .ok u) :
    r ∈ db.refunds ∧ r.Accepts result providerRefundId := by
  rw [checkPinnedRefund, require_eq_ok] at hpinned
  simp only [loadRefundForResult, bind_eq_ok, require_eq_ok] at h
  obtain ⟨-, hkeyed, -, hreported, h⟩ := h
  split at h
  · cases h
  next row hfind =>
  simp only [bind_eq_ok, require_eq_ok, Except.ok.injEq, Prod.mk.injEq] at h
  obtain ⟨-, hclaim, rfl, hsent, rfl⟩ := h
  have hid := List.find?_some hfind
  rw [decide_eq_true_eq] at hid
  obtain ⟨sent, hsome⟩ := Option.ne_none_iff_exists'.1 (ne_none_of_nullIfBlank hkeyed)
  obtain ⟨id, hsome'⟩ := Option.ne_none_iff_exists'.1 (ne_none_of_nullIfBlank hreported)
  rw [hsome, Option.getD_some] at hsent
  simp only [hsome', Option.getD_some] at hreported hpinned ⊢
  refine ⟨List.mem_of_find?_eq_some hfind, hid, hclaim, ?_, hsome', hreported, hpinned⟩
  rw [hsome, hkey, hsent]

theorem recordEventPurchaseRefundPending_writes {result : RefundResult}
    (h : recordEventPurchaseRefundPending now result db = .ok db') :
    db.WritesRefunds now (.recordEventPurchaseRefundPending result) db' := by
  simp only [recordEventPurchaseRefundPending, bind_eq_ok, Prod.exists] at h
  obtain ⟨r, key, providerRefundId, hload, h⟩ := h
  split at h
  · exact Except.ok.inj h ▸ .refl db
  next hkey =>
  rw [bind_eq_ok] at h
  obtain ⟨⟨⟩, hpinned, h⟩ := h
  split at h
  · exact Except.ok.inj h ▸ .refl db
  next hopen =>
  obtain ⟨hr, haccepts⟩ :=
    loadRefundForResult_accepts hload (not_not.1 hkey) hpinned
  exact Database.WritesRefunds.write (.refl db) h hr
    (.pending haccepts (fun hsettled ↦ hopen (.inl hsettled)) fun hterminal ↦
      hopen (.inr hterminal))

theorem recordEventPurchaseRefundRetryableFailure_writes {refund claim : Uuid}
    {message : Option String}
    (h : recordEventPurchaseRefundRetryableFailure now refund claim message db = .ok db') :
    db.WritesRefunds now (.recordEventPurchaseRefundRetryableFailure refund claim message) db' := by
  rw [recordEventPurchaseRefundRetryableFailure] at h
  split at h
  · cases h
  next r hfind =>
  have hselected := List.find?_some hfind
  rw [decide_eq_true_eq] at hselected
  obtain ⟨hid, hclaim, hclaimed⟩ := hselected
  exact Database.WritesRefunds.write (.refl db) h (List.mem_of_find?_eq_some hfind)
    (.fail _ hid hclaim hclaimed)

theorem recordEventPurchaseRefundSucceeded_writes {result : RefundResult}
    (h : recordEventPurchaseRefundSucceeded now result db = .ok db') :
    db.WritesRefunds now (.recordEventPurchaseRefundSucceeded result) db' := by
  obtain ⟨r, key, providerRefundId, hload,
    ⟨-, rfl⟩ | ⟨hcurrent, hpinned, db₁, hwritten, hsettled⟩⟩ :=
    recordEventPurchaseRefundSucceeded_eq_ok h
  · exact .refl _
  rw [not_or] at hcurrent
  have hdb₁ : db.WritesRefunds now (.recordEventPurchaseRefundSucceeded result) db₁ := by
    obtain ⟨-, rfl⟩ | ⟨hopen, hwrite⟩ := hwritten
    · exact .refl _
    · obtain ⟨hr, haccepts⟩ := loadRefundForResult_accepts hload (not_not.1 hcurrent.1) hpinned
      exact Database.WritesRefunds.write (.refl db) hwrite hr (.confirm haccepts hcurrent.2 hopen)
  obtain rfl | ⟨ep, -, -, -, hset⟩ := hsettled
  · exact hdb₁
  · exact hdb₁.congr (setPurchaseStatus_sameRefunds hset)

theorem recordEventPurchaseRefundTerminalFailed_writes {result : RefundResult}
    {message : Option String}
    (h : recordEventPurchaseRefundTerminalFailed result message db = .ok db') :
    db.WritesRefunds now (.recordEventPurchaseRefundTerminalFailed result message) db' := by
  simp only [recordEventPurchaseRefundTerminalFailed, bind_eq_ok, Prod.exists] at h
  obtain ⟨r, key, providerRefundId, hload, h⟩ := h
  split at h
  · exact Except.ok.inj h ▸ .refl db
  next hkey =>
  rw [bind_eq_ok] at h
  obtain ⟨⟨⟩, hpinned, h⟩ := h
  split at h
  · exact Except.ok.inj h ▸ .refl db
  rw [bind_eq_ok] at h
  obtain ⟨t, hwrite, h⟩ := h
  obtain ⟨hr, haccepts⟩ :=
    loadRefundForResult_accepts hload (not_not.1 hkey) hpinned
  have ht : db.WritesRefunds now (.recordEventPurchaseRefundTerminalFailed result message) t :=
    Database.WritesRefunds.write (.refl db) hwrite hr (.failTerminally _ haccepts)
  split at h
  · exact Except.ok.inj h ▸ ht
  · split at h
    · cases h
    · exact ht.congr (setPurchaseStatus_sameRefunds h)

/-! ## Finalization, requeueing and recovery -/

theorem finalizeEventPurchaseRefund_writes {refund : Uuid} {claim : Option Uuid}
    {hasNotification : Bool} {provider : Option String}
    (h : finalizeEventPurchaseRefund now refund claim hasNotification provider db = .ok db') :
    db.WritesRefunds now (.finalizeEventPurchaseRefund refund claim hasNotification provider)
      db' := by
  rw [finalizeEventPurchaseRefund, bind_eq_ok] at h
  obtain ⟨-, -, h⟩ := h
  split at h
  · cases h
  next r hfind =>
  split at h
  · cases h
  rw [bind_eq_ok] at h
  obtain ⟨db₁, hreconcile, h⟩ := h
  have hdb₁ := reconcile_sameRefunds hreconcile
  split at h
  · exact Except.ok.inj h ▸ .of_same hdb₁
  simp only [settleRefund, bind_eq_ok, require_eq_ok] at h
  obtain ⟨-, ⟨hclaim, hconfirmed⟩, db₂, hlocal, -, hclaimed, db₃, hwrite, hlast⟩ := h
  have hdb₂ := hdb₁.trans (onEnrollment_sameRefunds hlocal)
  have hid := List.find?_some hfind
  rw [decide_eq_true_eq] at hid
  have hdb₃ : db.WritesRefunds now
      (.finalizeEventPurchaseRefund refund claim hasNotification provider) db₃ := by
    refine Database.WritesRefunds.write ?_ hwrite (List.mem_of_find?_eq_some hfind)
      (.finalize hid hclaim hconfirmed hclaimed)
    exact .of_same ⟨hdb₂.refunds, hdb₂.next⟩
  exact hdb₃.congr (reconcile_sameRefunds hlast)

theorem requeueEventPurchaseRefund_writes {groupId purchase : Uuid}
    (h : requeueEventPurchaseRefund now groupId purchase db = .ok db') :
    db.WritesRefunds now (.requeueEventPurchaseRefund groupId purchase) db' := by
  rw [requeueEventPurchaseRefund] at h
  split at h
  · cases h
  next r hfind =>
  have hrequeued := List.find?_some hfind
  rw [decide_eq_true_eq] at hrequeued
  exact Database.WritesRefunds.write (.refl db) h (List.mem_of_find?_eq_some hfind)
    (.requeue hrequeued.2.2.1 hrequeued.2.2.2.1)

theorem requeueStaleEventPurchaseRefundClaims_writes
    (h : requeueStaleEventPurchaseRefundClaims now db = .ok db') :
    db.WritesRefunds now .requeueStaleEventPurchaseRefundClaims db' := by
  refine foldlM_invariant (P := db.WritesRefunds now .requeueStaleEventPurchaseRefundClaims)
    (fun t r t' hr ht hwrite ↦ ?_) (.refl db) h
  obtain ⟨hr, hstale⟩ := List.mem_filter.1 hr
  rw [decide_eq_true_eq] at hstale
  exact ht.write hwrite hr (.release hstale)

theorem completeEventPurchaseRefundRecovery_writes {env : Env} {refund : Uuid}
    {evidence : RecoveryEvidence} {provider : Option String} {completed : Bool}
    (h : completeEventPurchaseRefundRecovery env now refund evidence provider db
      = .ok (completed, db')) :
    db.WritesRefunds now (.completeEventPurchaseRefundRecovery refund evidence provider) db' := by
  set op := Operation.completeEventPurchaseRefundRecovery refund evidence provider
  unfold completeEventPurchaseRefundRecovery at h
  split at h
  · cases h
  next actor _ =>
  simp only [bind_eq_ok] at h
  obtain ⟨-, -, -, -, -, -, h⟩ := h
  split at h
  · cases h
  next r hfind =>
  have hr := List.mem_of_find?_eq_some hfind
  simp only [bind_eq_ok] at h
  obtain ⟨-, -, db₁, hreconcile, h⟩ := h
  have hdb₁ := reconcile_sameRefunds hreconcile
  split at h
  · cases h
  simp only [bind_eq_ok] at h
  obtain ⟨-, -, h⟩ := h
  split at h
  · simp only [bind_eq_ok, Except.ok.injEq, Prod.mk.injEq] at h
    obtain ⟨-, -, -, rfl⟩ := h
    exact .of_same hdb₁
  simp only [bind_eq_ok, require_eq_ok] at h
  obtain ⟨-, ⟨hterminal, -⟩, -, -, -, -, h⟩ := h
  -- both branches end with the same two writes and a reconciliation
  have hrest {t db₄ db₅ db₆ : Database} {tier : Option Uuid} {purchase : Uuid}
      (ht : db.SameRefunds t) (hwrite : writeRefund (r.recover now actor evidence) t = .ok db₄)
      (hset : setPurchaseStatus purchase .refunded db₄ = .ok db₅)
      (hlast : reconcile now tier provider db₅ = .ok db₆) : db.WritesRefunds now op db₆ := by
    have hdb₄ : db.WritesRefunds now op db₄ :=
      Database.WritesRefunds.write (.of_same ht) hwrite hr (.recover actor hterminal)
    exact hdb₄.congr ((setPurchaseStatus_sameRefunds hset).trans (reconcile_sameRefunds hlast))
  split at h
  · simp only [bind_eq_ok, Except.ok.injEq, Prod.mk.injEq] at h
    obtain ⟨db₂, hlocal, db₃, rfl, db₄, hwrite, db₅, hset, db₆, hlast, -, rfl⟩ := h
    have hdb₂ := hdb₁.trans (onEnrollment_sameRefunds hlocal)
    refine hrest ?_ hwrite hset hlast
    exact ⟨hdb₂.refunds, hdb₂.next⟩
  · simp only [bind_eq_ok, Except.ok.injEq, Prod.mk.injEq] at h
    obtain ⟨db₃, rfl, db₄, hwrite, db₅, hset, db₆, hlast, -, rfl⟩ := h
    exact hrest hdb₁ hwrite hset hlast

end

/-! ## Every operation -/

/-- **An operation writes refund rows in the listed ways only.** -/
theorem Operation.writesRefunds {env : Env} {op : Operation} (h : op.run env now db = .ok db') :
    db.WritesRefunds now op db' := by
  cases op with
  | attendEvent | leaveEvent | submitEventRegistrationAnswers | acceptEventInvitationRequest
  | rejectEventInvitationRequest | cancelEventAdmissionOffer | declineEventAdmissionOffer
  | reconcileEventEnrollment | prepareEventCheckoutPurchase | cancelEventCheckout
  | attachCheckoutSessionToEventPurchase | expireEventPurchaseForCheckoutSession
  | completeFreeEventPurchase | unpublishEvent =>
    rw [Operation.run] at h
    exact .of_same (onEnrollment_sameRefunds h)
  | inviteEventAttendee =>
    obtain ⟨outcome, h⟩ := stateOf_eq_ok.1 h
    simp only [Ocg.inviteEventAttendee, bind_eq_ok, Except.ok.injEq, Prod.mk.injEq, Prod.exists]
      at h
    obtain ⟨-, -, -, -, target, -, -, s, -, -, rfl⟩ := h
    exact .of_same ⟨rfl, le_rfl⟩
  | reconcileEventPurchaseForCheckoutSession =>
    obtain ⟨outcome, h⟩ := stateOf_eq_ok.1 h
    exact reconcileEventPurchaseForCheckoutSession_writes h
  | cancelEvent => exact cancelEvent_writes h
  | requestEventRefund => exact .of_same (requestEventRefund_sameRefunds h)
  | rejectEventRefundRequest => exact .of_same (rejectEventRefundRequest_sameRefunds h)
  | queueEventRefundRequestApproval => exact queueEventRefundRequestApproval_writes h
  | cancelEventAttendeeAttendance =>
    obtain ⟨outcome, h⟩ := stateOf_eq_ok.1 h
    exact cancelEventAttendeeAttendance_writes h
  | claimEventPurchaseRefund =>
    obtain ⟨claimed, h⟩ := stateOf_eq_ok.1 h
    exact claimEventPurchaseRefund_writes h
  | recordEventPurchaseRefundPending => exact recordEventPurchaseRefundPending_writes h
  | recordEventPurchaseRefundRetryableFailure =>
    exact recordEventPurchaseRefundRetryableFailure_writes h
  | recordEventPurchaseRefundSucceeded => exact recordEventPurchaseRefundSucceeded_writes h
  | recordEventPurchaseRefundTerminalFailed =>
    exact recordEventPurchaseRefundTerminalFailed_writes h
  | finalizeEventPurchaseRefund => exact finalizeEventPurchaseRefund_writes h
  | requeueEventPurchaseRefund => exact requeueEventPurchaseRefund_writes h
  | requeueStaleEventPurchaseRefundClaims => exact requeueStaleEventPurchaseRefundClaims_writes h
  | completeEventPurchaseRefundRecovery =>
    obtain ⟨completed, h⟩ := stateOf_eq_ok.1 h
    exact completeEventPurchaseRefundRecovery_writes h

namespace Database.WritesRefunds

variable {op : Operation} {r new : Refund}

theorem eq_or_write (h : db.WritesRefunds now op db') (hdb : db.RefundsConsistent)
    (hr : r ∈ db.refunds) (hnew : new ∈ db'.refunds)
    (hid : new.eventPurchaseRefundId = r.eventPurchaseRefundId) :
    new = r ∨ RefundWrite now op r new := by
  obtain hold | ⟨old, hold, hwrite⟩ | hfresh := h.rows new hnew
  · exact .inl (eq_of_key_eq hdb.keys hold hr hid)
  · obtain rfl := eq_of_key_eq hdb.keys hold hr (hwrite.sameTerms.id.symm.trans hid)
    exact .inr hwrite
  · exact absurd (hid ▸ hfresh.id) (hdb.issued r hr).not_ge

theorem exists_row (h : db.WritesRefunds now op db') (hdb : db.RefundsConsistent)
    (hr : r ∈ db.refunds) : ∃ new ∈ db'.refunds, new = r ∨ RefundWrite now op r new := by
  obtain ⟨new, hnew, hid⟩ := h.kept r hr
  exact ⟨new, hnew, h.eq_or_write hdb hr hnew hid⟩

theorem sameTerms (h : db.WritesRefunds now op db') (hdb : db.RefundsConsistent)
    (hr : r ∈ db.refunds) (hnew : new ∈ db'.refunds)
    (hid : new.eventPurchaseRefundId = r.eventPurchaseRefundId) : new.SameTerms r := by
  obtain rfl | hwrite := h.eq_or_write hdb hr hnew hid
  · exact .refl _
  · exact hwrite.sameTerms

end Database.WritesRefunds

end Ocg
