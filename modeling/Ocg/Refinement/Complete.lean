import Ocg.Refinement.Checkout
import Ocg.Transition.Inventory

/-!
# Completion as a run of moves

A checkout that completes is one move, whichever way it was paid. The provider's report is a run of
moves of the partition: the reported amounts are recorded first; a checkout that cannot be fulfilled
then ends together with the start of its refund, although the code inserts the refund row last.
-/

namespace Ocg

open Relational

/-- A run of moves of the partition. -/
abbrev PartitionMoves (mode : MoveMode) (now : Timestamp) : Database → Database → Prop :=
  Relation.ReflTransGen (Move mode now)

section

variable (mode : MoveMode) {now : Timestamp} {s s' : Enrollment} {db db' : Database}

theorem Moves.lift (h : Moves mode now db.toEnrollment s) :
    PartitionMoves mode now db { db with toEnrollment := s } := by
  induction h with
  | refl => exact .refl
  | tail _ hmove ih => exact ih.tail (.enrollment hmove)

theorem Move.wellFormed (h : Move mode now db db') (hwf : db.toEnrollment.WellFormed) :
    db'.toEnrollment.WellFormed := by
  rcases h.enrollmentMove with hsame | ⟨effect, hmove⟩
  · exact hsame ▸ hwf
  · exact hmove.wellFormed hwf

theorem PartitionMoves.consistent (h : PartitionMoves mode now db db')
    (hwf : db.toEnrollment.WellFormed) (hrefunds : db.RefundsConsistent) :
    db'.toEnrollment.WellFormed ∧ db'.RefundsConsistent := by
  induction h with
  | refl => exact ⟨hwf, hrefunds⟩
  | tail _ hmove ih => exact ⟨hmove.wellFormed mode ih.1, hmove.refundsConsistent ih.1 ih.2⟩

theorem EnrollmentMove.setStatus {ep : Purchase} {status : PurchaseStatus} {effect : Effect}
    {released : Bool} (hep : ep ∈ s.purchases)
    (haccepted : s.AcceptsPurchase { ep with status := status })
    (hstep : PurchaseStep mode s ep { ep with status := status } effect released) :
    EnrollmentMove mode now effect s (releaseIf released ep.eventDiscountCodeId { s with
      purchases := replaceRow Purchase.eventPurchaseId
        { ep with status := status } s.purchases }) :=
  .movePurchase hep ⟨rfl, rfl, rfl, rfl, rfl, rfl, .inl rfl, .inl rfl, rfl, rfl, rfl⟩
    haccepted hstep

/-! ## Completing -/

theorem updatePurchase_eq_ok {f : Purchase → Purchase} {ep : Purchase}
    (hkeys : (s.purchases.map Purchase.eventPurchaseId).Nodup) (hep : ep ∈ s.purchases)
    (h : updatePurchase ep.eventPurchaseId f s = .ok s') :
    s.AcceptsPurchase (f ep)
      ∧ s' = { s with purchases := replaceRow Purchase.eventPurchaseId (f ep) s.purchases } := by
  unfold updatePurchase at h
  split at h
  · next hfind =>
    have := List.find?_eq_none.1 hfind ep hep
    simp at this
  · next row hfind =>
    have hid := List.find?_some hfind
    simp only [decide_eq_true_eq] at hid
    obtain rfl : row = ep := eq_of_key_eq hkeys (List.mem_of_find?_eq_some hfind) hep hid
    exact (writePurchase_eq_ok.1 h).2

theorem completeOffer_spec {offer : Option Uuid} (h : completeOffer offer s = .ok s') :
    ∃ offers, s' = { s with admissionOffers := offers }
      ∧ ∀ ep : Purchase, ep.admissionOfferId = offer →
        CompletesOffer ep s.admissionOffers offers := by
  unfold completeOffer at h
  split at h
  · obtain rfl := Except.ok.inj h
    exact ⟨s.admissionOffers, rfl, fun ep hnone ↦ .inl ⟨hnone, rfl⟩⟩
  · next id =>
    simp only [bind_eq_ok] at h
    obtain ⟨updated, hupdated, h⟩ := h
    rcases updateAdmissionOffer_eq_ok hupdated fun _ ↦ rfl with
      ⟨rfl, -⟩ | ⟨ao, hao, hid, hfrom, -, -, rfl⟩
    · simp at h
    · obtain rfl := Except.ok.inj h
      exact ⟨_, rfl, fun ep hlinked ↦ .inr ⟨ao, hao, by rw [hlinked, hid], hfrom, rfl⟩⟩

theorem confirmAttendee_spec {user : Uuid} {manuallyInvited found : Bool}
    (hstatus : ∀ ea ∈ s.attendees, ea.status ∈ [AttendeeStatus.attendanceCanceled, .confirmed,
      .registrationQuestionsPending])
    (h : confirmAttendee user manuallyInvited s = .ok (found, s')) :
    found = true ∧ (∀ ew ∈ s.waitlist, ew.userId ≠ user)
      ∧ (∀ ao ∈ s.admissionOffers, ao.userId = user → ¬ ao.status.IsActive)
      ∧ ∃ attendees, s' = { s with attendees := attendees }
        ∧ ConfirmsAttendee user s.attendees attendees := by
  obtain ⟨hadmits, hrow⟩ := upsertAttendee_eq_ok h
  have hfound : found = true ∧ ∃ attendees, s' = { s with attendees := attendees }
      ∧ ConfirmsAttendee user s.attendees attendees := by
    rcases hrow with ⟨hfound, hnew, rfl⟩ | ⟨ea, hea, huser, ⟨hfound, -, -, rfl⟩ | ⟨-, hnot, -⟩⟩
    · exact ⟨hfound, _, rfl, _, rfl, rfl, .inl ⟨rfl, hnew⟩⟩
    · exact ⟨hfound, _, rfl, { ea with manuallyInvited := manuallyInvited, status := .confirmed },
        huser, rfl, .inr ⟨rfl, ea, hea, huser⟩⟩
    · refine absurd ?_ hnot
      have := hstatus ea hea
      simp only [List.mem_cons, List.not_mem_nil, or_false] at this ⊢
      rcases this with hs | hs | hs <;> simp [hs]
  refine ⟨hfound.1, hadmits.waitlist, fun ao hao huser hactive ↦ ?_, hfound.2⟩
  have := (hadmits.offer ao hao huser hactive).1
  simp at this

/-- The three writes of a completed checkout are one move. -/
theorem complete_move (reference : Purchase → Option String) {ep : Purchase}
    {manuallyInvited found : Bool} {t u : Enrollment} (hwf : s.WellFormed)
    (hep : ep ∈ s.purchases) (hlive : ep.HasLiveHold now) (hnotCanceled : s.event.canceled = false)
    (hcompletes : mode.completes)
    (hoffer : completeOffer ep.admissionOfferId s = .ok t)
    (hattendee : confirmAttendee ep.userId manuallyInvited t = .ok (found, u))
    (hpurchase : updatePurchase ep.eventPurchaseId (fun row ↦ row.complete (reference row)) u
      = .ok s') :
    EnrollmentMove mode now .plain s s' ∧ ep.complete (reference ep) ∈ s'.purchases := by
  obtain ⟨offers, rfl, hoffers⟩ := completeOffer_spec hoffer
  obtain ⟨-, hqueue, hfree, attendees, rfl, hconfirms⟩ :=
    confirmAttendee_spec (by exact hwf.attendeeStatus) hattendee
  obtain ⟨haccepted, rfl⟩ :=
    updatePurchase_eq_ok (by exact hwf.purchaseKeys) (by exact hep) hpurchase
  have hcontinues : (ep.complete (reference ep)).Continues ep :=
    ⟨rfl, rfl, rfl, rfl, rfl, rfl, .inl rfl, .inl rfl, rfl, rfl, rfl⟩
  exact ⟨.complete hep hcontinues (haccepted.congr rfl) hlive rfl hnotCanceled (hoffers ep rfl)
    hconfirms hqueue hfree hcompletes, new_mem_replaceRow hep rfl⟩

/-- **Completing a free purchase is a run of moves.** -/
theorem completeFreeEventPurchase_moves {purchase : Uuid} (hwf : s.WellFormed)
    (hcompletes : mode.completes)
    (h : completeFreeEventPurchase now purchase s = .ok s') : Moves mode now s s' := by
  unfold completeFreeEventPurchase at h
  split at h
  · simp at h
  · simp only [bind_eq_ok] at h
    obtain ⟨-, -, ⟨promoted, t⟩, ht, h⟩ := h
    obtain ⟨hmoves, hreconciled⟩ := reconcileEventEnrollment_spec mode hwf ht
    split at h
    · simp at h
    · next ep hfind =>
      have hid := List.find?_some hfind
      simp only [decide_eq_true_eq] at hid
      have hep := List.mem_of_find?_eq_some hfind
      simp only [bind_eq_ok, require_eq_ok, Prod.exists] at h
      obtain ⟨-, hpending, -, -, -, -, -, -, -, hopen, u, hoffer, found, v, hattendee, -, -,
        hpurchase⟩ := h
      exact hmoves.tail (complete_move mode Purchase.providerPaymentReference
        (hmoves.wellFormed hwf) hep
        (hreconciled.live ep hep hpending) hopen.2.2.2.1 hcompletes hoffer hattendee
        (hid ▸ hpurchase)).1

/-! ## The provider's report -/

/-- How a report is settled: not at all, by completion, or by a refund that waits already or starts
now. -/
inductive Settles (mode : MoveMode) (now : Timestamp) (report : CompletedSession) (s : Enrollment) :
    SettledCheckout → Enrollment → Prop
  | noop (hnone : ∀ ep ∈ s.purchases, ep.HasSession report.ref → ¬ ep.AwaitsReport now) :
    Settles mode now report s .noop s
  | completed {ep new : Purchase} {s' : Enrollment} (hep : ep ∈ s.purchases)
      (hsession : ep.HasSession report.ref) (hmoves : Moves mode now s s')
      (hnew : new ∈ s'.purchases) (hid : new.eventPurchaseId = ep.eventPurchaseId)
      (hstatus : new.status = .completed) : Settles mode now report s (.completed ep.userId) s'
  | waiting {ep paid new : Purchase} {s' : Enrollment} {total : ℤ} (hep : ep ∈ s.purchases)
      (hsession : ep.HasSession report.ref) (hpaid : paid.eventPurchaseId = ep.eventPurchaseId)
      (hfrom : ep.status = .refundPending) (hmoves : Moves mode now s s')
      (hnew : new ∈ s'.purchases) (hid : new.eventPurchaseId = ep.eventPurchaseId)
      (hstatus : new.status = .refundPending) :
    Settles mode now report s (.refundQueued paid total) s'
  | reserved {ep paid new : Purchase} {s₁ s₂ s' : Enrollment} {total : ℤ} (hep : ep ∈ s.purchases)
      (hsession : ep.HasSession report.ref) (hpaid : paid.eventPurchaseId = ep.eventPurchaseId)
      (hfrom : ep.status = .pending ∨ ep.status = .expired) (hamount : 0 < paid.amountMinor)
      (hmoves : Moves mode now s s₁) (hmove : EnrollmentMove mode now (.reserve paid) s₁ s₂)
      (hrest : Moves mode now s₂ s') (hnew : new ∈ s'.purchases)
      (hid : new.eventPurchaseId = ep.eventPurchaseId) (hstatus : new.status = .refundPending) :
    Settles mode now report s (.refundQueued paid total) s'

theorem Enrollment.WellFormed.session_unique (hwf : s.WellFormed) {ref : SessionRef}
    {ep ep' : Purchase} (hep : ep ∈ s.purchases) (hep' : ep' ∈ s.purchases)
    (h : ep.HasSession ref) (h' : ep'.HasSession ref) : ep = ep' := by
  obtain ⟨hprovider, haccount, haccount_eq, hsession⟩ := h
  obtain ⟨hprovider', -, haccount_eq', hsession'⟩ := h'
  by_contra hne
  refine (hwf.purchaseAccepted ep hep).distinct ep' hep'
    (fun hid ↦ hne (eq_of_key_eq hwf.purchaseKeys hep hep' hid.symm))
      ⟨?_, ?_, ?_, ?_, .inl ⟨?_, ?_⟩⟩
  · simp [hprovider]
  · rw [hprovider, hprovider']
  · rwa [haccount_eq]
  · rw [haccount_eq, haccount_eq']
  · simp [hsession]
  · rw [hsession, hsession']

theorem recordReport_continues {report : CompletedSession} {amounts : FinancialAmounts}
    {ep : Purchase} (hamounts : authoritativeAmounts report ep = .ok amounts)
    (hawaits : ep.AwaitsReport now) : (ep.recordReport report amounts).Continues ep := by
  refine ⟨rfl, rfl, rfl, rfl, rfl, rfl, .inl rfl, .inr ⟨fun hentitled ↦ ?_, fun fa hfa ↦ ?_⟩,
    rfl, rfl, rfl⟩
  · rcases hawaits with hstatus | ⟨hstatus, -⟩
    · simp only [List.mem_cons, List.not_mem_nil, or_false] at hstatus
      rcases hstatus with hs | hs <;> simp [hs] at hentitled
    · simp [hstatus] at hentitled
  · obtain rfl := Option.some.inj hfa
    unfold authoritativeAmounts at hamounts
    split at hamounts
    · simp only [bind_eq_ok, require_eq_ok, Except.ok.injEq] at hamounts
      obtain ⟨-, hpos, -, -, -, -, rfl⟩ := hamounts
      exact hpos.1
    · simp at hamounts

/-- A paid checkout that ends waits for its refund; its start is paired with the refund row. -/
theorem reserveRefund_move {reference : Option String} {ep : Purchase} (hep : ep ∈ s.purchases)
    (hfrom : ep.status = .pending ∨ (ep.status = .expired ∧ (mode.strict → s.MayReopen ep)))
    (h : reserveRefund now reference ep s = .ok s') :
    EnrollmentMove mode now (.reserve ep) s s' ∧ s'.purchases
      = replaceRow Purchase.eventPurchaseId (ep.awaitRefund reference) s.purchases := by
  unfold reserveRefund at h
  simp only [bind_eq_ok, writePurchase_eq_ok, Except.ok.injEq] at h
  obtain ⟨t, ⟨-, haccepted, rfl⟩, rfl⟩ := h
  set purchases := replaceRow Purchase.eventPurchaseId (ep.awaitRefund reference) s.purchases
    with hpurchases
  have hstate : releaseEventCheckoutAttendeeHold now ep.userId
      (if ep.status = .pending then
        releaseEventDiscountCodeAvailability ep.eventDiscountCodeId
          { s with purchases := purchases }
      else { s with purchases := purchases })
      = releaseIf (ep.status = .pending) ep.eventDiscountCodeId { s with
        attendees := s.attendees.filter (keepsHold now ep.userId purchases)
        purchases := purchases } := by
    rw [releaseIf]
    by_cases hpending : ep.status = .pending
    · rw [if_pos hpending, if_pos (by simp [hpending])]
      rfl
    · rw [if_neg hpending, if_neg (by simp [hpending])]
      rfl
  rw [hstate]
  exact ⟨.endCheckout _ hep ⟨rfl, rfl, rfl, rfl, rfl, rfl, .inl rfl, .inl rfl, rfl, rfl, rfl⟩
    haccepted
    (.reserve hfrom rfl) (fun _ _ ↦ keepsHold_dropped) fun _ _ ↦ keepsHold_kept, by simp⟩

/-- A paid hold that may be fulfilled is not swept by the reconciliation that comes before. -/
theorem Enrollment.not_holdIsDue {ep : Purchase} (h : ¬ s.RequiresRefund now ep) :
    ¬ s.HoldIsDue now ep := by
  simp only [RequiresRefund, Unfulfillable, not_or] at h
  obtain ⟨-, hhold, -, -, -, -, -, -, hoffer⟩ := h
  rintro ⟨-, hdue | ⟨ao, hao, hlinked, hdue⟩⟩
  · exact hhold hdue
  · exact hoffer ⟨ao, hao, hlinked, .inr hdue.2⟩

theorem settleCheckoutSession_spec {report : CompletedSession} {settled : SettledCheckout}
    (hwf : s.WellFormed) (hcompletes : mode.completes)
    (hreopen : mode.strict → ∀ ep ∈ s.purchases, ep.HasSession report.ref → ep.AwaitsReport now →
      ep.status = .expired → s.MayReopen ep)
    (h : settleCheckoutSession now report s = .ok (settled, s')) :
    Settles mode now report s settled s' := by
  unfold settleCheckoutSession at h
  simp only [bind_eq_ok, require_eq_ok] at h
  obtain ⟨-, -, -, -, h⟩ := h
  split at h
  · next hfind =>
    simp only [Except.ok.injEq, Prod.mk.injEq] at h
    obtain ⟨rfl, rfl⟩ := h
    refine .noop fun ep hep hsession ↦ ?_
    have := List.find?_eq_none.1 hfind ep hep
    simp [hsession] at this
  · next ep hfind =>
    have hep := List.mem_of_find?_eq_some hfind
    have hsession := List.find?_some hfind
    simp only [decide_eq_true_eq] at hsession
    split at h
    · next hnot =>
      simp only [Except.ok.injEq, Prod.mk.injEq] at h
      obtain ⟨rfl, rfl⟩ := h
      refine .noop fun row hrow hrow_session ↦ ?_
      rwa [hwf.session_unique hrow hep hrow_session hsession]
    · next hawaits =>
      have hawaits := not_not.1 hawaits
      simp only [bind_eq_ok, require_eq_ok, decide_eq_true_eq] at h
      obtain ⟨amounts, hamounts, -, -, s₁, hrecord, h⟩ := h
      obtain ⟨haccepted, rfl⟩ := storePurchase_eq_ok.1 hrecord
      set paid := ep.recordReport report amounts with hpaid
      have hcontinues : paid.Continues ep := recordReport_continues hamounts hawaits
      set recorded : Enrollment :=
        { s with purchases := replaceRow Purchase.eventPurchaseId paid s.purchases } with hrecorded
      have hrecorded_move : Moves mode now s recorded :=
        .single (.record mode hep hcontinues haccepted rfl rfl)
      have hwf₁ := hrecorded_move.wellFormed hwf
      have hpaid_mem : paid ∈ recorded.purchases := new_mem_replaceRow hep rfl
      by_cases hrequires : s.RequiresRefund now ep
      · simp only [hrequires, true_and] at h
        split at h
        · next hnot =>
          simp only [bind_eq_ok, if_true, Except.ok.injEq, Prod.mk.injEq, Prod.exists] at h
          obtain ⟨s₂, hreserve, promoted, t, ht, rfl, rfl⟩ := h
          have hfrom : ep.status = .pending ∨ ep.status = .expired := by
            rcases hawaits with hstatus | ⟨hexpired, -⟩
            · exact .inl (by simpa [hnot] using hstatus)
            · exact .inr hexpired
          obtain ⟨hmove, hpurchases⟩ := reserveRefund_move mode hpaid_mem (hfrom.imp_right
            fun hexpired ↦ ⟨hexpired, fun hstrict ↦
              hreopen hstrict ep hep hsession hawaits hexpired⟩) hreserve
          obtain ⟨hmoves, hreconciled⟩ :=
            reconcileEventEnrollment_spec mode (hmove.wellFormed hwf₁) ht
          have hnew : paid.awaitRefund report.providerPaymentReference ∈ s₂.purchases := by
            rw [hpurchases]
            exact new_mem_replaceRow hpaid_mem rfl
          refine .reserved hep hsession rfl hfrom ?_ hrecorded_move hmove hmoves
            (hreconciled.kept _ hnew ?_) rfl rfl
          · exact hwf.sessionPaid ep hep (by simp [hsession.2.2.2])
          · rintro ⟨hpending, -⟩
            simp [Purchase.awaitRefund] at hpending
        · next hwaiting =>
          have hwaiting := not_not.1 hwaiting
          simp only [bind_eq_ok, if_true, Except.ok.injEq, Prod.mk.injEq, Prod.exists] at h
          obtain ⟨t, rfl, promoted, u, hu, rfl, rfl⟩ := h
          obtain ⟨hmoves, hreconciled⟩ := reconcileEventEnrollment_spec mode hwf₁ hu
          refine .waiting hep hsession rfl hwaiting (hrecorded_move.trans hmoves)
            (hreconciled.kept paid hpaid_mem ?_) rfl hwaiting
          rintro ⟨hpending, -⟩
          rw [show paid.status = .refundPending from hwaiting] at hpending
          simp at hpending
      · simp only [hrequires, false_and, if_false, ok_bind, bind_eq_ok, Prod.exists] at h
        obtain ⟨promoted, t, ht, h⟩ := h
        obtain ⟨hmoves, hreconciled⟩ := reconcileEventEnrollment_spec mode hwf₁ ht
        have hreach : Moves mode now s t := hrecorded_move.trans hmoves
        have hpending : ep.status = .pending := by
          rcases hawaits with hstatus | ⟨-, hhold⟩
          · simp only [List.mem_cons, List.not_mem_nil, or_false] at hstatus
            exact hstatus.resolve_right fun hwaiting ↦ hrequires (.inl hwaiting)
          · exact absurd (.inr (.inl hhold)) hrequires
        have hkept : paid ∈ t.purchases :=
          hreconciled.kept paid hpaid_mem
            fun hdue ↦ Enrollment.not_holdIsDue hrequires (show s.HoldIsDue now ep from hdue)
        have hnotCanceled : t.event.canceled = false := by
          rw [hreconciled.event]
          by_contra hcanceled
          exact hrequires (.inr (.inr (.inr (.inl (by simpa using hcanceled)))))
        unfold fulfillCheckout at h
        simp only [bind_eq_ok, Prod.exists] at h
        obtain ⟨u, hoffer, found, v, hattendee, h⟩ := h
        obtain ⟨hoffers, rfl, -⟩ := completeOffer_spec hoffer
        obtain rfl : found = true :=
          (confirmAttendee_spec (by exact (hreach.wellFormed hwf).attendeeStatus) hattendee).1
        simp only [if_true, bind_eq_ok, Except.ok.injEq, Prod.mk.injEq] at h
        obtain ⟨w, hcomplete, rfl, rfl⟩ := h
        obtain ⟨hmove, hnew⟩ := complete_move mode (fun _ ↦ report.providerPaymentReference)
          (hreach.wellFormed hwf) hkept (hreconciled.live paid hkept hpending) hnotCanceled
          hcompletes hoffer hattendee hcomplete
        exact @Settles.completed mode now report s ep _ _ hep hsession (hreach.tail hmove) hnew rfl
          rfl

/-! ## The refund row -/

theorem ensureRefund_spec {ep : Purchase} {amountMinor : Option ℤ} {provider : Option String}
    {kind : RefundKind} {request initiatedBy : Option Uuid} {reviewNote : Option String}
    (h : ensureRefund now ep amountMinor provider kind request initiatedBy reviewNote db
      = .ok db') :
    (db.HasRefund ep.eventPurchaseId ∧ db' = db)
      ∨ ∃ row : Refund, row.Starts db ep ∧ row.kind = kind ∧ amountMinor = some row.amountMinor
        ∧ db' = { db with
          nextRefundUuid := db.nextRefundUuid + 1
          refunds := db.refunds ++ [row] } := by
  unfold ensureRefund at h
  split at h
  · split at h
    · next hrefund =>
      obtain rfl := Except.ok.inj h
      exact .inl ⟨hrefund, rfl⟩
    · next hnone =>
      unfold checkEventPurchaseRefund at h
      simp only [bind_eq_ok, require_eq_ok, Except.ok.injEq] at h
      obtain ⟨-, ⟨-, hvalid, -⟩, -, -, rfl⟩ := h
      exact .inr ⟨_, ⟨rfl, rfl, rfl, rfl, rfl, rfl, hvalid,
        fun r hr hpurchase ↦ hnone ⟨r, hr, hpurchase⟩⟩, rfl, rfl, rfl⟩
  · simp at h

/-- Where a settled report leaves its purchase: unreconciled and untouched, completed, or waiting
for a refund that has its row. -/
def Database.Accounts (db : Database) (ep : Purchase) : Prop :=
  ∃ new ∈ db.purchases, new.eventPurchaseId = ep.eventPurchaseId
    ∧ (new.status = .completed ∨ (new.status = .refundPending ∧ db.HasRefund ep.eventPurchaseId))

/-- **The provider's report is a run of moves** that accounts for a purchase that awaits it and
changes nothing otherwise. It is strict unless it takes up an expired checkout whose user waits for
another seat. -/
theorem reconcileEventPurchaseForCheckoutSession_spec {report : CompletedSession}
    {outcome : WebhookOutcome} (hwf : db.toEnrollment.WellFormed) (hrefunds : db.RefundsConsistent)
    (hcompletes : mode.completes)
    (hreopen : mode.strict → ∀ ep ∈ db.purchases, ep.HasSession report.ref → ep.AwaitsReport now →
      ep.status = .expired → db.MayReopen ep)
    (h : reconcileEventPurchaseForCheckoutSession now report db = .ok (outcome, db')) :
    PartitionMoves mode now db db' ∧ ∀ ep ∈ db.purchases, ep.HasSession report.ref →
      (¬ ep.AwaitsReport now ∧ db' = db) ∨ db'.Accounts ep := by
  unfold reconcileEventPurchaseForCheckoutSession at h
  simp only [bind_eq_ok, Prod.exists] at h
  obtain ⟨settled, s, hsettle, h⟩ := h
  have hspec := settleCheckoutSession_spec mode hwf hcompletes hreopen hsettle
  cases hspec with
  | noop hnone =>
    simp only [Except.ok.injEq, Prod.mk.injEq] at h
    obtain ⟨-, rfl⟩ := h
    exact ⟨.refl, fun ep hep hsession ↦ .inl ⟨hnone ep hep hsession, rfl⟩⟩
  | @completed row new _ hrow hrow_session hmoves hnew hid hstatus =>
    simp only [Except.ok.injEq, Prod.mk.injEq] at h
    obtain ⟨-, rfl⟩ := h
    refine ⟨Moves.lift mode hmoves, fun ep hep hsession ↦ .inr ⟨new, hnew, ?_, .inl hstatus⟩⟩
    rw [hid, hwf.session_unique hrow hep hrow_session hsession]
  | @waiting row paid new _ total hrow hrow_session hpaid hfrom hmoves hnew hid hstatus =>
    simp only [bind_eq_ok, Except.ok.injEq, Prod.mk.injEq] at h
    obtain ⟨db₁, hensure, -, rfl⟩ := h
    obtain ⟨r, hr, hlink⟩ := hrefunds.queued row hrow (by simp [hfrom])
    rcases ensureRefund_spec hensure with ⟨-, rfl⟩ | ⟨added, hstarts, -⟩
    · refine ⟨Moves.lift mode hmoves,
        fun ep hep hsession ↦ .inr ⟨new, hnew, ?_, .inr ⟨hstatus, ?_⟩⟩⟩
      · rw [hid, hwf.session_unique hrow hep hrow_session hsession]
      · exact ⟨r, hr, by rw [hlink, hwf.session_unique hrow hep hrow_session hsession]⟩
    · exact absurd (hlink.trans hpaid.symm) (hstarts.first r hr)
  | @reserved row paid new s₁ s₂ _ total hrow hrow_session hpaid hfrom hamount hmoves hmove hrest
    hnew
      hid hstatus =>
    simp only [bind_eq_ok, Except.ok.injEq, Prod.mk.injEq] at h
    obtain ⟨db₁, hensure, -, rfl⟩ := h
    rcases ensureRefund_spec hensure with ⟨⟨r, hr, hlink⟩, -⟩ | ⟨added, hstarts, hkind, -, rfl⟩
    · -- no refund starts before the checkout ends
      have hstarted := (hrefunds.matches_of_link hwf hr hrow (hpaid.symm.trans hlink.symm)).started
      rcases hfrom with hs | hs
      · exact absurd hs hstarted.1
      · exact absurd hs hstarted.2
    · have hstarts' : added.Starts { db with toEnrollment := s₁ } paid :=
        ⟨hstarts.id, hstarts.purchase, hstarts.key, hstarts.status, hstarts.finalizedAt,
          hstarts.recoveryCompletedAt, hstarts.valid, hstarts.first⟩
      refine ⟨((Moves.lift mode hmoves).tail (.reserve hmove hamount hstarts' hkind)).trans
        (Moves.lift mode hrest), fun ep hep hsession ↦
          .inr ⟨new, hnew, ?_, .inr ⟨hstatus, added, ?_⟩⟩⟩
      · rw [hid, hwf.session_unique hrow hep hrow_session hsession]
      · refine ⟨by simp, ?_⟩
        rw [hstarts.purchase, hpaid, hwf.session_unique hrow hep hrow_session hsession]

end

end Ocg
