import Ocg.Enrollment.Offers
import Ocg.Refinement.Complete

/-!
# Enrollment as a run of moves

Attending, leaving, requests, invitations and offers. Leaving ends attendance before it refunds the
free purchase behind it; as moves the refund comes first, so that an entitled purchase always has
its attendee. The statement update of the attendee table is therefore described apart from the state
it ran in.
-/

namespace Ocg

open Relational

section

variable (mode : MoveMode) {now : Timestamp} {s s' : Enrollment} {db db' : Database}

/-! ## Attending -/

theorem joinQueue_moves {user tier : Uuid} (h : joinQueue now user tier s = .ok s')
    (hpurchases : ∀ ep ∈ s.purchases, ep.userId = user → ¬ ep.status.IsConflicting)
    (hmode : s.event.attendeeApprovalRequired = false) (hnotCanceled : s.event.canceled = false) :
    Moves mode now s s' := by
  unfold joinQueue at h
  obtain ⟨hattendees, hoffers, hqueue, rfl⟩ := insertWaitlistEntry_eq_ok.1 h
  refine ((Relation.ReflTransGen.single (.leaveQueue _)).tail (.dropAttendees _ ?_)).tail
    (.joinQueue hattendees hoffers hqueue hpurchases hmode hnotCanceled)
  intro ea _ hdropped
  simp only [decide_eq_true_eq, not_not, List.mem_cons, List.not_mem_nil, or_false] at hdropped
  exact hdropped.2

theorem enterTier_moves {user : Uuid} {tier : Option Uuid} {outcome : AttendOutcome}
    (hlive : ∀ ep ∈ s.purchases, ep.status = .pending → ep.HasLiveHold now)
    (hmode : s.event.attendeeApprovalRequired = false) (hnotCanceled : s.event.canceled = false)
    (h : enterTier now user tier s = .ok (outcome, s')) : Moves mode now s s' := by
  unfold enterTier at h
  split at h
  · simp at h
  · next ett hfind =>
    simp only [bind_eq_ok, require_eq_ok] at h
    obtain ⟨-, hnone, h⟩ := h
    split_ifs at h with hreusable hfree hwaitlist hqueued
    iterate 4
      simp only [Except.ok.injEq, Prod.mk.injEq] at h
      obtain ⟨-, rfl⟩ := h
      exact .refl
    · simp only [bind_eq_ok, Except.ok.injEq, Prod.mk.injEq] at h
      obtain ⟨t, ht, -, rfl⟩ := h
      refine joinQueue_moves mode ht (fun ep hep huser hconflicting ↦ ?_) hmode hnotCanceled
      by_cases hseated : ep.status.IsSeated
      · exact hnone ⟨ep, hep, huser, .inl hseated⟩
      · -- what conflicts without being seated is a live hold
        have hpending : ep.status = .pending := by
          rcases PurchaseStatus.isConflicting_iff.1 hconflicting with hs | hs | hs | hs | hs <;>
            first | exact hs | exact absurd (by simp [hs]) hseated
        by_cases hsame : ep.eventTicketTypeId = ett.eventTicketTypeId ∧ ep.amountMinor = 0
        · exact hreusable ⟨ep, hep, hsame.1, huser, hsame.2, hlive ep hep hpending⟩
        · exact hnone ⟨ep, hep, huser, .inr ⟨hlive ep hep hpending, hsame⟩⟩

theorem requestInvitation_eq_ok {env : Env} {user : Uuid} {answers : Option Answers}
    {tier : Option Uuid} {outcome : AttendOutcome}
    (h : requestInvitation env user answers tier s = .ok (outcome, s')) :
    ∃ eir : InvitationRequest, eir.userId = user
      ∧ s' = { s with invitationRequests := s.invitationRequests ++ [eir] } := by
  refine ⟨⟨user, tier, answers, .pending⟩, rfl, ?_⟩
  unfold requestInvitation at h
  split_ifs at h
  all_goals
    obtain ⟨-, -, h⟩ := bind_eq_ok.1 h
    split at h
    · split at h <;> simp at h
    · simp only [bind_eq_ok, Except.ok.injEq, Prod.mk.injEq] at h
      obtain ⟨-, -, -, rfl⟩ := h
      rfl

/-- **Attending is a run of moves.** -/
theorem attendEvent_moves {env : Env} {communityId user : Uuid} {answers : Option Answers}
    {tier : Option Uuid} {outcome : AttendOutcome} (hwf : s.WellFormed)
    (h : attendEvent env now communityId user answers tier s = .ok (outcome, s')) :
    Moves mode now s s' := by
  unfold attendEvent at h
  simp only [bind_eq_ok, require_eq_ok] at h
  obtain ⟨-, hopen, ⟨promoted, t⟩, ht, -, -, -, -, -, hoffers, -, -, selected, -, h⟩ := h
  obtain ⟨hmoves, hreconciled⟩ := reconcileEventEnrollment_spec mode hwf ht
  have hnotCanceled : t.event.canceled = false := hreconciled.event ▸ hopen.2.2.2.2.1
  refine hmoves.trans ?_
  split at h
  · next hmode =>
    obtain ⟨eir, heir, rfl⟩ := requestInvitation_eq_ok h
    refine .single (.addRequest (fun ao hao huser hactive ↦
      hoffers ⟨ao, hao, huser.trans heir, hactive, ?_⟩) hmode hnotCanceled)
    exact hreconciled.unexpired ao hao hactive
  · next hmode =>
    exact enterTier_moves mode hreconciled.live (by simpa using hmode) hnotCanceled h

/-! ## Ending attendance -/

/-- A statement that cancels attendance, apart from the state it ran in: the rows it selects are
canceled, and in any state with the same attendees it is a run of moves once nothing entitles their
users. -/
theorem updateAttendees_cancel_spec (now : Timestamp) {selected : Attendee → Prop}
    [DecidablePred selected] {found : Bool} (hkeys : (s.attendees.map Attendee.userId).Nodup)
    (h : updateAttendees selected (fun ea ↦ { ea with status := .attendanceCanceled }) s
      = .ok (found, s')) :
    (found = false → s' = s) ∧ ∃ attendees, s' = { s with attendees := attendees }
      ∧ (∀ ea ∈ attendees, ea.status = .attendanceCanceled ∨ (ea ∈ s.attendees ∧ ¬ selected ea))
      ∧ ∀ u : Enrollment, u.attendees = s.attendees →
        (∀ ea ∈ s.attendees, selected ea → ∀ ep ∈ u.purchases, ep.userId = ea.userId →
          ¬ ep.status.IsEntitled) → Moves mode now u { u with attendees := attendees } := by
  unfold updateAttendees at h
  simp only [bind_eq_ok, Except.ok.injEq, Prod.mk.injEq] at h
  obtain ⟨t, ht, hfound, rfl⟩ := h
  refine ⟨fun hnone ↦ ?_, ?_⟩
  · have hempty : (s.attendees.filter fun ea ↦ selected ea) = [] := by
      rw [hnone] at hfound
      simpa using hfound
    rw [hempty] at ht
    simpa [pure, Except.pure] using ht.symm
  have hinv := foldlM_suffix (P := fun rest t ↦
    (rest.map Attendee.userId).Nodup ∧
    (∀ ea ∈ rest, ea ∈ t.attendees ∧ ea ∈ s.attendees ∧ selected ea)
      ∧ t = { s with attendees := t.attendees }
      ∧ (∀ ea ∈ t.attendees, ea.status = .attendanceCanceled ∨ (ea ∈ s.attendees ∧ ¬ selected ea)
        ∨ ea ∈ rest)
      ∧ ∀ u : Enrollment, u.attendees = s.attendees →
        (∀ ea ∈ s.attendees, selected ea → ∀ ep ∈ u.purchases, ep.userId = ea.userId →
          ¬ ep.status.IsEntitled) → Moves mode now u { u with attendees := t.attendees })
    ?_ ⟨nodup_keys_filter hkeys _, fun ea hea ↦ ?_, rfl, fun ea hea ↦ ?_, fun u hu _ ↦ ?_⟩ ht
  · obtain ⟨-, -, hstate, hrows, hmoves⟩ := hinv
    exact ⟨t.attendees, hstate, fun ea hea ↦ by simpa using hrows ea hea, hmoves⟩
  · rintro ea rest t t' ⟨hnodup, hrest, hstate, hrows, hmoves⟩ hwrite
    obtain ⟨-, rfl⟩ := writeAttendee_eq_ok.1 hwrite
    obtain ⟨hea, hea_old, hselected⟩ := hrest ea (by simp)
    rw [List.map_cons, List.nodup_cons] at hnodup
    refine ⟨hnodup.2, fun row hrow ↦ ?_, by rw [hstate], fun row hrow ↦ ?_, fun u hu hfree ↦ ?_⟩
    · obtain ⟨hmem, hold⟩ := hrest row (List.mem_cons_of_mem _ hrow)
      refine ⟨mem_replaceRow_of_ne hmem fun huser ↦ hnodup.1 ?_, hold⟩
      rw [← show row.userId = ea.userId from huser]
      exact List.mem_map_of_mem hrow
    · rcases mem_replaceRow hrow with rfl | ⟨hrow, hne⟩
      · exact .inl rfl
      · rcases hrows row hrow with hcanceled | hkept | hrest
        · exact .inl hcanceled
        · exact .inr (.inl hkept)
        · exact .inr (.inr ((List.mem_cons.1 hrest).resolve_left fun heq ↦ hne (heq ▸ rfl)))
    · exact (hmoves u hu hfree).tail (.cancelAttendance hea (hfree ea hea_old hselected))
  · have := List.mem_filter.1 hea
    exact ⟨this.1, this.1, of_decide_eq_true this.2⟩
  · by_cases hselected : selected ea
    · exact .inr (.inr (List.mem_filter.2 ⟨hea, decide_eq_true hselected⟩))
    · exact .inr (.inl ⟨hea, hselected⟩)
  · rw [← hu]

theorem refundFreeEventPurchase_eq_ok {purchase : Uuid}
    (h : refundFreeEventPurchase purchase s = .ok s') :
    ∃ ep ∈ s.purchases, ep.eventPurchaseId = purchase ∧ ep.amountMinor = 0 ∧ ep.status.IsEntitled
      ∧ s.AcceptsPurchase { ep with status := .refunded }
      ∧ s' = releaseIf true ep.eventDiscountCodeId { s with
        purchases := replaceRow Purchase.eventPurchaseId { ep with status := .refunded }
          s.purchases } := by
  unfold refundFreeEventPurchase at h
  split at h
  · simp at h
  · next ep hfind =>
    have hselected := List.find?_some hfind
    simp only [decide_eq_true_eq] at hselected
    simp only [bind_eq_ok, writePurchase_eq_ok, Except.ok.injEq] at h
    obtain ⟨t, ⟨-, haccepted, rfl⟩, rfl⟩ := h
    exact ⟨ep, List.mem_of_find?_eq_some hfind, hselected.1, hselected.2.1, hselected.2.2,
      haccepted,
      rfl⟩

theorem releaseFreeAttendance_moves {user : Uuid} {provider : Option String} {found : Bool}
    {t : Enrollment} (hwf : s.WellFormed)
    (hcancel : cancelAttendance user [.confirmed] s = .ok (found, t))
    (h : releaseFreeAttendance now (entitledPurchase user s) provider t = .ok s') :
    Moves mode now s s' := by
  -- ending free attendance: the refund of the purchase behind it, then the attendance, then
  -- reconciliation
  obtain ⟨-, attendees, rfl, -, hmoves⟩ :=
    updateAttendees_cancel_spec mode now hwf.attendeeKeys hcancel
  unfold releaseFreeAttendance at h
  cases hpurchase : entitledPurchase user s with
  | none =>
    rw [hpurchase] at h
    simp only [ok_bind, bind_eq_ok, Except.ok.injEq, Prod.exists] at h
    obtain ⟨promoted, u, hu, rfl⟩ := h
    have hreach : Moves mode now s { s with attendees := attendees } := by
      refine hmoves s rfl fun ea _ hselected ep hep huser hentitled ↦ ?_
      have hmem : ep ∈ s.purchases.filter fun ep ↦ ep.userId = user ∧ ep.status.IsEntitled :=
        List.mem_filter.2 ⟨hep, decide_eq_true ⟨huser.trans hselected.1, hentitled⟩⟩
      rw [firstBy_eq_none.1 hpurchase] at hmem
      simp at hmem
    exact hreach.trans (reconcileEventEnrollment_spec mode (hreach.wellFormed hwf) hu).1
  | some ep =>
    rw [hpurchase] at h
    simp only [bind_eq_ok, Except.ok.injEq, Prod.exists] at h
    obtain ⟨u, hu, promoted, v, hv, rfl⟩ := h
    obtain ⟨row, hrow, hid, hamount, -, haccepted, rfl⟩ := refundFreeEventPurchase_eq_ok hu
    obtain ⟨hep, hselected⟩ := List.mem_filter.1 (firstBy_mem hpurchase)
    obtain ⟨huser, hentitled⟩ := of_decide_eq_true hselected
    obtain rfl : row = ep := eq_of_key_eq hwf.purchaseKeys hrow hep hid
    have hrefund : Moves mode now s (releaseIf true row.eventDiscountCodeId { s with
        purchases := replaceRow Purchase.eventPurchaseId { row with status := .refunded }
          s.purchases }) :=
      .single (.setStatus mode hrow (haccepted.congr rfl) (.refundFree hentitled hamount rfl))
    have hreach := hrefund.trans (hmoves _ (releaseIf_attendees _ _ _) fun ea _ hea other hother
        hother_user hother_entitled ↦ ?_)
    · exact hreach.trans (reconcileEventEnrollment_spec mode (Moves.wellFormed hreach hwf) hv).1
    · -- the user's only entitled purchase is the refunded one
      rw [releaseIf_purchases] at hother
      rcases mem_replaceRow hother with rfl | ⟨hother, hne⟩
      · simp at hother_entitled
      · have hsame : other = row := hwf.activePurchase_unique hother hep hother_entitled.isActive
          hentitled.isActive (hother_user.trans (hea.1.trans huser.symm))
        exact hne (by rw [hsame])

/-- **Leaving is a run of moves.** -/
theorem leaveEvent_moves {communityId user : Uuid} {provider : Option String}
    {outcome : LeaveOutcome} (hwf : s.WellFormed)
    (h : leaveEvent now communityId user provider s = .ok (outcome, s')) : Moves mode now s s' := by
  unfold leaveEvent at h
  simp only [bind_eq_ok, require_eq_ok, Prod.exists] at h
  obtain ⟨-, -, -, -, found, t, hcancel, h⟩ := h
  split at h
  · simp only [bind_eq_ok, Except.ok.injEq, Prod.mk.injEq] at h
    obtain ⟨u, hu, -, rfl⟩ := h
    exact releaseFreeAttendance_moves mode hwf hcancel hu
  · next hnone =>
    obtain rfl := (updateAttendees_cancel_spec mode now hwf.attendeeKeys hcancel).1
      (by simpa using hnone)
    split_ifs at h with hqueued hrequested
    · simp only [Except.ok.injEq, Prod.mk.injEq] at h
      obtain ⟨-, rfl⟩ := h
      exact .single (.leaveQueue _)
    · simp only [Except.ok.injEq, Prod.mk.injEq] at h
      obtain ⟨-, rfl⟩ := h
      exact .single (.dropRequests _)

theorem submitEventRegistrationAnswers_move {env : Env} {communityId user : Uuid}
    {answers : Option Answers}
    (h : submitEventRegistrationAnswers env now communityId user answers s = .ok s') :
    EnrollmentMove mode now .plain s s' := by
  unfold submitEventRegistrationAnswers at h
  simp only [bind_eq_ok, require_eq_ok] at h
  obtain ⟨-, -, -, -, -, -, -, -, h⟩ := h
  split at h
  · simp at h
  · next ea hfind =>
    simp only [bind_eq_ok, require_eq_ok, Except.ok.injEq] at h
    obtain ⟨-, -, rfl⟩ := h
    have hea := List.mem_of_find?_eq_some hfind
    exact @EnrollmentMove.editAnswers mode now s ea _ hea rfl rfl rfl

/-! ## Issuing offers -/

/-- **Accepting a request is a run of moves.** -/
theorem acceptEventInvitationRequest_moves {actor groupId user : Uuid} {tier : Option Uuid}
    {provider : Option String} {outcome : OfferOutcome} (hwf : s.WellFormed)
    (h : acceptEventInvitationRequest now actor groupId user tier provider s = .ok (outcome, s')) :
    Moves mode now s s' := by
  unfold acceptEventInvitationRequest at h
  simp only [bind_eq_ok, require_eq_ok] at h
  obtain ⟨-, hmanaged, -, -, h⟩ := h
  split at h
  · simp at h
  · next eir _ =>
    simp only [bind_eq_ok] at h
    obtain ⟨selected, -, h⟩ := h
    split at h
    · simp at h
    · next ett hfind =>
      have hett := List.find?_some hfind
      simp only [decide_eq_true_eq] at hett
      split at h
      · simp at h
      · simp only [bind_eq_ok, require_eq_ok, Prod.exists] at h
        obtain ⟨-, -, -, -, promoted, t, ht, -, -, h⟩ := h
        obtain ⟨hmoves, hreconciled⟩ := reconcileEventEnrollment_spec mode hwf ht
        have hnotCanceled : t.event.canceled = false := hreconciled.event ▸ hmanaged.1.2.2.2.2.1
        refine hmoves.trans ?_
        split at h
        · simp only [Except.ok.injEq, Prod.mk.injEq] at h
          obtain ⟨-, rfl⟩ := h
          exact .refl
        · next hfree =>
          simp only [bind_eq_ok, require_eq_ok, Except.ok.injEq, Prod.mk.injEq] at h
          obtain ⟨-, -, -, -, u, hu, -, rfl⟩ := h
          have hmem : ett ∈ t.ticketTypes :=
            hreconciled.ticketTypes ▸ List.mem_of_find?_eq_some hfind
          have hroom : t.HasRoom now selected := hett.1 ▸
            .of_allocated (hmoves.wellFormed hwf) hmem (hett.1 ▸ not_le.1 hfree)
          split at hu
          · exact .head (.reviewRequests (by simp))
              (.single (issueOffer_move mode hu hroom hnotCanceled).1)
          · exact .single (issueOffer_move mode hu hroom hnotCanceled).1

theorem rejectEventInvitationRequest_move {groupId user : Uuid}
    (h : rejectEventInvitationRequest groupId user s = .ok s') :
    EnrollmentMove mode now .plain s s' := by
  unfold rejectEventInvitationRequest at h
  simp only [bind_eq_ok, require_eq_ok, Except.ok.injEq] at h
  obtain ⟨-, -, -, -, rfl⟩ := h
  exact .reviewRequests (by simp)

theorem inviteUser_moves {actor user : Uuid} {tier : Option Uuid} {provider : Option String}
    {outcome : OfferOutcome} (hwf : s.WellFormed) (hnotCanceled : s.event.canceled = false)
    (h : inviteUser now actor user tier provider s = .ok (outcome, s')) : Moves mode now s s' := by
  unfold inviteUser at h
  simp only [bind_eq_ok] at h
  obtain ⟨selected, -, h⟩ := h
  split at h
  · simp at h
  · next ett hfind =>
    have hett := List.find?_some hfind
    simp only [decide_eq_true_eq] at hett
    split at h
    · simp at h
    · simp only [bind_eq_ok, Prod.exists] at h
      obtain ⟨promoted, t, ht, h⟩ := h
      obtain ⟨hmoves, hreconciled⟩ := reconcileEventEnrollment_spec mode hwf ht
      refine hmoves.trans ?_
      split_ifs at h with hpromoted hfull
      · simp only [Except.ok.injEq, Prod.mk.injEq] at h
        obtain ⟨-, rfl⟩ := h
        exact .refl
      · simp only [Except.ok.injEq, Prod.mk.injEq] at h
        obtain ⟨-, rfl⟩ := h
        exact .refl
      · simp only [bind_eq_ok, require_eq_ok, Except.ok.injEq, Prod.mk.injEq] at h
        obtain ⟨-, -, -, -, -, -, u, hu, -, rfl⟩ := h
        have hmem : ett ∈ t.ticketTypes :=
          hreconciled.ticketTypes ▸ List.mem_of_find?_eq_some hfind
        have hroom : t.HasRoom now selected := hett.1 ▸
          .of_allocated (hmoves.wellFormed hwf) hmem (hett.1 ▸ not_le.1 hfull)
        exact .head (.leaveQueue _) (.single (issueOffer_move mode hu hroom
          (hreconciled.event ▸ hnotCanceled)).1)

/-- **Inviting is a run of moves** of the partition, since it may register the invitee first. -/
theorem inviteEventAttendee_moves {actor groupId : Uuid} {user : Option Uuid}
    {email : Option String} {tier : Option Uuid} {provider : Option String}
    {outcome : OfferOutcome} (hwf : db.toEnrollment.WellFormed)
    (h : inviteEventAttendee now actor groupId user email tier provider db
      = .ok (outcome, db')) : PartitionMoves mode now db db' := by
  unfold inviteEventAttendee at h
  simp only [bind_eq_ok, require_eq_ok, Except.ok.injEq, Prod.mk.injEq, Prod.exists] at h
  obtain ⟨-, -, -, hmanaged, target, -, answer, t, ht, -, rfl⟩ := h
  have hissued : Moves mode now db.toEnrollment { db.toEnrollment with
      nextUuid := if target.preRegistered = none then db.nextUuid else db.nextUuid + 1 } := by
    refine .single (.issueUuid ?_)
    split <;> simp
  have hreach := hissued.trans (inviteUser_moves mode (Moves.wellFormed hissued hwf)
    hmanaged.2.2.2.2.1 ht)
  exact (Moves.lift mode hreach).tail (.bookkeeping le_rfl)

/-! ## Withdrawing offers -/

/-- A committed release reconciles, ends the linked hold, withdraws the offer and reconciles. -/
theorem releaseAdmissionOffer_eq_ok {offer : AdmissionOffer} {status : OfferStatus}
    {provider : Option String} (h : releaseAdmissionOffer now offer status provider s = .ok s') :
    ∃ (promoted : List Uuid) (t u v : Enrollment) (promoted' : List Uuid),
      reconcileEventEnrollment now (some offer.eventTicketTypeId) provider s = .ok (promoted, t)
      ∧ (u = t ∨ ∃ ep ∈ t.purchases, ep.status = .pending ∧ expireHold now now ep t = .ok u)
      ∧ updateAdmissionOffer offer.admissionOfferId OfferStatus.IsActive
        (fun ao ↦ { ao with status := status }) u = .ok (some v)
      ∧ reconcileEventEnrollment now (some offer.eventTicketTypeId) provider v
        = .ok (promoted', s') := by
  unfold releaseAdmissionOffer at h
  simp only [bind_eq_ok, Prod.exists] at h
  obtain ⟨promoted, t, ht, -, -, h⟩ := h
  split at h
  · rw [ok_bind] at h
    obtain ⟨updated, hupdated, h⟩ := bind_eq_ok.1 h
    cases updated with
    | none => simp at h
    | some v =>
      simp only [bind_eq_ok, Except.ok.injEq, Prod.exists] at h
      obtain ⟨promoted', w, hw, rfl⟩ := h
      exact ⟨promoted, t, t, v, promoted', ht, .inl rfl, hupdated, hw⟩
  · next ep hfind =>
    have hselected := List.find?_some hfind
    simp only [decide_eq_true_eq] at hselected
    obtain ⟨u, hu, h⟩ := bind_eq_ok.1 h
    obtain ⟨updated, hupdated, h⟩ := bind_eq_ok.1 h
    cases updated with
    | none => simp at h
    | some v =>
      simp only [bind_eq_ok, Except.ok.injEq, Prod.exists] at h
      obtain ⟨promoted', w, hw, rfl⟩ := h
      exact ⟨promoted, t, u, v, promoted', ht,
        .inr ⟨ep, List.mem_of_find?_eq_some hfind, hselected.2, hu⟩, hupdated, hw⟩

theorem releaseAdmissionOffer_moves {offer : AdmissionOffer} {status : OfferStatus}
    {provider : Option String} (hwf : s.WellFormed)
    (hstatus : status ∈ [OfferStatus.canceled, .declined, .expired])
    (h : releaseAdmissionOffer now offer status provider s = .ok s') : Moves mode now s s' := by
  obtain ⟨promoted, t, u, v, promoted', ht, hhold, hupdated, hrest⟩ :=
    releaseAdmissionOffer_eq_ok h
  have hsettled := (reconcileEventEnrollment_spec mode hwf ht).1
  have hended : Moves mode now s u := by
    obtain rfl | ⟨ep, hep, hpending, hexpire⟩ := hhold
    · exact hsettled
    · exact hsettled.tail (expireHold_move mode hep hpending hexpire).1
  obtain ⟨hnone, -⟩ | ⟨ao, hao, -, -, hfollows, -, hsome⟩ :=
    updateAdmissionOffer_eq_ok hupdated fun _ ↦ rfl
  · cases hnone
  · obtain rfl := Option.some.inj hsome
    have hwithdrawn : Moves mode now s _ := hended.tail (.endOffer hao hstatus hfollows.status)
    exact hwithdrawn.trans (reconcileEventEnrollment_spec mode (hwithdrawn.wellFormed hwf) hrest).1

theorem cancelEventAdmissionOffer_moves {groupId offer : Uuid} {provider : Option String}
    (hwf : s.WellFormed) (h : cancelEventAdmissionOffer now groupId offer provider s = .ok s') :
    Moves mode now s s' := by
  unfold cancelEventAdmissionOffer at h
  split at h
  · simp at h
  · simp only [bind_eq_ok, require_eq_ok] at h
    obtain ⟨-, -, h⟩ := h
    exact releaseAdmissionOffer_moves mode hwf (by simp) h

theorem declineEventAdmissionOffer_moves {actor offer : Uuid} {provider : Option String}
    (hwf : s.WellFormed) (h : declineEventAdmissionOffer now actor offer provider s = .ok s') :
    Moves mode now s s' := by
  unfold declineEventAdmissionOffer at h
  split at h
  · simp at h
  · exact releaseAdmissionOffer_moves mode hwf (by simp) h

end

end Ocg
