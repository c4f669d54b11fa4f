import Ocg.Transition.Redemption

/-!
# Reconciliation as a run of moves

`reconcile_event_enrollment` expires due holds, settles due and abandoned offers, and promotes queue
heads; every iteration of its three loops is one move, or two. Besides the run, callers rely on what
reconciliation leaves alone: the configuration, the requests, and every purchase whose hold was not
due; and on every pending purchase holding its seat afterwards.
-/

namespace Ocg

open Relational

/-- A run of enrollment moves that touches no refund row. -/
abbrev Moves (mode : MoveMode) (now : Timestamp) : Enrollment → Enrollment → Prop :=
  Relation.ReflTransGen (EnrollmentMove mode now .plain)

theorem Moves.wellFormed {mode : MoveMode} {now : Timestamp} {s s' : Enrollment}
    (h : Moves mode now s s') (hwf : s.WellFormed) : s'.WellFormed := by
  induction h with
  | refl => exact hwf
  | tail _ hmove ih => exact hmove.wellFormed ih

/-- What a caller may rely on across reconciliation. -/
structure Enrollment.Reconciled (s : Enrollment) (now : Timestamp) (s' : Enrollment) : Prop where
  event : s'.event = s.event
  group : s'.group = s.group
  ticketTypes : s'.ticketTypes = s.ticketTypes
  invitationRequests : s'.invitationRequests = s.invitationRequests
  attendees : ∀ ea ∈ s'.attendees, ea ∈ s.attendees
  kept : ∀ ep ∈ s.purchases, ¬ s.HoldIsDue now ep → ep ∈ s'.purchases
  live : ∀ ep ∈ s'.purchases, ep.status = .pending → ep.HasLiveHold now
  unexpired : ∀ ao ∈ s'.admissionOffers, ao.status.IsActive → now < ao.expiresAt

section

variable (mode : MoveMode) {now : Timestamp} {s s' : Enrollment}

/-! ## Ending one hold -/

/-- The questionnaire rows that survive the release of a user's checkout hold. -/
def keepsHold (now : Timestamp) (user : Uuid) (purchases : List Purchase) (ea : Attendee) : Bool :=
  ¬ (ea.userId = user ∧ ea.status = .registrationQuestionsPending ∧ ea.manuallyInvited = false
    ∧ ¬ ∃ ep ∈ purchases, ep.userId = ea.userId ∧ (ep.status.IsEntitled ∨ ep.HasLiveHold now))

theorem keepsHold_dropped {user : Uuid} {purchases : List Purchase} {ea : Attendee}
    (h : ¬ keepsHold now user purchases ea = true) :
    ea.status = .registrationQuestionsPending := by
  simp only [keepsHold, decide_eq_true_eq, not_not] at h
  exact h.2.1

theorem keepsHold_kept {user : Uuid} {purchases : List Purchase} {ea : Attendee}
    (h : keepsHold now user purchases ea = true) (huser : ea.userId = user)
    (hstatus : ea.status = .registrationQuestionsPending) (hmanual : ea.manuallyInvited = false) :
    ∃ ep ∈ purchases, ep.userId = ea.userId ∧ (ep.status.IsEntitled ∨ ep.status = .pending) := by
  simp only [keepsHold, decide_eq_true_eq] at h
  have h := not_not.1 fun hno ↦ h ⟨huser, hstatus, hmanual, hno⟩
  obtain ⟨ep, hep, hep_user, hep_status⟩ := h
  exact ⟨ep, hep, hep_user, hep_status.imp_right fun hlive ↦ hlive.1⟩

theorem EnrollmentMove.expire {ep : Purchase} {hold : Timestamp} (keep : Attendee → Bool)
    (hep : ep ∈ s.purchases) (hpending : ep.status = .pending)
    (haccepted : s.AcceptsPurchase (ep.expire hold))
    (hdropped : ∀ ea ∈ s.attendees, ¬ keep ea = true → ea.status = .registrationQuestionsPending)
    (hkept : ∀ ea ∈ s.attendees, keep ea = true → ea.userId = ep.userId →
      ea.status = .registrationQuestionsPending → ea.manuallyInvited = false →
      ∃ other ∈ replaceRow Purchase.eventPurchaseId (ep.expire hold) s.purchases,
        other.userId = ea.userId ∧ (other.status.IsEntitled ∨ other.status = .pending)) :
    EnrollmentMove mode now .plain s { s with
      discountCodes := (releaseEventDiscountCodeAvailability ep.eventDiscountCodeId s).discountCodes
      attendees := s.attendees.filter keep
      purchases := replaceRow Purchase.eventPurchaseId (ep.expire hold) s.purchases } := by
  have hcontinues : (ep.expire hold).Continues ep :=
    ⟨rfl, rfl, rfl, rfl, rfl, rfl, .inl rfl, .inl rfl, rfl, rfl, rfl⟩
  have hmove : EnrollmentMove mode now .plain s _ :=
    .endCheckout keep hep hcontinues haccepted (.expire hpending rfl) hdropped hkept
  rw [releaseIf, if_pos (by simp [hpending])] at hmove
  exact hmove

theorem expireHold_move {ep : Purchase} {hold : Timestamp} (hep : ep ∈ s.purchases)
    (hpending : ep.status = .pending) (h : expireHold now hold ep s = .ok s') :
    EnrollmentMove mode now .plain s s'
      ∧ s' = { s with
        discountCodes := (releaseEventDiscountCodeAvailability ep.eventDiscountCodeId
          s).discountCodes
        attendees := s.attendees.filter (keepsHold now ep.userId
          (replaceRow Purchase.eventPurchaseId (ep.expire hold) s.purchases))
        purchases := replaceRow Purchase.eventPurchaseId (ep.expire hold) s.purchases } := by
  unfold expireHold at h
  simp only [bind_eq_ok, writePurchase_eq_ok, Except.ok.injEq] at h
  obtain ⟨t, ⟨-, haccepted, rfl⟩, rfl⟩ := h
  exact ⟨.expire mode _ hep hpending haccepted (fun _ _ ↦ keepsHold_dropped)
    fun _ _ ↦ keepsHold_kept, rfl⟩

/-! ## The loop over due holds -/

/-- The state of the hold loop while `rest` is still to come. -/
structure Sweeping (mode : MoveMode) (now : Timestamp) (s : Enrollment) (rest : List Purchase)
    (t : Enrollment) : Prop where
  moves : Moves mode now s t
  event : t.event = s.event
  group : t.group = s.group
  ticketTypes : t.ticketTypes = s.ticketTypes
  invitationRequests : t.invitationRequests = s.invitationRequests
  attendees : ∀ ea ∈ t.attendees, ea ∈ s.attendees
  kept : ∀ ep ∈ s.purchases, ¬ s.HoldIsDue now ep → ep ∈ t.purchases
  due : ∀ ep ∈ rest, s.HoldIsDue now ep ∧ ep ∈ s.purchases
  live : ∀ ep ∈ t.purchases, ep.status = .pending →
    ep.HasLiveHold now ∨ ∃ due ∈ rest, due.eventPurchaseId = ep.eventPurchaseId

theorem Sweeping.step (hwf : s.WellFormed) {ep : Purchase} {rest : List Purchase}
    {t t' : Enrollment} (h : Sweeping mode now s (ep :: rest) t)
    (ht : expireDueHold now t ep = .ok t') : Sweeping mode now s rest t' := by
  have hdue := h.due ep (by simp)
  unfold expireDueHold at ht
  split at ht
  · next hfind =>
    obtain rfl := Except.ok.inj ht
    refine { h with
      due := fun other hother ↦ h.due other (List.mem_cons_of_mem _ hother)
      live := fun other hother hpending ↦ ?_ }
    rcases h.live other hother hpending with hlive | ⟨due, hmem, hid⟩
    · exact .inl hlive
    · rcases List.mem_cons.1 hmem with rfl | hmem
      · have := List.find?_eq_none.1 hfind other hother
        simp [hid, hpending] at this
      · exact .inr ⟨due, hmem, hid⟩
  · next row hfind =>
    have hrow := List.mem_of_find?_eq_some hfind
    have hselected := List.find?_some hfind
    simp only [decide_eq_true_eq] at hselected
    obtain ⟨hmove, rfl⟩ := expireHold_move mode hrow hselected.2 ht
    refine ⟨h.moves.tail hmove, h.event, h.group, h.ticketTypes, h.invitationRequests, ?_, ?_, ?_,
      ?_⟩
    · exact fun ea hea ↦ h.attendees ea (List.mem_filter.1 hea).1
    · intro other hother hnot
      refine mem_replaceRow_of_ne (h.kept other hother hnot) fun hid ↦ hnot ?_
      have hsame : other = ep := eq_of_key_eq hwf.purchaseKeys hother hdue.2
        (hid.trans hselected.1)
      exact hsame ▸ hdue.1
    · exact fun other hother ↦ h.due other (List.mem_cons_of_mem _ hother)
    · intro other hother hpending
      rcases mem_replaceRow hother with rfl | ⟨hother, hne⟩
      · simp [Purchase.expire] at hpending
      · rcases h.live other hother hpending with hlive | ⟨due, hmem, hid⟩
        · exact .inl hlive
        · rcases List.mem_cons.1 hmem with rfl | hmem
          · exact absurd (hid.symm.trans hselected.1.symm) hne
          · exact .inr ⟨due, hmem, hid⟩

theorem expireDueHolds_spec (hwf : s.WellFormed) (h : expireDueHolds now s = .ok s') :
    Sweeping mode now s [] s' := by
  refine foldlM_suffix (P := Sweeping mode now s) (fun ep rest t t' ht ↦ ht.step mode hwf)
    ⟨.refl, rfl, rfl, rfl, rfl, fun _ h ↦ h, fun _ h _ ↦ h, ?_, ?_⟩ h
  · intro ep hep
    have := List.mem_filter.1 hep
    exact ⟨of_decide_eq_true this.2, this.1⟩
  · intro ep hep hpending
    by_cases hlive : ep.HasLiveHold now
    · exact .inl hlive
    · refine .inr ⟨ep, List.mem_filter.2 ⟨hep, decide_eq_true ⟨hpending, .inl ?_⟩⟩, rfl⟩
      obtain ⟨hold, hmem⟩ := Option.ne_none_iff_exists'.1 (hwf.pendingHold ep hep hpending)
      exact ⟨hold, hmem, not_lt.1 fun hlt ↦ hlive ⟨hpending, hold, hmem, hlt⟩⟩

/-! ## The loop over offers -/

/-- A state that differs in offers and queue entries only. -/
structure SameBooks (s t : Enrollment) : Prop where
  event : t.event = s.event
  group : t.group = s.group
  ticketTypes : t.ticketTypes = s.ticketTypes
  invitationRequests : t.invitationRequests = s.invitationRequests
  purchases : t.purchases = s.purchases
  attendees : t.attendees = s.attendees

theorem SameBooks.refl (s : Enrollment) : SameBooks s s := ⟨rfl, rfl, rfl, rfl, rfl, rfl⟩

theorem SameBooks.trans {t u : Enrollment} (h : SameBooks s t) (h' : SameBooks t u) :
    SameBooks s u :=
  ⟨h'.event.trans h.event, h'.group.trans h.group, h'.ticketTypes.trans h.ticketTypes,
    h'.invitationRequests.trans h.invitationRequests, h'.purchases.trans h.purchases,
    h'.attendees.trans h.attendees⟩

/-- The state of the offer loop while `rest` is still to come. -/
structure Settling (now : Timestamp) (s : Enrollment) (rest : List AdmissionOffer)
    (t : Enrollment) : Prop where
  moves : Moves mode now s t
  books : SameBooks s t
  keys : (rest.map AdmissionOffer.admissionOfferId).Nodup
  untouched : ∀ ao ∈ rest, ao ∈ t.admissionOffers
  unexpired : ∀ ao ∈ t.admissionOffers, ao.status.IsActive → now < ao.expiresAt ∨ ao ∈ rest

variable {mode} in
theorem Settling.next {ao : AdmissionOffer} {rest : List AdmissionOffer} {t t' : Enrollment}
    (h : Settling mode now s (ao :: rest) t) (hmoves : Moves mode now t t')
    (hbooks : SameBooks t t')
    (hothers : ∀ row ∈ t.admissionOffers, row.admissionOfferId ≠ ao.admissionOfferId →
      row ∈ t'.admissionOffers)
    (hrows : ∀ row ∈ t'.admissionOffers, row.status.IsActive →
      now < row.expiresAt ∨ (row ∈ t.admissionOffers
        ∧ row.admissionOfferId ≠ ao.admissionOfferId)) :
    Settling mode now s rest t' := by
  have hkeys := h.keys
  rw [List.map_cons, List.nodup_cons] at hkeys
  refine ⟨h.moves.trans hmoves, h.books.trans hbooks, hkeys.2, fun row hrow ↦ ?_,
    fun row hrow hactive ↦ ?_⟩
  · refine hothers row (h.untouched row (List.mem_cons_of_mem _ hrow)) fun hid ↦ hkeys.1 ?_
    rw [← hid]
    exact List.mem_map_of_mem hrow
  · rcases hrows row hrow hactive with hlive | ⟨hold, hne⟩
    · exact .inl hlive
    · rcases h.unexpired row hold hactive with hlive | hmem
      · exact .inl hlive
      · exact .inr ((List.mem_cons.1 hmem).resolve_left fun heq ↦ hne (heq ▸ rfl))

theorem settleOffer_spec {ao : AdmissionOffer} {rest : List AdmissionOffer} {t t' : Enrollment}
    (h : Settling mode now s (ao :: rest) t) (hwf : t.WellFormed)
    (hstep : settleOffer now t ao = .ok t') : Settling mode now s rest t' := by
  have hao := h.untouched ao (by simp)
  -- an iteration that leaves its row as it is found it unexpired
  have hkeep : now < ao.expiresAt → Settling mode now s rest t := fun hlive ↦ by
    refine h.next .refl (.refl t) (fun row hrow _ ↦ hrow) fun row hrow hactive ↦ ?_
    by_cases hid : row.admissionOfferId = ao.admissionOfferId
    · exact .inl (eq_of_key_eq hwf.offerKeys hrow hao hid ▸ hlive)
    · exact .inr ⟨hrow, hid⟩
  unfold settleOffer at hstep
  split at hstep
  · simp only [bind_eq_ok, Except.ok.injEq] at hstep
    obtain ⟨updated, hupdated, rfl⟩ := hstep
    rcases updateAdmissionOffer_eq_ok hupdated fun _ ↦ rfl with
      ⟨-, hnone⟩ | ⟨row, hrow, hid, -, hfollows, -, rfl⟩
    · exact absurd rfl (hnone ao hao rfl)
    · refine h.next (.single (.endOffer hrow (by simp) hfollows.status))
        ⟨rfl, rfl, rfl, rfl, rfl, rfl⟩
        (fun other hother hne ↦ mem_replaceRow_of_ne hother (hid ▸ hne)) fun other hother hactive ↦
          ?_
      rcases mem_replaceRow hother with rfl | ⟨hother, hne⟩
      · simp at hactive
      · exact .inr ⟨hother, hid ▸ hne⟩
  · next hlive =>
    have hlive := not_le.1 hlive
    split at hstep
    · simp only [bind_eq_ok, Except.ok.injEq] at hstep
      obtain ⟨updated, hupdated, rfl⟩ := hstep
      rcases updateAdmissionOffer_eq_ok hupdated fun _ ↦ rfl with
        ⟨rfl, -⟩ | ⟨row, hrow, hid, hfrom, -, haccepts, rfl⟩
      · exact hkeep hlive
      · refine h.next (.single (.returnOffer hrow hfrom haccepts)) ⟨rfl, rfl, rfl, rfl, rfl, rfl⟩
          (fun other hother hne ↦ mem_replaceRow_of_ne hother (hid ▸ hne)) fun other hother _ ↦ ?_
        rcases mem_replaceRow hother with rfl | ⟨hother, hne⟩
        · have hsame : row = ao := eq_of_key_eq hwf.offerKeys hrow hao hid
          exact .inl (hsame ▸ hlive)
        · exact .inr ⟨hother, hid ▸ hne⟩
    · obtain rfl := Except.ok.inj hstep
      exact hkeep hlive

theorem settleOffers_spec (hwf : s.WellFormed) (h : settleOffers now s = .ok s') :
    Settling mode now s [] s' := by
  refine foldlM_suffix (P := Settling mode now s)
    (fun ao rest t t' ht hstep ↦ settleOffer_spec mode ht (ht.moves.wellFormed hwf) hstep)
    ⟨.refl, .refl s, nodup_keys_filter hwf.offerKeys _, fun ao hao ↦ (List.mem_filter.1 hao).1,
      fun ao hao hactive ↦ .inr (List.mem_filter.2 ⟨hao, decide_eq_true hactive⟩)⟩ h

/-! ## The loop over tiers -/

theorem issueOffer_move {tier user : Uuid} {deadline : Timestamp} {source : OfferSource}
    {organizer : Option Uuid} (h : issueOffer now tier user deadline source organizer s = .ok s')
    (hroom : s.HasRoom now tier) (hnotCanceled : s.event.canceled = false) :
    EnrollmentMove mode now .plain s s'
      ∧ s' = { s with
        admissionOffers := s.admissionOffers
          ++ [newOffer s.nextUuid now tier user deadline source organizer]
        nextUuid := s.nextUuid + 1 } := by
  unfold issueOffer at h
  rw [insertAdmissionOffer_eq_ok] at h
  obtain ⟨⟨hadmits, hvalid, hrival⟩, rfl⟩ := h
  refine ⟨.issueOffer rfl rfl rfl ⟨fun hactive ↦ ?_, hvalid, hrival⟩ hroom hnotCanceled, rfl⟩
  obtain ⟨hattendee, hwaitlist, hrequest, hpurchase⟩ := hadmits hactive
  exact ⟨hattendee, hwaitlist, hrequest, hpurchase⟩

theorem Enrollment.HasRoom.of_allocated (hwf : s.WellFormed) {ett : TicketType}
    (hett : ett ∈ s.ticketTypes)
    (hfree : allocatedSeatCount now ett.eventTicketTypeId s < ett.seatsTotal) :
    s.HasRoom now ett.eventTicketTypeId :=
  ⟨ett, hett, rfl, (card_claimedSeats_le hwf).trans_lt hfree⟩

theorem promotable_eq_some {provider : Option String} {ett : TicketType} {head : WaitlistEntry}
    (h : promotable now provider ett s = some head) :
    allocatedSeatCount now ett.eventTicketTypeId s < ett.seatsTotal
      ∧ queueHead ett.eventTicketTypeId s = some head ∧ now < promotionDeadline now s.event := by
  unfold promotable at h
  split at h
  · simp at h
  · next hfree =>
    refine ⟨not_le.1 hfree, ?_⟩
    split at h
    · next first price hhead _ =>
      split at h
      · simp at h
      · split at h
        · simp at h
        · next hdeadline => exact ⟨hhead.trans h, not_le.1 hdeadline⟩
    · simp at h

/-- What filling tiers does: a run of moves that issues unexpired offers. -/
structure Filling (now : Timestamp) (s t : Enrollment) : Prop where
  moves : Moves mode now s t
  books : SameBooks s t
  unexpired : ∀ ao ∈ t.admissionOffers, ao.status.IsActive →
    now < ao.expiresAt ∨ ao ∈ s.admissionOffers

variable {mode} in
theorem Filling.trans {t u : Enrollment} (h : Filling mode now s t)
    (h' : Filling mode now t u) : Filling mode now s u := by
  refine ⟨h.moves.trans h'.moves, h.books.trans h'.books, fun ao hao hactive ↦ ?_⟩
  rcases h'.unexpired ao hao hactive with hlive | hold
  · exact .inl hlive
  · exact h.unexpired ao hold hactive

theorem Filling.refl (s : Enrollment) : Filling mode now s s :=
  ⟨.refl, .refl s, fun _ hao _ ↦ .inr hao⟩

theorem promote_spec (hwf : s.WellFormed) {ett : TicketType} (hett : ett ∈ s.ticketTypes)
    (hfree : allocatedSeatCount now ett.eventTicketTypeId s < ett.seatsTotal)
    (hdeadline : now < promotionDeadline now s.event) (hnotCanceled : s.event.canceled = false)
    {head : WaitlistEntry} (h : promote now ett head s = .ok s') : Filling mode now s s' := by
  unfold promote at h
  have hroom := Enrollment.HasRoom.of_allocated hwf hett hfree
  obtain ⟨hmove, rfl⟩ := issueOffer_move mode h hroom hnotCanceled
  refine ⟨(Relation.ReflTransGen.single (.leaveQueue _)).tail hmove, ⟨rfl, rfl, rfl, rfl, rfl, rfl⟩,
    fun ao hao _ ↦ ?_⟩
  rcases List.mem_append.1 hao with hao | hao
  · exact .inr hao
  · rw [List.mem_singleton.1 hao]
    exact .inl hdeadline

theorem fillTier_spec {provider : Option String} {ett : TicketType} (fuel : ℕ)
    {promoted promoted' : List Uuid} (hwf : s.WellFormed) (hett : ett ∈ s.ticketTypes)
    (hnotCanceled : s.event.canceled = false)
    (h : fillTier now provider ett fuel (promoted, s) = .ok (promoted', s')) :
    Filling mode now s s' := by
  induction fuel generalizing promoted s with
  | zero =>
    simp only [fillTier, Except.ok.injEq, Prod.mk.injEq] at h
    obtain ⟨-, rfl⟩ := h
    exact .refl mode s
  | succ fuel ih =>
    rw [fillTier] at h
    split at h
    · simp only [Except.ok.injEq, Prod.mk.injEq] at h
      obtain ⟨-, rfl⟩ := h
      exact .refl mode s
    · next head hhead =>
      simp only [bind_eq_ok] at h
      obtain ⟨t, ht, hrest⟩ := h
      obtain ⟨hfree, -, hdeadline⟩ := promotable_eq_some hhead
      have hstep := promote_spec mode hwf hett hfree hdeadline hnotCanceled ht
      exact hstep.trans (ih (Moves.wellFormed hstep.moves hwf) (hstep.books.ticketTypes ▸ hett)
        (hstep.books.event ▸ hnotCanceled) hrest)

theorem fillTiers_spec {tier : Option Uuid} {provider : Option String} {promoted : List Uuid}
    (hwf : s.WellFormed) (hnotCanceled : s.event.canceled = false)
    (h : fillTiers now tier provider s = .ok (promoted, s')) : Filling mode now s s' := by
  refine foldlM_invariant (P := fun st : List Uuid × Enrollment ↦ Filling mode now s st.2) ?_ ?_ h
  · rintro st ett st' hett hst hstep
    exact hst.trans (fillTier_spec mode st.2.waitlist.length (Moves.wellFormed hst.moves hwf)
      (hst.books.ticketTypes ▸ (List.mem_filter.1 hett).1) (hst.books.event ▸ hnotCanceled) hstep)
  · exact .refl mode s

/-! ## The whole -/

/-- **Reconciliation is a run of moves** that leaves alone what it does not sweep. -/
theorem reconcileEventEnrollment_spec {tier : Option Uuid} {provider : Option String}
    {promoted : List Uuid} (hwf : s.WellFormed)
    (h : reconcileEventEnrollment now tier provider s = .ok (promoted, s')) :
    Moves mode now s s' ∧ s.Reconciled now s' := by
  unfold reconcileEventEnrollment at h
  simp only [bind_eq_ok, require_eq_ok] at h
  obtain ⟨-, -, swept, hswept, settled, hsettled, hfill⟩ := h
  have hsweep : Sweeping mode now s [] swept := expireDueHolds_spec mode hwf hswept
  have hsettle : Settling mode now swept [] settled :=
    settleOffers_spec mode (Moves.wellFormed hsweep.moves hwf) hsettled
  have hreach : Moves mode now s settled := hsweep.moves.trans hsettle.moves
  have hfilled : Filling mode now settled s' := by
    split at hfill
    · next haccepts =>
      exact fillTiers_spec mode (Moves.wellFormed hreach hwf) haccepts.1.2.1 hfill
    · simp only [Except.ok.injEq, Prod.mk.injEq] at hfill
      obtain ⟨-, rfl⟩ := hfill
      exact .refl mode settled
  have hbooks := hsettle.books.trans hfilled.books
  exact ⟨hreach.trans hfilled.moves,
    { event := hbooks.event.trans hsweep.event
      group := hbooks.group.trans hsweep.group
      ticketTypes := hbooks.ticketTypes.trans hsweep.ticketTypes
      invitationRequests := hbooks.invitationRequests.trans hsweep.invitationRequests
      attendees := fun ea hea ↦ hsweep.attendees ea (hbooks.attendees ▸ hea)
      kept := fun ep hep hnot ↦ hbooks.purchases ▸ hsweep.kept ep hep hnot
      live := fun ep hep hpending ↦
        (hsweep.live ep (hbooks.purchases ▸ hep) hpending).resolve_right (by simp)
      unexpired := fun ao hao hactive ↦ (hfilled.unexpired ao hao hactive).elim id fun hold ↦
        (hsettle.unexpired ao hold hactive).resolve_right (by simp) }⟩

end

end Ocg
