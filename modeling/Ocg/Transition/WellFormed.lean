import Ocg.Transition.Move

/-!
# Well-formed enrollment

What the keys, constraints and unique indexes guarantee of a stored state: identifiers are unique
and already issued, every row satisfies the checks it was written through, a linked purchase belongs
to the user and the tier of its offer, and a pending purchase has a hold. Every move preserves it.

The lemmas of the first sections are about one table each; a move that writes several tables
preserves the whole by combining them.
-/

namespace Ocg

open Relational

/-! ## Rivals and accepted purchases -/

theorem Purchase.Rivals.symm {ep other : Purchase} (h : ep.Rivals other) : other.Rivals ep := by
  obtain ⟨h1, h2, h3⟩ := h
  refine ⟨h2, h1, ?_⟩
  rcases h3 with hu | ⟨hne, ho⟩
  · exact .inl hu.symm
  · exact .inr ⟨ho ▸ hne, ho.symm⟩

theorem Purchase.SharesProviderObject.symm {ep other : Purchase}
    (h : ep.SharesProviderObject other) : other.SharesProviderObject ep := by
  obtain ⟨hp, hp', ha, ha', hx⟩ := h
  refine ⟨hp' ▸ hp, hp'.symm, ha' ▸ ha, ha'.symm, ?_⟩
  rcases hx with ⟨hn, hx⟩ | ⟨hn, hx⟩ | ⟨hn, hx⟩
  · exact .inl ⟨hx ▸ hn, hx.symm⟩
  · exact .inr (.inl ⟨hx ▸ hn, hx.symm⟩)
  · exact .inr (.inr ⟨hx ▸ hn, hx.symm⟩)

theorem Enrollment.AcceptsPurchase.congr {s s' : Enrollment} {new : Purchase}
    (h : s.AcceptsPurchase new) (hpurchases : s'.purchases = s.purchases) :
    s'.AcceptsPurchase new :=
  ⟨h.valid, hpurchases ▸ h.noRival, hpurchases ▸ h.distinct⟩

/-! ## The invariant -/

structure Enrollment.WellFormed (s : Enrollment) : Prop where
  offerKeys : (s.admissionOffers.map AdmissionOffer.admissionOfferId).Nodup
  purchaseKeys : (s.purchases.map Purchase.eventPurchaseId).Nodup
  attendeeKeys : (s.attendees.map Attendee.userId).Nodup
  waitlistKeys : (s.waitlist.map WaitlistEntry.userId).Nodup
  offerIssued : ∀ ao ∈ s.admissionOffers, ao.admissionOfferId < s.nextUuid
  purchaseIssued : ∀ ep ∈ s.purchases, ep.eventPurchaseId < s.nextUuid
  disjoint : ∀ ao ∈ s.admissionOffers, ∀ ep ∈ s.purchases,
    ao.admissionOfferId ≠ ep.eventPurchaseId
  offerValid : ∀ ao ∈ s.admissionOffers, ao.Valid
  offerNoRival : ∀ ao ∈ s.admissionOffers, s.HasNoRivalOffer ao
  purchaseAccepted : ∀ ep ∈ s.purchases, s.AcceptsPurchase ep
  linked : ∀ ep ∈ s.purchases, ∀ id ∈ ep.admissionOfferId, ∃ ao ∈ s.admissionOffers,
    ao.admissionOfferId = id ∧ ao.userId = ep.userId ∧ ao.eventTicketTypeId = ep.eventTicketTypeId
  pendingHold : ∀ ep ∈ s.purchases, ep.status = .pending → ep.holdExpiresAt ≠ none
  sessionPaid : ∀ ep ∈ s.purchases, ep.providerCheckoutSessionId ≠ none → 0 < ep.amountMinor
  totalPositive : ∀ ep ∈ s.purchases, ∀ fa ∈ ep.financialAmounts, 0 < fa.providerTotalMinor
  attendeeStatus : ∀ ea ∈ s.attendees, ea.status ∈ [AttendeeStatus.attendanceCanceled, .confirmed,
    .registrationQuestionsPending]

namespace Enrollment.WellFormed

variable {s : Enrollment}

theorem activePurchase_unique (h : s.WellFormed) {ep ep' : Purchase} (hep : ep ∈ s.purchases)
    (hep' : ep' ∈ s.purchases) (hactive : ep.status.IsActive) (hactive' : ep'.status.IsActive)
    (huser : ep.userId = ep'.userId) : ep = ep' := by
  -- two rows of a user that are both active are one row
  by_contra hne
  have hid : ep'.eventPurchaseId ≠ ep.eventPurchaseId :=
    fun hid ↦ hne (eq_of_key_eq h.purchaseKeys hep hep' hid.symm)
  exact (h.purchaseAccepted ep hep).noRival ep' hep' hid ⟨hactive, hactive', .inl huser⟩

theorem activePurchase_unique_of_offer (h : s.WellFormed) {ep ep' : Purchase}
    (hep : ep ∈ s.purchases) (hep' : ep' ∈ s.purchases) (hactive : ep.status.IsActive)
    (hactive' : ep'.status.IsActive) (hlinked : ep.admissionOfferId ≠ none)
    (hoffer : ep.admissionOfferId = ep'.admissionOfferId) : ep = ep' := by
  -- two active purchases of one offer are one row
  by_contra hne
  have hid : ep'.eventPurchaseId ≠ ep.eventPurchaseId :=
    fun hid ↦ hne (eq_of_key_eq h.purchaseKeys hep hep' hid.symm)
  exact (h.purchaseAccepted ep hep).noRival ep' hep' hid
    ⟨hactive, hactive', .inr ⟨hlinked, hoffer⟩⟩

/-! ## One table at a time -/

theorem frame (h : s.WellFormed) {event : Event} {codes : List DiscountCode}
    {requests : List InvitationRequest} {n : Uuid} (hn : s.nextUuid ≤ n) :
    ({ s with
      event := event
      discountCodes := codes
      invitationRequests := requests
      nextUuid := n } : Enrollment).WellFormed :=
  { h with
    offerIssued := fun ao hao ↦ (h.offerIssued ao hao).trans_le hn
    purchaseIssued := fun ep hep ↦ (h.purchaseIssued ep hep).trans_le hn
    purchaseAccepted := fun ep hep ↦ (h.purchaseAccepted ep hep).congr rfl
    offerNoRival := h.offerNoRival }

theorem setAttendees (h : s.WellFormed) {attendees : List Attendee}
    (hkeys : (attendees.map Attendee.userId).Nodup)
    (hstatus : ∀ ea ∈ attendees, ea.status ∈ [AttendeeStatus.attendanceCanceled, .confirmed,
      .registrationQuestionsPending]) :
    ({ s with attendees := attendees } : Enrollment).WellFormed :=
  { h with
    attendeeKeys := hkeys
    attendeeStatus := hstatus
    purchaseAccepted := fun ep hep ↦ (h.purchaseAccepted ep hep).congr rfl
    offerNoRival := h.offerNoRival }

theorem setWaitlist (h : s.WellFormed) {waitlist : List WaitlistEntry}
    (hkeys : (waitlist.map WaitlistEntry.userId).Nodup) :
    ({ s with waitlist := waitlist } : Enrollment).WellFormed :=
  { h with
    waitlistKeys := hkeys
    purchaseAccepted := fun ep hep ↦ (h.purchaseAccepted ep hep).congr rfl
    offerNoRival := h.offerNoRival }

theorem filterAttendees (h : s.WellFormed) (keep : Attendee → Bool) :
    ({ s with attendees := s.attendees.filter keep } : Enrollment).WellFormed :=
  h.setAttendees (nodup_keys_filter h.attendeeKeys keep)
    fun ea hea ↦ h.attendeeStatus ea (List.mem_filter.1 hea).1

theorem replaceAttendee (h : s.WellFormed) {ea : Attendee}
    (hstatus : ea.status ∈ [AttendeeStatus.attendanceCanceled, .confirmed,
      .registrationQuestionsPending]) :
    ({ s with attendees := replaceRow Attendee.userId ea s.attendees } :
      Enrollment).WellFormed := by
  refine h.setAttendees (by rw [map_key_replaceRow]; exact h.attendeeKeys) fun row hrow ↦ ?_
  rcases mem_replaceRow hrow with rfl | ⟨hrow, -⟩
  · exact hstatus
  · exact h.attendeeStatus row hrow

theorem addAttendee (h : s.WellFormed) {ea : Attendee}
    (hnew : ∀ row ∈ s.attendees, row.userId ≠ ea.userId)
    (hstatus : ea.status ∈ [AttendeeStatus.attendanceCanceled, .confirmed,
      .registrationQuestionsPending]) :
    ({ s with attendees := s.attendees ++ [ea] } : Enrollment).WellFormed := by
  refine h.setAttendees (nodup_keys_append h.attendeeKeys hnew) fun row hrow ↦ ?_
  rcases List.mem_append.1 hrow with hrow | hrow
  · exact h.attendeeStatus row hrow
  · rw [List.mem_singleton.1 hrow]
    exact hstatus

theorem replacePurchase (h : s.WellFormed) {ep new : Purchase} (hep : ep ∈ s.purchases)
    (hcontinues : new.Continues ep) (haccepted : s.AcceptsPurchase new)
    (hpending : new.status = .pending → new.holdExpiresAt ≠ none) :
    ({ s with
      purchases := replaceRow Purchase.eventPurchaseId new s.purchases } :
        Enrollment).WellFormed := by
  have hrow {row : Purchase}
      (hrow : row ∈ replaceRow Purchase.eventPurchaseId new s.purchases) :
      row = new ∨ (row ∈ s.purchases ∧ row.eventPurchaseId ≠ new.eventPurchaseId) :=
    mem_replaceRow hrow
  refine { h with
    purchaseKeys := by rw [map_key_replaceRow]; exact h.purchaseKeys
    purchaseIssued := ?_
    disjoint := ?_
    purchaseAccepted := ?_
    linked := ?_
    pendingHold := ?_
    sessionPaid := ?_
    totalPositive := ?_
    offerNoRival := h.offerNoRival }
  · intro row hmem
    rcases hrow hmem with rfl | ⟨hmem, -⟩
    · rw [hcontinues.id]
      exact h.purchaseIssued ep hep
    · exact h.purchaseIssued row hmem
  · intro ao hao row hmem
    rcases hrow hmem with rfl | ⟨hmem, -⟩
    · rw [hcontinues.id]
      exact h.disjoint ao hao ep hep
    · exact h.disjoint ao hao row hmem
  · intro row hmem
    rcases hrow hmem with rfl | ⟨hkept, hne⟩
    · refine ⟨haccepted.valid, fun other hother hid ↦ ?_, fun other hother hid ↦ ?_⟩
      · rcases hrow hother with rfl | ⟨hother, -⟩
        · exact absurd rfl hid
        · exact haccepted.noRival other hother hid
      · rcases hrow hother with rfl | ⟨hother, -⟩
        · exact absurd rfl hid
        · exact haccepted.distinct other hother hid
    · have hold := h.purchaseAccepted row hkept
      refine ⟨hold.valid, fun other hother hid ↦ ?_, fun other hother hid ↦ ?_⟩
      · rcases hrow hother with rfl | ⟨hother, -⟩
        · exact fun hrival ↦ haccepted.noRival row hkept hne hrival.symm
        · exact hold.noRival other hother hid
      · rcases hrow hother with rfl | ⟨hother, -⟩
        · exact fun hshares ↦ haccepted.distinct row hkept hne hshares.symm
        · exact hold.distinct other hother hid
  · intro row hmem id hid
    rcases hrow hmem with rfl | ⟨hmem, -⟩
    · rw [hcontinues.offer] at hid
      rw [hcontinues.user, hcontinues.tier]
      exact h.linked ep hep id hid
    · exact h.linked row hmem id hid
  · intro row hmem
    rcases hrow hmem with rfl | ⟨hmem, -⟩
    · exact hpending
    · exact h.pendingHold row hmem
  · intro row hmem hsession
    rcases hrow hmem with rfl | ⟨hmem, -⟩
    · rw [hcontinues.amount]
      rcases hcontinues.session with hsame | hpaid
      · exact h.sessionPaid ep hep (hsame ▸ hsession)
      · exact hpaid
    · exact h.sessionPaid row hmem hsession
  · intro row hmem fa hfa
    rcases hrow hmem with rfl | ⟨hmem, -⟩
    · rcases hcontinues.financial with hsame | ⟨-, hpositive⟩
      · exact h.totalPositive ep hep fa (hsame ▸ hfa)
      · exact hpositive fa hfa
    · exact h.totalPositive row hmem fa hfa

theorem addPurchase (h : s.WellFormed) {ep : Purchase} (hid : ep.eventPurchaseId = s.nextUuid)
    (haccepted : s.AcceptsPurchase ep)
    (hlinked : ∀ id ∈ ep.admissionOfferId, ∃ ao ∈ s.admissionOffers, ao.admissionOfferId = id
      ∧ ao.userId = ep.userId ∧ ao.eventTicketTypeId = ep.eventTicketTypeId)
    (hpending : ep.status = .pending → ep.holdExpiresAt ≠ none)
    (hsession : ep.providerCheckoutSessionId = none) (hfinancial : ep.financialAmounts = none) :
    ({ s with
      purchases := s.purchases ++ [ep], nextUuid := s.nextUuid + 1 } : Enrollment).WellFormed := by
  have hfresh : ∀ row ∈ s.purchases, row.eventPurchaseId ≠ ep.eventPurchaseId :=
    fun row hrow ↦ by rw [hid]; exact (h.purchaseIssued row hrow).ne
  have hcases {row : Purchase} (hrow : row ∈ s.purchases ++ [ep]) :
      row ∈ s.purchases ∨ row = ep := by
    simpa using hrow
  refine { h with
    purchaseKeys := nodup_keys_append h.purchaseKeys hfresh
    offerIssued := fun ao hao ↦ (h.offerIssued ao hao).trans (Nat.lt_succ_self _)
    purchaseIssued := ?_
    disjoint := ?_
    purchaseAccepted := ?_
    linked := ?_
    pendingHold := ?_
    sessionPaid := ?_
    totalPositive := ?_
    offerNoRival := h.offerNoRival }
  · intro row hrow
    rcases hcases hrow with hrow | rfl
    · exact (h.purchaseIssued row hrow).trans (Nat.lt_succ_self _)
    · rw [hid]
      exact Nat.lt_succ_self _
  · intro ao hao row hrow
    rcases hcases hrow with hrow | rfl
    · exact h.disjoint ao hao row hrow
    · rw [hid]
      exact (h.offerIssued ao hao).ne
  · intro row hrow
    rcases hcases hrow with hkept | rfl
    · have hold := h.purchaseAccepted row hkept
      refine ⟨hold.valid, fun other hother hne ↦ ?_, fun other hother hne ↦ ?_⟩
      · rcases hcases hother with hother | rfl
        · exact hold.noRival other hother hne
        · exact fun hrival ↦ haccepted.noRival row hkept (hfresh row hkept) hrival.symm
      · rcases hcases hother with hother | rfl
        · exact hold.distinct other hother hne
        · exact fun hshares ↦ haccepted.distinct row hkept (hfresh row hkept) hshares.symm
    · refine ⟨haccepted.valid, fun other hother hne ↦ ?_, fun other hother hne ↦ ?_⟩
      · rcases hcases hother with hother | rfl
        · exact haccepted.noRival other hother hne
        · exact absurd rfl hne
      · rcases hcases hother with hother | rfl
        · exact haccepted.distinct other hother hne
        · exact absurd rfl hne
  · intro row hrow id hrowid
    rcases hcases hrow with hrow | rfl
    · exact h.linked row hrow id hrowid
    · exact hlinked id hrowid
  · intro row hrow
    rcases hcases hrow with hrow | rfl
    · exact h.pendingHold row hrow
    · exact hpending
  · intro row hrow hne
    rcases hcases hrow with hrow | rfl
    · exact h.sessionPaid row hrow hne
    · exact absurd hsession hne
  · intro row hrow fa hfa
    rcases hcases hrow with hrow | rfl
    · exact h.totalPositive row hrow fa hfa
    · simp [hfinancial] at hfa

theorem replaceOffer (h : s.WellFormed) {ao new : AdmissionOffer} (hao : ao ∈ s.admissionOffers)
    (hid : new.admissionOfferId = ao.admissionOfferId) (huser : new.userId = ao.userId)
    (htier : new.eventTicketTypeId = ao.eventTicketTypeId) (hvalid : new.Valid)
    (hrival : s.HasNoRivalOffer new) :
    ({ s with
      admissionOffers := replaceRow AdmissionOffer.admissionOfferId new s.admissionOffers } :
        Enrollment).WellFormed := by
  have hcases {row : AdmissionOffer}
      (hrow : row ∈ replaceRow AdmissionOffer.admissionOfferId new s.admissionOffers) :
      row = new ∨ (row ∈ s.admissionOffers ∧ row.admissionOfferId ≠ new.admissionOfferId) :=
    mem_replaceRow hrow
  refine { h with
    offerKeys := by rw [map_key_replaceRow]; exact h.offerKeys
    offerIssued := ?_
    disjoint := ?_
    offerValid := ?_
    offerNoRival := ?_
    linked := ?_
    purchaseAccepted := fun ep hep ↦ (h.purchaseAccepted ep hep).congr rfl }
  · intro row hrow
    rcases hcases hrow with rfl | ⟨hrow, -⟩
    · rw [hid]
      exact h.offerIssued ao hao
    · exact h.offerIssued row hrow
  · intro row hrow ep hep
    rcases hcases hrow with rfl | ⟨hrow, -⟩
    · rw [hid]
      exact h.disjoint ao hao ep hep
    · exact h.disjoint row hrow ep hep
  · intro row hrow
    rcases hcases hrow with rfl | ⟨hrow, -⟩
    · exact hvalid
    · exact h.offerValid row hrow
  · intro row hrow hactive other hother hu hactive'
    rcases hcases hrow with rfl | ⟨hkept, hne⟩ <;> rcases hcases hother with rfl | ⟨hother, -⟩
    · rfl
    · exact hrival hactive other hother hu hactive'
    · exact (hrival hactive' row hkept hu.symm hactive).symm
    · exact h.offerNoRival row hkept hactive other hother hu hactive'
  · intro ep hep id hepid
    obtain ⟨row, hrow, hrowid, hrowuser, hrowtier⟩ := h.linked ep hep id hepid
    by_cases hkey : row.admissionOfferId = new.admissionOfferId
    · have hrow_eq : row = ao := eq_of_key_eq h.offerKeys hrow hao (hkey.trans hid)
      refine ⟨new, new_mem_replaceRow hao hid.symm, ?_, ?_, ?_⟩
      · exact hkey ▸ hrowid
      · rw [huser, ← hrow_eq]
        exact hrowuser
      · rw [htier, ← hrow_eq]
        exact hrowtier
    · exact ⟨row, mem_replaceRow_of_ne hrow hkey, hrowid, hrowuser, hrowtier⟩

theorem addOffer (h : s.WellFormed) {ao : AdmissionOffer} (hid : ao.admissionOfferId = s.nextUuid)
    (hvalid : ao.Valid) (hrival : s.HasNoRivalOffer ao) :
    ({ s with
      admissionOffers := s.admissionOffers ++ [ao]
      nextUuid := s.nextUuid + 1 } : Enrollment).WellFormed := by
  have hfresh : ∀ row ∈ s.admissionOffers, row.admissionOfferId ≠ ao.admissionOfferId :=
    fun row hrow ↦ by rw [hid]; exact (h.offerIssued row hrow).ne
  have hcases {row : AdmissionOffer} (hrow : row ∈ s.admissionOffers ++ [ao]) :
      row ∈ s.admissionOffers ∨ row = ao := by
    simpa using hrow
  refine { h with
    offerKeys := nodup_keys_append h.offerKeys hfresh
    purchaseIssued := fun ep hep ↦ (h.purchaseIssued ep hep).trans (Nat.lt_succ_self _)
    offerIssued := ?_
    disjoint := ?_
    offerValid := ?_
    offerNoRival := ?_
    linked := ?_
    purchaseAccepted := fun ep hep ↦ (h.purchaseAccepted ep hep).congr rfl }
  · intro row hrow
    rcases hcases hrow with hrow | rfl
    · exact (h.offerIssued row hrow).trans (Nat.lt_succ_self _)
    · rw [hid]
      exact Nat.lt_succ_self _
  · intro row hrow ep hep
    rcases hcases hrow with hrow | rfl
    · exact h.disjoint row hrow ep hep
    · rw [hid]
      exact (h.purchaseIssued ep hep).ne'
  · intro row hrow
    rcases hcases hrow with hrow | rfl
    · exact h.offerValid row hrow
    · exact hvalid
  · intro row hrow hactive other hother hu hactive'
    rcases hcases hrow with hkept | rfl <;> rcases hcases hother with hother | rfl
    · exact h.offerNoRival row hkept hactive other hother hu hactive'
    · exact (hrival hactive' row hkept hu.symm hactive).symm
    · exact hrival hactive other hother hu hactive'
    · rfl
  · intro ep hep id hepid
    obtain ⟨row, hrow, hrest⟩ := h.linked ep hep id hepid
    exact ⟨row, List.mem_append_left _ hrow, hrest⟩

theorem releaseIf (h : s.WellFormed) (released : Bool) (code : Option Uuid) :
    (releaseIf released code s).WellFormed := by
  unfold Ocg.releaseIf
  split
  · exact h.frame le_rfl
  · exact h

end Enrollment.WellFormed

/-! ## Preservation -/

/-- Ending an offer keeps it valid: only claimed and completed offers need a snapshot. -/
theorem AdmissionOffer.Valid.setStatus {ao : AdmissionOffer} (h : ao.Valid) {status : OfferStatus}
    (hstatus : status ∉ [OfferStatus.checkoutPending, .completed]) :
    ({ ao with status := status } : AdmissionOffer).Valid :=
  ⟨h.1, h.2.1, fun hmem ↦ absurd hmem hstatus⟩

/-- **Every move keeps enrollment well formed.** -/
theorem EnrollmentMove.wellFormed {mode : MoveMode} {now : Timestamp} {effect : Effect}
    {s s' : Enrollment} (hmove : EnrollmentMove mode now effect s s') (h : s.WellFormed) :
    s'.WellFormed := by
  cases hmove with
  | issueUuid hn => exact h.frame hn
  | setPublished published => exact h.frame le_rfl
  | setCanceled _ _ => exact h.frame le_rfl
  | movePurchase hep hcontinues haccepted hstep =>
    refine (h.replacePurchase hep hcontinues haccepted ?_).releaseIf _ _
    cases hstep with
    | record hstatus hhold =>
      rw [hstatus, hhold]
      exact h.pendingHold _ hep
    | refundFree _ _ hto | requestRefund _ hto | rejectRefund _ hto | handOver _ hto
    | settle _ _ hto | reopen _ hto _ => simp [hto]
  | endCheckout keep hep hcontinues haccepted hend _ _ =>
    refine ((h.replacePurchase hep hcontinues haccepted ?_).filterAttendees keep).releaseIf _ _
    cases hend with
    | expire _ hto | reserve _ hto => simp [hto]
  | openDirect hopens hdirect hoffers hroom hcap hreserve =>
    rw [(reserveEventDiscountCodeAvailability_eq_ok.1 hreserve).2]
    refine (h.addPurchase hopens.id hopens.accepted ?_ (fun _ ↦ hopens.hold) hopens.session
      hopens.financial).frame le_rfl
    simp [hdirect]
  | openByOffer hopens hao hreserving hfollows hclaimed haccepts hlinked huser htier hsnap hcap
      hreserve =>
    rw [(reserveEventDiscountCodeAvailability_eq_ok.1 hreserve).2]
    have hoffer := h.replaceOffer hao hfollows.id hfollows.owned.2.2.2.2.2 hfollows.owned.2.1
      haccepts.valid haccepts.noRival
    refine (hoffer.addPurchase hopens.id (hopens.accepted.congr rfl) ?_ (fun _ ↦ hopens.hold)
      hopens.session hopens.financial).frame le_rfl
    intro id hid
    rw [hlinked] at hid
    refine ⟨_, new_mem_replaceRow hao hfollows.id.symm, ?_, ?_, ?_⟩
    · rw [hfollows.id]
      exact Option.some.inj hid
    · rw [hfollows.owned.2.2.2.2.2, huser]
    · rw [hfollows.owned.2.1, htier]
  | @complete _ ep new offers' attendees' hep hcontinues haccepted hlive hstatus _ hoffers
      hattendees _ _ =>
    have hoffer : ({ s with admissionOffers := offers' } : Enrollment).WellFormed := by
      rcases hoffers with ⟨-, rfl⟩ | ⟨ao, hao, -, hclaimed, rfl⟩
      · exact h
      · refine h.replaceOffer hao rfl rfl rfl ?_ ?_
        · have hvalid := h.offerValid ao hao
          exact ⟨hvalid.1, hvalid.2.1, fun _ ↦ hvalid.2.2 (by simp [hclaimed])⟩
        · exact fun hactive ↦ absurd hactive (by simp)
    have hattendee : ({ s with
        admissionOffers := offers', attendees := attendees' } : Enrollment).WellFormed := by
      obtain ⟨ea, hu, hc, ⟨rfl, hnew⟩ | ⟨rfl, -⟩⟩ := hattendees
      · exact hoffer.addAttendee (fun row hrow ↦ by rw [hu]; exact hnew row hrow) (by simp [hc])
      · exact hoffer.replaceAttendee (by simp [hc])
    exact hattendee.replacePurchase hep hcontinues (haccepted.congr rfl) (by simp [hstatus])
  | endOffer hao hstatus _ =>
    refine h.replaceOffer hao rfl rfl rfl ((h.offerValid _ hao).setStatus ?_) ?_
    · rintro hmem
      simp only [List.mem_cons, List.not_mem_nil, or_false] at hstatus hmem
      rcases hmem with rfl | rfl <;> simp at hstatus
    · intro hactive
      simp only [List.mem_cons, List.not_mem_nil, or_false] at hstatus
      rcases hstatus with rfl | rfl | rfl <;> simp at hactive
  | returnOffer hao hfrom haccepts =>
    exact h.replaceOffer hao rfl rfl rfl haccepts.valid haccepts.noRival
  | issueOffer hid hstatus hsnapshot haccepts hroom _ =>
    exact h.addOffer hid haccepts.valid haccepts.noRival
  | leaveQueue keep => exact h.setWaitlist (nodup_keys_filter h.waitlistKeys keep)
  | joinQueue _ _ hwaitlist _ _ _ =>
    exact h.setWaitlist (nodup_keys_append h.waitlistKeys hwaitlist)
  | addRequest _ _ _ => exact h.frame le_rfl
  | dropRequests keep => exact h.frame le_rfl
  | reviewRequests _ => exact h.frame le_rfl
  | holdAnswers hstatus _ hnew _ _ => exact h.addAttendee hnew (by simp [hstatus])
  | reviveAnswers _ _ _ _ hstatus _ _ _ => exact h.replaceAttendee (by simp [hstatus])
  | editAnswers hold _ _ hstatus =>
    refine h.replaceAttendee ?_
    rw [hstatus]
    exact h.attendeeStatus _ hold
  | cancelAttendance _ _ => exact h.replaceAttendee (by simp)
  | dropAttendees keep _ => exact h.filterAttendees keep

end Ocg
