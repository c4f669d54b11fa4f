import Ocg.Transition.WellFormed

/-!
# Exclusive enrollment

A user of an event is in at most one place: the queue, an active offer, or confirmed attendance; and
an entitled purchase stands behind a confirmed attendee. Every move preserves this.

Reconciliation needs more than that. It must be able to turn any queue head into an offer and to
return any abandoned claim, which the offer trigger refuses while the user owns a conflicting
purchase or an active attendee row. `Enrollment.Quiet` says that no such user waits; only the strict
moves preserve it.

As in the module before, the table lemmas come first and a move combines them.
-/

namespace Ocg

open Relational

/-! ## The invariants -/

structure Enrollment.Exclusive (s : Enrollment) : Prop where
  queuedAttendee : ∀ ew ∈ s.waitlist, ∀ ea ∈ s.attendees, ea.userId ≠ ew.userId
  queuedOffer : ∀ ew ∈ s.waitlist, ∀ ao ∈ s.admissionOffers, ao.userId = ew.userId →
    ¬ ao.status.IsActive
  confirmedOffer : ∀ ea ∈ s.attendees, ea.status = .confirmed → ∀ ao ∈ s.admissionOffers,
    ao.userId = ea.userId → ¬ ao.status.IsActive
  requestedOffer : ∀ eir ∈ s.invitationRequests, eir.status = .pending →
    ∀ ao ∈ s.admissionOffers, ao.userId = eir.userId → ¬ ao.status.IsActive
  entitledConfirmed : ∀ ep ∈ s.purchases, ep.status.IsEntitled → ∃ ea ∈ s.attendees,
    ea.userId = ep.userId ∧ ea.status = .confirmed
  heldAnswers : ∀ ea ∈ s.attendees, ea.status = .registrationQuestionsPending →
    ea.manuallyInvited = false → ∃ ep ∈ s.purchases, ep.userId = ea.userId ∧ ep.status = .pending
  queueMode : s.waitlist ≠ [] → s.event.attendeeApprovalRequired = false
  requestMode : s.invitationRequests ≠ [] → s.event.attendeeApprovalRequired = true

/-- No user that waits for an offer or holds one owns anything that the offer trigger refuses. -/
structure Enrollment.Quiet (s : Enrollment) : Prop where
  queuedPurchase : ∀ ew ∈ s.waitlist, ∀ ep ∈ s.purchases, ep.userId = ew.userId →
    ¬ ep.status.IsConflicting
  excludedPurchase : ∀ ao ∈ s.admissionOffers, ∀ ep ∈ s.purchases, ep.userId = ao.userId →
    ep.status.IsConflicting → ao.Excludes ep → ep.admissionOfferId = some ao.admissionOfferId
  claimedAnswers : ∀ ao ∈ s.admissionOffers, ao.status = .checkoutPending →
    ∀ ea ∈ s.attendees, ea.userId = ao.userId → ea.status = .registrationQuestionsPending →
      ea.manuallyInvited = false

/-! ## One table at a time -/

namespace Enrollment.Exclusive

variable {s : Enrollment}

theorem setPurchases (h : s.Exclusive) (purchases : List Purchase)
    (hentitled : ∀ ep ∈ purchases, ep.status.IsEntitled →
      ∃ old ∈ s.purchases, old.userId = ep.userId ∧ old.status.IsEntitled)
    (hpending : ∀ ep ∈ s.purchases, ep.status = .pending →
      ∃ new ∈ purchases, new.userId = ep.userId ∧ new.status = .pending) :
    ({ s with purchases := purchases } : Enrollment).Exclusive :=
  { h with
    entitledConfirmed := fun ep hep hstatus ↦ by
      obtain ⟨old, hold, huser, hold_status⟩ := hentitled ep hep hstatus
      rw [← huser]
      exact h.entitledConfirmed old hold hold_status
    heldAnswers := fun ea hea hstatus hmanual ↦ by
      obtain ⟨ep, hep, huser, hep_status⟩ := h.heldAnswers ea hea hstatus hmanual
      obtain ⟨new, hnew, hnew_user, hnew_status⟩ := hpending ep hep hep_status
      exact ⟨new, hnew, hnew_user.trans huser, hnew_status⟩ }

theorem setOffers (h : s.Exclusive) (offers : List AdmissionOffer)
    (hactive : ∀ ao ∈ offers, ao.status.IsActive →
      (∃ old ∈ s.admissionOffers, old.userId = ao.userId ∧ old.status.IsActive)
        ∨ s.AdmitsOffer ao) :
    ({ s with admissionOffers := offers } : Enrollment).Exclusive := by
  -- the active offers are old ones, or were admitted by the trigger
  refine { h with queuedOffer := ?_, confirmedOffer := ?_, requestedOffer := ?_ }
  · intro ew hew ao hao huser hstatus
    rcases hactive ao hao hstatus with ⟨old, hold, hold_user, hold_status⟩ | hadmits
    · exact h.queuedOffer ew hew old hold (hold_user.trans huser) hold_status
    · exact hadmits.waitlist ew hew huser.symm
  · intro ea hea hconfirmed ao hao huser hstatus
    rcases hactive ao hao hstatus with ⟨old, hold, hold_user, hold_status⟩ | hadmits
    · exact h.confirmedOffer ea hea hconfirmed old hold (hold_user.trans huser) hold_status
    · exact hadmits.attendee ea hea huser.symm (by simp [hconfirmed])
  · intro eir heir hpending ao hao huser hstatus
    rcases hactive ao hao hstatus with ⟨old, hold, hold_user, hold_status⟩ | hadmits
    · exact h.requestedOffer eir heir hpending old hold (hold_user.trans huser) hold_status
    · exact hadmits.request eir heir huser.symm hpending

theorem replaceOffer (h : s.Exclusive) {new : AdmissionOffer}
    (hadmits : new.status.IsActive → s.AdmitsOffer new) :
    ({ s with
      admissionOffers := replaceRow AdmissionOffer.admissionOfferId new s.admissionOffers } :
        Enrollment).Exclusive := by
  refine h.setOffers _ fun ao hao hstatus ↦ ?_
  rcases mem_replaceRow hao with rfl | ⟨hao, -⟩
  · exact .inr (hadmits hstatus)
  · exact .inl ⟨ao, hao, rfl, hstatus⟩

/-- A row of the attendee table is an old row of its user, or was admitted beside the queue and the
offers; and what the purchases rely on is still there. -/
theorem setAttendees (h : s.Exclusive) {attendees : List Attendee}
    (hrow : ∀ ea ∈ attendees,
      (∃ old ∈ s.attendees, old.userId = ea.userId
        ∧ (ea.status = .confirmed → old.status = .confirmed))
      ∨ s.AdmitsAttendee ea)
    (hentitled : ∀ ep ∈ s.purchases, ep.status.IsEntitled →
      ∃ ea ∈ attendees, ea.userId = ep.userId ∧ ea.status = .confirmed)
    (hheld : ∀ ea ∈ attendees, ea.status = .registrationQuestionsPending →
      ea.manuallyInvited = false → ∃ ep ∈ s.purchases, ep.userId = ea.userId
        ∧ ep.status = .pending) :
    ({ s with attendees := attendees } : Enrollment).Exclusive := by
  refine { h with
    queuedAttendee := ?_
    confirmedOffer := ?_
    entitledConfirmed := hentitled
    heldAnswers := hheld }
  · intro ew hew ea hea huser
    rcases hrow ea hea with ⟨old, hold, hold_user, -⟩ | hadmits
    · exact h.queuedAttendee ew hew old hold (hold_user.trans huser)
    · exact hadmits.waitlist ew hew huser.symm
  · intro ea hea hconfirmed ao hao huser hactive
    rcases hrow ea hea with ⟨old, hold, hold_user, hold_status⟩ | hadmits
    · exact h.confirmedOffer old hold (hold_status hconfirmed) ao hao
        (huser.trans hold_user.symm) hactive
    · have := (hadmits.offer ao hao huser hactive).1
      simp [hconfirmed] at this

theorem filterAttendees (h : s.Exclusive) {keep : Attendee → Bool}
    (hdropped : ∀ ea ∈ s.attendees, ¬ keep ea = true → ea.status ≠ .confirmed) :
    ({ s with attendees := s.attendees.filter keep } : Enrollment).Exclusive := by
  refine h.setAttendees (fun ea hea ↦ .inl ⟨ea, (List.mem_filter.1 hea).1, rfl, id⟩) ?_
    fun ea hea ↦ h.heldAnswers ea (List.mem_filter.1 hea).1
  intro ep hep hstatus
  obtain ⟨ea, hea, huser, hconfirmed⟩ := h.entitledConfirmed ep hep hstatus
  refine ⟨ea, List.mem_filter.2 ⟨hea, ?_⟩, huser, hconfirmed⟩
  by_contra hkeep
  exact hdropped ea hea hkeep hconfirmed

theorem filterWaitlist (h : s.Exclusive) (keep : WaitlistEntry → Bool) :
    ({ s with waitlist := s.waitlist.filter keep } : Enrollment).Exclusive :=
  { h with
    queuedAttendee := fun ew hew ↦ h.queuedAttendee ew (List.mem_filter.1 hew).1
    queuedOffer := fun ew hew ↦ h.queuedOffer ew (List.mem_filter.1 hew).1
    queueMode := fun hne ↦ h.queueMode fun hnil ↦ hne (by simp [hnil]) }

theorem setRequests (h : s.Exclusive) {requests : List InvitationRequest}
    (hpending : ∀ eir ∈ requests, eir.status = .pending → eir ∈ s.invitationRequests)
    (hmode : requests ≠ [] → s.invitationRequests ≠ []) :
    ({ s with invitationRequests := requests } : Enrollment).Exclusive :=
  { h with
    requestedOffer := fun eir heir hstatus ↦
      h.requestedOffer eir (hpending eir heir hstatus) hstatus
    requestMode := fun hne ↦ h.requestMode (hmode hne) }

theorem releaseIf (h : s.Exclusive) (released : Bool) (code : Option Uuid) :
    (releaseIf released code s).Exclusive := by
  unfold Ocg.releaseIf
  split
  · exact { h with }
  · exact h

end Enrollment.Exclusive

/-! ## Moves of purchases and attendees -/

section Rows

variable {mode : MoveMode} {now : Timestamp} {s : Enrollment} {ep new : Purchase} {effect : Effect}

theorem entitled_of_replace (hep : ep ∈ s.purchases) (hcontinues : new.Continues ep)
    (hnew : new.status.IsEntitled → ep.status.IsEntitled) {row : Purchase}
    (hrow : row ∈ replaceRow Purchase.eventPurchaseId new s.purchases)
    (hstatus : row.status.IsEntitled) :
    ∃ old ∈ s.purchases, old.userId = row.userId ∧ old.status.IsEntitled := by
  -- a purchase that was entitled, in a table with one row replaced by an entitled successor only
  rcases mem_replaceRow hrow with rfl | ⟨hrow, -⟩
  · exact ⟨ep, hep, hcontinues.user.symm, hnew hstatus⟩
  · exact ⟨row, hrow, rfl, hstatus⟩

theorem Enrollment.Exclusive.movePurchase {released : Bool} (h : s.Exclusive) (hwf : s.WellFormed)
    (hep : ep ∈ s.purchases) (hcontinues : new.Continues ep)
    (hstep : PurchaseStep mode s ep new effect released) :
    ({ s with
      purchases := replaceRow Purchase.eventPurchaseId new s.purchases } :
        Enrollment).Exclusive := by
  refine h.setPurchases _
    (fun row hrow hstatus ↦ entitled_of_replace hep hcontinues hstep.entitled hrow hstatus) ?_
  intro row hrow hstatus
  by_cases hid : row.eventPurchaseId = new.eventPurchaseId
  · have hrow_eq : row = ep := eq_of_key_eq hwf.purchaseKeys hrow hep (hid.trans hcontinues.id)
    subst hrow_eq
    exact ⟨new, new_mem_replaceRow hep hid, hcontinues.user, hstep.pending_iff.2 hstatus⟩
  · exact ⟨row, mem_replaceRow_of_ne hrow hid, rfl, hstatus⟩

theorem Enrollment.Exclusive.endCheckout (h : s.Exclusive) (hwf : s.WellFormed)
    {keep : Attendee → Bool} (hep : ep ∈ s.purchases) (hcontinues : new.Continues ep)
    (hend : CheckoutEnd mode s ep new effect)
    (hdropped : ∀ ea ∈ s.attendees, ¬ keep ea = true → ea.status = .registrationQuestionsPending)
    (hkept : ∀ ea ∈ s.attendees, keep ea = true → ea.userId = ep.userId →
      ea.status = .registrationQuestionsPending → ea.manuallyInvited = false →
      ∃ other ∈ replaceRow Purchase.eventPurchaseId new s.purchases,
        other.userId = ea.userId ∧ (other.status.IsEntitled ∨ other.status = .pending)) :
    ({ s with
      attendees := s.attendees.filter keep
      purchases := replaceRow Purchase.eventPurchaseId new s.purchases } :
        Enrollment).Exclusive := by
  -- the end of a hold: the rows that still hold answers have another pending purchase
  have hnotEntitled : new.status.IsEntitled → ep.status.IsEntitled := fun hentitled ↦
    absurd hentitled.isActive hend.not_active
  -- a held row whose purchase survives, in the table after the replacement
  have hheld : ∀ ea ∈ s.attendees, keep ea = true → ea.status = .registrationQuestionsPending →
      ea.manuallyInvited = false → ∃ row ∈ replaceRow Purchase.eventPurchaseId new s.purchases,
        row.userId = ea.userId ∧ row.status = .pending := by
    intro ea hea hkeep hstatus hmanual
    obtain ⟨row, hrow, hrow_user, hrow_status⟩ := h.heldAnswers ea hea hstatus hmanual
    by_cases hid : row.eventPurchaseId = new.eventPurchaseId
    · have hrow_eq : row = ep := eq_of_key_eq hwf.purchaseKeys hrow hep (hid.trans hcontinues.id)
      obtain ⟨other, hother, hother_user, hother_status⟩ :=
        hkept ea hea hkeep (hrow_user.symm.trans (hrow_eq ▸ rfl)) hstatus hmanual
      rcases hother_status with hentitled | hpending
      · -- an entitled purchase beside the pending one would be its rival
        obtain ⟨old, hold, hold_user, hold_status⟩ :=
          entitled_of_replace hep hcontinues hnotEntitled hother hentitled
        have hsame := hwf.activePurchase_unique hold hrow hold_status.isActive
          (by simp [hrow_status]) (hold_user.trans (hother_user.trans hrow_user.symm))
        rw [hsame, hrow_status] at hold_status
        simp at hold_status
      · exact ⟨other, hother, hother_user, hpending⟩
    · exact ⟨row, mem_replaceRow_of_ne hrow hid, hrow_user, hrow_status⟩
  refine { h with
    queuedAttendee := fun ew hew ea hea ↦ h.queuedAttendee ew hew ea (List.mem_filter.1 hea).1
    confirmedOffer := fun ea hea ↦ h.confirmedOffer ea (List.mem_filter.1 hea).1
    entitledConfirmed := ?_
    heldAnswers := fun ea hea ↦
      hheld ea (List.mem_filter.1 hea).1 (List.mem_filter.1 hea).2 }
  intro row hrow hstatus
  obtain ⟨old, hold, hold_user, hold_status⟩ :=
    entitled_of_replace hep hcontinues hnotEntitled hrow hstatus
  obtain ⟨ea, hea, hea_user, hconfirmed⟩ := h.entitledConfirmed old hold hold_status
  refine ⟨ea, List.mem_filter.2 ⟨hea, ?_⟩, hea_user.trans hold_user, hconfirmed⟩
  by_contra hkeep
  have := hdropped ea hea hkeep
  simp [hconfirmed] at this

theorem Enrollment.Exclusive.replaceAttendee (h : s.Exclusive) (hwf : s.WellFormed)
    {old ea : Attendee} (hold : old ∈ s.attendees) (huser : ea.userId = old.userId)
    (hconfirmed : ea.status = .confirmed → old.status = .confirmed)
    (hentitled : ea.status ≠ .confirmed → old.status = .confirmed →
      ∀ ep ∈ s.purchases, ep.userId = ea.userId → ¬ ep.status.IsEntitled)
    (hheld : ea.status = .registrationQuestionsPending → ea.manuallyInvited = false →
      ∃ ep ∈ s.purchases, ep.userId = ea.userId ∧ ep.status = .pending) :
    ({ s with attendees := replaceRow Attendee.userId ea s.attendees } : Enrollment).Exclusive := by
  refine h.setAttendees ?_ ?_ ?_
  · intro row hrow
    rcases mem_replaceRow hrow with rfl | ⟨hrow, -⟩
    · exact .inl ⟨old, hold, huser.symm, hconfirmed⟩
    · exact .inl ⟨row, hrow, rfl, id⟩
  · intro ep hep hstatus
    obtain ⟨row, hrow, hrow_user, hrow_status⟩ := h.entitledConfirmed ep hep hstatus
    by_cases hkey : row.userId = ea.userId
    · have hrow_eq : row = old := eq_of_key_eq hwf.attendeeKeys hrow hold (hkey.trans huser)
      subst hrow_eq
      refine ⟨ea, new_mem_replaceRow hrow hkey, hkey.symm.trans hrow_user, ?_⟩
      by_contra hne
      exact hentitled hne hrow_status ep hep (hrow_user.symm.trans hkey) hstatus
    · exact ⟨row, mem_replaceRow_of_ne hrow hkey, hrow_user, hrow_status⟩
  · intro row hrow hstatus hmanual
    rcases mem_replaceRow hrow with rfl | ⟨hrow, -⟩
    · exact hheld hstatus hmanual
    · exact h.heldAnswers row hrow hstatus hmanual

/-- Completion: the offer is spent, the user is confirmed, the purchase is entitled. -/
theorem Enrollment.Exclusive.complete (h : s.Exclusive) (hwf : s.WellFormed)
    {offers' : List AdmissionOffer} {attendees' : List Attendee} (hep : ep ∈ s.purchases)
    (hcontinues : new.Continues ep)
    (hoffers : CompletesOffer ep s.admissionOffers offers')
    (hattendees : ConfirmsAttendee ep.userId s.attendees attendees')
    (hqueue : ∀ ew ∈ s.waitlist, ew.userId ≠ ep.userId)
    (hfree : ∀ ao ∈ offers', ao.userId = ep.userId → ¬ ao.status.IsActive) :
    ({ s with
      admissionOffers := offers'
      attendees := attendees'
      purchases := replaceRow Purchase.eventPurchaseId new s.purchases } :
        Enrollment).Exclusive := by
  have hspent : ({ s with admissionOffers := offers' } : Enrollment).Exclusive := by
    rcases hoffers with ⟨-, rfl⟩ | ⟨ao, -, -, -, rfl⟩
    · exact h
    · exact h.replaceOffer fun hactive ↦ absurd hactive (by simp)
  obtain ⟨ea, hea_user, hea_status, hrows⟩ := hattendees
  have hea : ea ∈ attendees' := by
    rcases hrows with ⟨rfl, -⟩ | ⟨rfl, row, hrow, hrow_user⟩
    · simp
    · exact new_mem_replaceRow hrow (hrow_user.trans hea_user.symm)
  have hcases : ∀ row ∈ attendees', row = ea ∨ (row ∈ s.attendees ∧ row.userId ≠ ep.userId) := by
    rcases hrows with ⟨rfl, hnew⟩ | ⟨rfl, -⟩
    · intro row hrow
      rcases List.mem_append.1 hrow with hrow | hrow
      · exact .inr ⟨hrow, hnew row hrow⟩
      · exact .inl (List.mem_singleton.1 hrow)
    · intro row hrow
      rcases mem_replaceRow hrow with rfl | ⟨hrow, hne⟩
      · exact .inl rfl
      · exact .inr ⟨hrow, hea_user ▸ hne⟩
  have hkept : ∀ row ∈ s.attendees, row.userId ≠ ep.userId → row ∈ attendees' := by
    rcases hrows with ⟨rfl, -⟩ | ⟨rfl, -⟩
    · exact fun row hrow _ ↦ List.mem_append_left _ hrow
    · exact fun row hrow hne ↦ mem_replaceRow_of_ne hrow (hea_user ▸ hne)
  refine { hspent with
    queuedAttendee := ?_
    confirmedOffer := ?_
    entitledConfirmed := ?_
    heldAnswers := ?_ }
  · intro ew hew row hrow
    rcases hcases row hrow with rfl | ⟨hrow, -⟩
    · rw [hea_user]
      exact (hqueue ew hew).symm
    · exact h.queuedAttendee ew hew row hrow
  · intro row hrow hconfirmed
    rcases hcases row hrow with rfl | ⟨hrow, -⟩
    · rw [hea_user]
      exact hfree
    · exact hspent.confirmedOffer row hrow hconfirmed
  · intro row hrow hstatus
    by_cases huser : row.userId = ep.userId
    · exact ⟨ea, hea, hea_user.trans huser.symm, hea_status⟩
    · rcases mem_replaceRow hrow with rfl | ⟨hrow, -⟩
      · exact absurd hcontinues.user huser
      · obtain ⟨old, hold, hold_user, hold_status⟩ := h.entitledConfirmed row hrow hstatus
        exact ⟨old, hkept old hold (hold_user ▸ huser), hold_user, hold_status⟩
  · intro row hrow hstatus hmanual
    rcases hcases row hrow with rfl | ⟨hrow, hne⟩
    · simp [hea_status] at hstatus
    · obtain ⟨held, hheld, hheld_user, hheld_status⟩ := h.heldAnswers row hrow hstatus hmanual
      refine ⟨held, mem_replaceRow_of_ne hheld fun hid ↦ hne ?_, hheld_user, hheld_status⟩
      rw [← hheld_user, eq_of_key_eq hwf.purchaseKeys hheld hep (hid.trans hcontinues.id)]

end Rows

/-! ## Preservation -/

/-- **Every move keeps enrollment exclusive.** -/
theorem EnrollmentMove.exclusive {mode : MoveMode} {now : Timestamp} {effect : Effect}
    {s s' : Enrollment} (hmove : EnrollmentMove mode now effect s s') (hwf : s.WellFormed)
    (h : s.Exclusive) : s'.Exclusive := by
  cases hmove with
  | issueUuid _ => exact { h with }
  | setPublished _ => exact { h with }
  | setCanceled _ _ => exact { h with }
  | movePurchase hep hcontinues _ hstep =>
    exact (h.movePurchase hwf hep hcontinues hstep).releaseIf _ _
  | endCheckout keep hep hcontinues _ hend hdropped hkept =>
    exact (h.endCheckout hwf hep hcontinues hend hdropped hkept).releaseIf _ _
  | openDirect hopens _ _ _ _ hreserve =>
    rw [(reserveEventDiscountCodeAvailability_eq_ok.1 hreserve).2]
    refine { h.setPurchases (s.purchases ++ [_]) ?_ ?_ with }
    · intro row hrow hstatus
      rcases List.mem_append.1 hrow with hrow | hrow
      · exact ⟨row, hrow, rfl, hstatus⟩
      · rw [List.mem_singleton.1 hrow, hopens.status] at hstatus
        simp at hstatus
    · exact fun row hrow hstatus ↦ ⟨row, List.mem_append_left _ hrow, rfl, hstatus⟩
  | openByOffer hopens hao _ _ _ haccepts _ _ _ _ _ hreserve =>
    rw [(reserveEventDiscountCodeAvailability_eq_ok.1 hreserve).2]
    refine { (h.replaceOffer haccepts.admits).setPurchases (s.purchases ++ [_]) ?_ ?_
      with }
    · intro row hrow hstatus
      rcases List.mem_append.1 hrow with hrow | hrow
      · exact ⟨row, hrow, rfl, hstatus⟩
      · rw [List.mem_singleton.1 hrow, hopens.status] at hstatus
        simp at hstatus
    · exact fun row hrow hstatus ↦ ⟨row, List.mem_append_left _ hrow, rfl, hstatus⟩
  | complete hep hcontinues _ _ _ _ hoffers hattendees hqueue hfree =>
    exact h.complete hwf hep hcontinues hoffers hattendees hqueue hfree
  | endOffer _ hstatus _ =>
    refine h.replaceOffer fun hactive ↦ ?_
    simp only [List.mem_cons, List.not_mem_nil, or_false] at hstatus
    rcases hstatus with rfl | rfl | rfl <;> simp at hactive
  | returnOffer _ _ haccepts => exact h.replaceOffer haccepts.admits
  | @issueOffer _ new _ hstatus _ haccepts _ _ =>
    refine { h.setOffers (s.admissionOffers ++ [new]) ?_ with }
    intro row hrow hactive
    rcases List.mem_append.1 hrow with hrow | hrow
    · exact .inl ⟨row, hrow, rfl, hactive⟩
    · rw [List.mem_singleton.1 hrow] at hactive ⊢
      exact .inr (haccepts.admits hactive)
  | leaveQueue keep => exact h.filterWaitlist keep
  | @joinQueue _ ew hattendees hoffers hwaitlist hpurchases hmode hnotCanceled =>
    refine { h with queuedAttendee := ?_, queuedOffer := ?_, queueMode := fun _ ↦ hmode }
    · intro row hrow
      rcases List.mem_append.1 hrow with hrow | hrow
      · exact h.queuedAttendee row hrow
      · rw [List.mem_singleton.1 hrow]
        exact hattendees
    · intro row hrow
      rcases List.mem_append.1 hrow with hrow | hrow
      · exact h.queuedOffer row hrow
      · rw [List.mem_singleton.1 hrow]
        exact hoffers
  | @addRequest _ eir hoffers hmode _ =>
    refine { h with requestedOffer := ?_, requestMode := fun _ ↦ hmode }
    intro row hrow hstatus
    rcases List.mem_append.1 hrow with hrow | hrow
    · exact h.requestedOffer row hrow hstatus
    · rw [List.mem_singleton.1 hrow]
      exact hoffers
  | dropRequests keep =>
    refine h.setRequests (fun row hrow _ ↦ (List.mem_filter.1 hrow).1) fun hne hnil ↦ hne ?_
    simp [hnil]
  | reviewRequests hstatus =>
    refine h.setRequests (fun row hrow hpending ↦ ?_) fun hne hnil ↦ hne ?_
    · rcases mem_updateWhere.1 hrow with ⟨old, -, -, rfl⟩ | ⟨hrow, -⟩
      · exact absurd hpending hstatus
      · exact hrow
    · rw [hnil]
      rfl
  | @holdAnswers _ ea hstatus _ hnew hadmits hpending =>
    refine h.setAttendees ?_ ?_ ?_
    · intro row hrow
      rcases List.mem_append.1 hrow with hrow | hrow
      · exact .inl ⟨row, hrow, rfl, id⟩
      · rw [List.mem_singleton.1 hrow]
        exact .inr hadmits
    · intro ep hep hentitled
      obtain ⟨row, hrow, hrest⟩ := h.entitledConfirmed ep hep hentitled
      exact ⟨row, List.mem_append_left _ hrow, hrest⟩
    · intro row hrow hheld hmanual
      rcases List.mem_append.1 hrow with hrow | hrow
      · exact h.heldAnswers row hrow hheld hmanual
      · rw [List.mem_singleton.1 hrow]
        exact hpending
  | reviveAnswers hold huser _ hfrom hstatus _ hpending _ =>
    refine h.replaceAttendee hwf hold huser (by simp [hstatus]) ?_ fun _ _ ↦ hpending
    intro _ hconfirmed
    simp [hconfirmed] at hfrom
  | editAnswers hold huser hmanual hstatus =>
    refine h.replaceAttendee hwf hold huser (by simp [hstatus]) ?_ ?_
    · exact fun hne hconfirmed ↦ absurd (hstatus.trans hconfirmed) hne
    · intro hheld hnot
      rw [huser]
      exact h.heldAnswers _ hold (hstatus ▸ hheld) (hmanual ▸ hnot)
  | cancelAttendance hea hpurchases =>
    exact h.replaceAttendee hwf hea rfl (by simp) (fun _ _ ↦ hpurchases) (by simp)
  | dropAttendees keep hkeep =>
    refine h.filterAttendees fun ea hea hdropped hconfirmed ↦ ?_
    have := hkeep ea hea hdropped
    simp [hconfirmed] at this

/-! ## Quiet waiting -/

namespace Enrollment.Quiet

variable {s : Enrollment}

theorem setPurchases (h : s.Quiet) {purchases : List Purchase}
    (hrow : ∀ ep ∈ purchases, ep.status.IsConflicting →
      (∃ old ∈ s.purchases, old.userId = ep.userId
        ∧ old.admissionOfferId = ep.admissionOfferId ∧ old.status.IsConflicting)
      ∨ s.MayReopen ep) :
    ({ s with purchases := purchases } : Enrollment).Quiet := by
  refine { h with queuedPurchase := ?_, excludedPurchase := ?_ }
  · intro ew hew ep hep huser hconflicting
    rcases hrow ep hep hconflicting with ⟨old, hold, hold_user, -, hold_status⟩ | hmay
    · exact h.queuedPurchase ew hew old hold (hold_user.trans huser) hold_status
    · exact hmay.1 ew hew huser.symm
  · intro ao hao ep hep huser hconflicting hexcludes
    rcases hrow ep hep hconflicting with ⟨old, hold, hold_user, hold_offer, hold_status⟩ | hmay
    · rw [AdmissionOffer.Excludes, ← hold_offer] at hexcludes
      rw [← hold_offer]
      exact h.excludedPurchase ao hao old hold (hold_user.trans huser) hold_status hexcludes
    · exact hmay.2 ao hao huser.symm hexcludes

theorem replacePurchase (h : s.Quiet) {ep new : Purchase} (hep : ep ∈ s.purchases)
    (hcontinues : new.Continues ep)
    (hnew : new.status.IsConflicting → ep.status.IsConflicting ∨ (True → s.MayReopen ep)) :
    ({ s with
      purchases := replaceRow Purchase.eventPurchaseId new s.purchases } : Enrollment).Quiet := by
  refine h.setPurchases fun row hrow hconflicting ↦ ?_
  rcases mem_replaceRow hrow with rfl | ⟨hrow, -⟩
  · rcases hnew hconflicting with hold | hmay
    · exact .inl ⟨ep, hep, hcontinues.user.symm, hcontinues.offer.symm, hold⟩
    · refine .inr ⟨?_, ?_⟩
      · rw [hcontinues.user]
        exact (hmay trivial).1
      · unfold AdmissionOffer.Excludes
        rw [hcontinues.user, hcontinues.offer]
        exact (hmay trivial).2
  · exact .inl ⟨row, hrow, rfl, rfl, hconflicting⟩

theorem addPurchase (h : s.Quiet) {ep : Purchase} (hmay : s.MayReopen ep) :
    ({ s with purchases := s.purchases ++ [ep] } : Enrollment).Quiet := by
  refine h.setPurchases fun row hrow hconflicting ↦ ?_
  rcases List.mem_append.1 hrow with hrow | hrow
  · exact .inl ⟨row, hrow, rfl, rfl, hconflicting⟩
  · rw [List.mem_singleton.1 hrow]
    exact .inr hmay

theorem setOffers (h : s.Quiet) (offers : List AdmissionOffer)
    (hactive : ∀ ao ∈ offers, ao.status.IsActive → ao ∈ s.admissionOffers ∨ s.AdmitsOffer ao) :
    ({ s with admissionOffers := offers } : Enrollment).Quiet := by
  -- the active offers are old ones, or were admitted by the trigger
  refine { h with excludedPurchase := ?_, claimedAnswers := ?_ }
  · intro ao hao ep hep huser hconflicting hexcludes
    rcases hactive ao hao hexcludes.isActive with hold | hadmits
    · exact h.excludedPurchase ao hold ep hep huser hconflicting hexcludes
    · exact hadmits.purchase ep hep huser hconflicting
  · intro ao hao hstatus ea hea huser hheld
    rcases hactive ao hao (by simp [hstatus]) with hold | hadmits
    · exact h.claimedAnswers ao hold hstatus ea hea huser hheld
    · exact absurd (by simp [hheld]) (hadmits.attendee ea hea huser)

theorem replaceOffer (h : s.Quiet) {new : AdmissionOffer}
    (hadmits : new.status.IsActive → s.AdmitsOffer new) :
    ({ s with
      admissionOffers := replaceRow AdmissionOffer.admissionOfferId new s.admissionOffers } :
        Enrollment).Quiet := by
  refine h.setOffers _ fun ao hao hstatus ↦ ?_
  rcases mem_replaceRow hao with rfl | ⟨hao, -⟩
  · exact .inr (hadmits hstatus)
  · exact .inl hao

/-- A held questionnaire row is an old one, or one that may stand beside a claim. -/
theorem setAttendees (h : s.Quiet) {attendees : List Attendee}
    (hrow : ∀ ea ∈ attendees, ea.status = .registrationQuestionsPending →
      (∃ old ∈ s.attendees, old.userId = ea.userId ∧ old.manuallyInvited = ea.manuallyInvited
        ∧ old.status = .registrationQuestionsPending)
      ∨ s.MayRevive ea) :
    ({ s with attendees := attendees } : Enrollment).Quiet := by
  refine { h with claimedAnswers := ?_ }
  intro ao hao hclaimed ea hea huser hheld
  rcases hrow ea hea hheld with ⟨old, hold, hold_user, hold_manual, hold_status⟩ | hmay
  · rw [← hold_manual]
    exact h.claimedAnswers ao hao hclaimed old hold (hold_user.trans huser) hold_status
  · rcases hmay with hmanual | hfree
    · exact hmanual
    · exact absurd hclaimed (hfree ao hao huser.symm)

theorem filterAttendees (h : s.Quiet) (keep : Attendee → Bool) :
    ({ s with attendees := s.attendees.filter keep } : Enrollment).Quiet :=
  h.setAttendees fun ea hea hheld ↦ .inl ⟨ea, (List.mem_filter.1 hea).1, rfl, rfl, hheld⟩

theorem replaceAttendee (h : s.Quiet) {ea : Attendee}
    (hea : ea.status = .registrationQuestionsPending →
      (∃ old ∈ s.attendees, old.userId = ea.userId ∧ old.manuallyInvited = ea.manuallyInvited
        ∧ old.status = .registrationQuestionsPending)
      ∨ s.MayRevive ea) :
    ({ s with attendees := replaceRow Attendee.userId ea s.attendees } : Enrollment).Quiet := by
  refine h.setAttendees fun row hrow hheld ↦ ?_
  rcases mem_replaceRow hrow with rfl | ⟨hrow, -⟩
  · exact hea hheld
  · exact .inl ⟨row, hrow, rfl, rfl, hheld⟩

theorem addAttendee (h : s.Quiet) {ea : Attendee}
    (hea : ea.status = .registrationQuestionsPending → s.MayRevive ea) :
    ({ s with attendees := s.attendees ++ [ea] } : Enrollment).Quiet := by
  refine h.setAttendees fun row hrow hheld ↦ ?_
  rcases List.mem_append.1 hrow with hrow | hrow
  · exact .inl ⟨row, hrow, rfl, rfl, hheld⟩
  · rw [List.mem_singleton.1 hrow] at hheld ⊢
    exact .inr (hea hheld)

theorem releaseIf (h : s.Quiet) (released : Bool) (code : Option Uuid) :
    (releaseIf released code s).Quiet := by
  unfold Ocg.releaseIf
  split
  · exact { h with }
  · exact h

end Enrollment.Quiet

/-- **Every strict move keeps waiting users quiet.** -/
theorem EnrollmentMove.quiet {now : Timestamp} {effect : Effect} {s s' : Enrollment}
    (hmove : EnrollmentMove .quiet now effect s s') (h : s.Quiet) : s'.Quiet := by
  cases hmove with
  | issueUuid _ | setPublished _ | setCanceled _ _ => exact { h with }
  | movePurchase hep hcontinues _ hstep =>
    exact (h.replacePurchase hep hcontinues hstep.conflicting).releaseIf _ _
  | endCheckout keep hep hcontinues _ hend _ _ =>
    exact ((h.replacePurchase hep hcontinues hend.conflicting).filterAttendees keep).releaseIf _ _
  | openDirect hopens _ hoffers _ _ hreserve =>
    rw [(reserveEventDiscountCodeAvailability_eq_ok.1 hreserve).2]
    refine { h.addPurchase ⟨hopens.notQueued, ?_⟩ with }
    intro ao hao huser hexcludes
    exact absurd hexcludes.isActive (hoffers ao hao huser)
  | @openByOffer _ _ ep ao new hopens hao _ hfollows hclaimed haccepts hlinked huser _ _ _
      hreserve =>
    rw [(reserveEventDiscountCodeAvailability_eq_ok.1 hreserve).2]
    have hactive : new.status.IsActive := by simp [hclaimed]
    have hnew_user : new.userId = ep.userId := by
      rw [hfollows.owned.2.2.2.2.2, huser]
    refine { (h.replaceOffer haccepts.admits).addPurchase ⟨hopens.notQueued, ?_⟩ with }
    intro other hother hother_user hother_excludes
    rcases mem_replaceRow hother with rfl | ⟨hother, hne⟩
    · rw [hlinked, hfollows.id]
    · exact absurd (haccepts.noRival hactive other hother (hother_user.trans hnew_user.symm)
        hother_excludes.isActive) hne
  | @complete _ ep new offers' attendees' hep hcontinues _ hlive _ _ hoffers hattendees _ _ =>
    have hspent : ({ s with admissionOffers := offers' } : Enrollment).Quiet := by
      rcases hoffers with ⟨-, rfl⟩ | ⟨ao, -, -, -, rfl⟩
      · exact h
      · exact h.replaceOffer fun hactive ↦ absurd hactive (by simp)
    have hconfirmed :
        ({ s with admissionOffers := offers', attendees := attendees' } : Enrollment).Quiet := by
      obtain ⟨ea, -, hconfirmed, ⟨rfl, -⟩ | ⟨rfl, -⟩⟩ := hattendees
      · exact hspent.addAttendee fun hheld ↦ by simp [hconfirmed] at hheld
      · exact hspent.replaceAttendee fun hheld ↦ by simp [hconfirmed] at hheld
    exact hconfirmed.replacePurchase hep hcontinues fun _ ↦ .inl (by simp [hlive.1])
  | endOffer _ hstatus _ =>
    refine h.replaceOffer fun hactive ↦ ?_
    simp only [List.mem_cons, List.not_mem_nil, or_false] at hstatus
    rcases hstatus with rfl | rfl | rfl <;> simp at hactive
  | returnOffer _ _ haccepts => exact h.replaceOffer haccepts.admits
  | @issueOffer _ new _ _ _ haccepts _ _ =>
    refine { h.setOffers (s.admissionOffers ++ [new]) ?_ with }
    intro row hrow hactive
    rcases List.mem_append.1 hrow with hrow | hrow
    · exact .inl hrow
    · rw [List.mem_singleton.1 hrow] at hactive ⊢
      exact .inr (haccepts.admits hactive)
  | leaveQueue keep =>
    exact { h with queuedPurchase := fun ew hew ↦ h.queuedPurchase ew (List.mem_filter.1 hew).1 }
  | joinQueue _ _ _ hpurchases _ _ =>
    refine { h with queuedPurchase := fun row hrow ↦ ?_ }
    rcases List.mem_append.1 hrow with hrow | hrow
    · exact h.queuedPurchase row hrow
    · rw [List.mem_singleton.1 hrow]
      exact hpurchases
  | addRequest _ _ _ | dropRequests _ | reviewRequests _ => exact { h with }
  | holdAnswers _ hmanual _ _ _ => exact h.addAttendee fun _ ↦ .inl hmanual
  | @reviveAnswers _ old ea hold huser hmanual _ _ _ _ hrevive =>
    refine h.replaceAttendee fun _ ↦ ?_
    rcases hrevive trivial with hheld | hmay
    · exact .inl ⟨old, hold, huser.symm, hmanual.symm, hheld⟩
    · refine .inr ?_
      rcases hmay with hnot | hfree
      · exact .inl (hmanual.trans hnot)
      · exact .inr (huser ▸ hfree)
  | editAnswers hold huser hmanual hstatus =>
    exact h.replaceAttendee fun hheld ↦
      .inl ⟨_, hold, huser.symm, hmanual.symm, hstatus ▸ hheld⟩
  | cancelAttendance _ _ => exact h.replaceAttendee fun hheld ↦ by simp at hheld
  | dropAttendees keep _ => exact h.filterAttendees keep

end Ocg
