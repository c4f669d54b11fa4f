import Ocg.Refinement.Reconcile

/-!
# Checkout as a run of moves

Preparing a checkout writes the claimed offer, the questionnaire row, the inventory and the new
purchase one after another; in terms of moves the hold is opened first, with its offer and its unit
of the discount, and the answers follow, so that a questionnaire row never stands without its
purchase.
-/

namespace Ocg

open Relational

section

variable (mode : MoveMode) {now : Timestamp} {s s' : Enrollment}

/-! ## What the end of a hold leaves free -/

theorem Enrollment.HasRoom.mono {t : Enrollment} {tier : Uuid} (h : s.HasRoom now tier)
    (htiers : t.ticketTypes = s.ticketTypes)
    (hclaims : t.claimedSeats now tier ⊆ s.claimedSeats now tier) : t.HasRoom now tier := by
  obtain ⟨ett, hett, hid, hroom⟩ := h
  exact ⟨ett, htiers ▸ hett, hid, (Finset.card_le_card hclaims).trans_lt hroom⟩

/-- An expired hold frees its seat and its redemption, and touches no offer and no queue. -/
structure Enrollment.Freed (s : Enrollment) (now : Timestamp) (t : Enrollment) : Prop where
  event : t.event = s.event
  admissionOffers : t.admissionOffers = s.admissionOffers
  waitlist : t.waitlist = s.waitlist
  attendees : ∀ ea ∈ t.attendees, ea ∈ s.attendees
  room : ∀ tier, s.HasRoom now tier → t.HasRoom now tier
  redemptions : ∀ code, s.HasRedemptionsLeft now code → t.HasRedemptionsLeft now code

theorem Enrollment.Freed.refl (s : Enrollment) : s.Freed now s :=
  ⟨rfl, rfl, rfl, fun _ h ↦ h, fun _ h ↦ h, fun _ h ↦ h⟩

theorem expireHold_freed {ep : Purchase} {hold : Timestamp} (hep : ep ∈ s.purchases)
    (hpending : ep.status = .pending)
    (h : expireHold now hold ep s = .ok s') : s.Freed now s' := by
  obtain ⟨-, rfl⟩ := expireHold_move .any hep hpending h
  have hcontinues : (ep.expire hold).Continues ep :=
    ⟨rfl, rfl, rfl, rfl, rfl, rfl, .inl rfl, .inl rfl, rfl, rfl, rfl⟩
  have hexpired : ¬ (ep.expire hold).Claims now := by
    rintro (hc | ⟨hc, -⟩) <;> simp [Purchase.expire] at hc
  refine ⟨rfl, rfl, rfl, fun ea hea ↦ (List.mem_filter.1 hea).1, fun tier hroom ↦ ?_,
    fun code hleft id hid ↦ ?_⟩
  · refine hroom.mono rfl (Enrollment.claimedSeats_subset
      (fun ao hao hr ↦ ⟨ao, hao, rfl, rfl, hr⟩) fun row hrow hc ↦ ?_)
    exact Enrollment.seatKey_mem_of_replace hep hcontinues (fun hnew ↦ absurd hnew hexpired) hrow hc
  · obtain ⟨edc, hedc, hedc_id, hcap⟩ := hleft id hid
    refine ⟨_, List.mem_map_of_mem hedc, ?_, ?_⟩
    · split
      · rw [DiscountCode.addAvailable]
        split <;> exact hedc_id
      · exact hedc_id
    · intro total htotal
      have hsame : total ∈ edc.totalAvailable := by
        split at htotal
        · rw [DiscountCode.addAvailable] at htotal
          split at htotal <;> exact htotal
        · exact htotal
      refine lt_of_le_of_lt ?_ (hcap total hsame)
      refine Int.ofNat_le.2 (countP_replaceRow_le fun row hrow hkey hnew ↦ ?_)
      exact absurd (of_decide_eq_true hnew).2 hexpired

/-! ## Abandoning a checkout -/

theorem cancelEventCheckout_moves {communityId user : Uuid} {provider : Option String}
    (hwf : s.WellFormed) (h : cancelEventCheckout now communityId user provider s = .ok s') :
    Moves mode now s s' := by
  unfold cancelEventCheckout at h
  split at h
  · obtain rfl := Except.ok.inj h
    exact .refl
  · simp only [bind_eq_ok] at h
    obtain ⟨⟨promoted, t⟩, ht, h⟩ := h
    obtain ⟨hmoves, -⟩ := reconcileEventEnrollment_spec mode hwf ht
    split at h
    · obtain rfl := Except.ok.inj h
      exact hmoves
    · next ep hfind =>
      have hselected := List.find?_some hfind
      simp only [decide_eq_true_eq] at hselected
      simp only [bind_eq_ok, Except.ok.injEq, Prod.exists] at h
      obtain ⟨u, hu, promoted', u', hu', rfl⟩ := h
      obtain ⟨hmove, -⟩ := expireHold_move mode (List.mem_of_find?_eq_some hfind) hselected.2 hu
      have hreach : Moves mode now s u := hmoves.tail hmove
      exact hreach.trans (reconcileEventEnrollment_spec mode (hreach.wellFormed hwf) hu').1

theorem expireEventPurchaseForCheckoutSession_moves {ref : SessionRef} (hwf : s.WellFormed)
    (h : expireEventPurchaseForCheckoutSession now ref s = .ok s') : Moves mode now s s' := by
  unfold expireEventPurchaseForCheckoutSession at h
  split at h
  · obtain rfl := Except.ok.inj h
    exact .refl
  · simp only [bind_eq_ok] at h
    obtain ⟨⟨promoted, t⟩, ht, h⟩ := h
    obtain ⟨hmoves, -⟩ := reconcileEventEnrollment_spec mode hwf ht
    split at h
    · obtain rfl := Except.ok.inj h
      exact hmoves
    · next ep hfind =>
      have hselected := List.find?_some hfind
      simp only [decide_eq_true_eq] at hselected
      simp only [bind_eq_ok, Except.ok.injEq, Prod.exists] at h
      obtain ⟨u, hu, promoted', u', hu', rfl⟩ := h
      obtain ⟨hmove, -⟩ := expireHold_move mode (List.mem_of_find?_eq_some hfind) hselected.2 hu
      have hreach : Moves mode now s u := hmoves.tail hmove
      exact hreach.trans (reconcileEventEnrollment_spec mode (hreach.wellFormed hwf) hu').1

/-! ## Attaching a session -/

theorem EnrollmentMove.record {ep new : Purchase} (hep : ep ∈ s.purchases)
    (hcontinues : new.Continues ep) (haccepted : s.AcceptsPurchase new)
    (hstatus : new.status = ep.status) (hhold : new.holdExpiresAt = ep.holdExpiresAt) :
    EnrollmentMove mode now .plain s
      { s with purchases := replaceRow Purchase.eventPurchaseId new s.purchases } :=
  .movePurchase hep hcontinues haccepted (.record hstatus hhold)

theorem attachCheckoutSessionToEventPurchase_moves {purchase : Uuid} {ref : SessionRef}
    {url : Option String} {hasTaxResources : Bool} (hwf : s.WellFormed)
    (h : attachCheckoutSessionToEventPurchase purchase ref url hasTaxResources s = .ok s') :
    Moves mode now s s' := by
  unfold attachCheckoutSessionToEventPurchase at h
  split at h
  · simp at h
  · next ep hfind =>
    have hep := List.mem_of_find?_eq_some hfind
    split at h
    · obtain rfl := Except.ok.inj h
      exact .refl
    · simp only [bind_eq_ok, require_eq_ok] at h
      obtain ⟨-, hcharge, -, -, h⟩ := h
      split at h
      · obtain rfl := Except.ok.inj h
        exact .refl
      · obtain ⟨haccepted, rfl⟩ := storePurchase_eq_ok.1 h
        have hpaid : 0 < ep.amountMinor := by
          rcases (hwf.purchaseAccepted ep hep).valid.chargeModel with ⟨-, hpaid⟩ | ⟨hfree, -⟩
          · exact hpaid
          · rw [hcharge.1] at hfree
            simp at hfree
        exact .single (.record mode hep
          ⟨rfl, rfl, rfl, rfl, rfl, rfl, .inr hpaid, .inl rfl, rfl, rfl, rfl⟩
          haccepted rfl rfl)

/-! ## Answers -/

theorem upsertPendingRegistrationAnswers_spec (now : Timestamp) {env : Env} {user : Uuid}
    {answers : Option Answers}
    (h : upsertPendingRegistrationAnswers env user answers s = .ok s') :
    ∃ attendees, s' = { s with attendees := attendees } ∧ ∀ t : Enrollment,
      t.attendees = s.attendees → t.waitlist = s.waitlist →
      t.admissionOffers = s.admissionOffers →
      (∃ ep ∈ t.purchases, ep.userId = user ∧ ep.status = .pending) →
      (mode.strict → s.event.registrationQuestions ≠ [] → ∀ ea ∈ s.attendees, ea.userId = user →
        ea.status = .attendanceCanceled → s.MayRevive ea) →
      Moves mode now t { t with attendees := attendees } := by
  -- storing answers is a move of the attendee table alone, made after the purchase that it is for
  unfold upsertPendingRegistrationAnswers at h
  split at h
  · obtain rfl := Except.ok.inj h
    refine ⟨s.attendees, rfl, fun t hattendees _ _ _ _ ↦ ?_⟩
    rw [← hattendees]
  · next hquestions =>
    simp only [bind_eq_ok, Prod.exists] at h
    obtain ⟨-, -, found, u, hupsert, h⟩ := h
    obtain rfl := Except.ok.inj h
    obtain ⟨hadmits, ⟨-, hnew, rfl⟩ | ⟨ea, hea, huser, ⟨-, hfrom, hadmits', rfl⟩ | ⟨-, -, rfl⟩⟩⟩ :=
      upsertAttendee_eq_ok hupsert
    · refine ⟨_, rfl, fun t hattendees hwaitlist hoffers hpending _ ↦ ?_⟩
      rw [← hattendees]
      exact .single (.holdAnswers rfl rfl (hattendees ▸ hnew)
        ⟨hwaitlist ▸ hadmits.waitlist, hoffers ▸ hadmits.offer⟩ hpending)
    · refine ⟨_, rfl, fun t hattendees hwaitlist hoffers hpending hmay ↦ ?_⟩
      rw [← hattendees]
      have hadmitted : t.AdmitsAttendee { ea with
          registrationAnswers := answers
          status := .registrationQuestionsPending } :=
        ⟨hwaitlist ▸ hadmits'.waitlist, hoffers ▸ hadmits'.offer⟩
      refine .single (@EnrollmentMove.reviveAnswers mode now t ea _ (hattendees ▸ hea) rfl rfl
        hfrom rfl hadmitted (huser ▸ hpending) fun hstrict ↦ ?_)
      simp only [List.mem_cons, List.not_mem_nil, or_false] at hfrom
      rcases hfrom with hcanceled | hheld
      · refine .inr ?_
        have hrevive := hmay hstrict hquestions ea hea huser hcanceled
        unfold Enrollment.MayRevive at hrevive ⊢
        rw [hoffers]
        exact hrevive
      · exact .inl hheld
    · refine ⟨_, rfl, fun t hattendees _ _ _ _ ↦ ?_⟩
      rw [← hattendees]

/-- The answers of a user who may not be revived beside a claim are not revived. -/
theorem upsertPendingRegistrationAnswers_moves {env : Env} {user : Uuid} {answers : Option Answers}
    (h : upsertPendingRegistrationAnswers env user answers s = .ok s')
    (hpending : ∃ ep ∈ s.purchases, ep.userId = user ∧ ep.status = .pending)
    (hmay : mode.strict → s.event.registrationQuestions ≠ [] →
      ∀ ea ∈ s.attendees, ea.userId = user →
      ea.status = .attendanceCanceled → s.MayRevive ea) : Moves mode now s s' := by
  obtain ⟨attendees, rfl, hmoves⟩ := upsertPendingRegistrationAnswers_spec mode now h
  exact hmoves s rfl rfl rfl hpending hmay

/-! ## Opening a hold -/

/-- A snapshotted offer is claimed at the price, and with the code, of its snapshot. -/
def CheckoutTerms.Honors (terms : CheckoutTerms) (code : Option String)
    (offer : Option AdmissionOffer) : Prop :=
  ∀ ao ∈ offer, ∀ snapshot ∈ ao.snapshot, terms.snapshot snapshot.discountCode = snapshot
    ∧ code = normalizeCode snapshot.discountCode

omit mode in
/-- A column that the first claim left null stays null in every later one. -/
theorem CheckoutTerms.Honors.claim_snapshot {terms : CheckoutTerms} {code : Option String}
    {ao : AdmissionOffer} (h : terms.Honors code (some ao)) {snapshot : PriceSnapshot}
    (hsnapshot : ao.snapshot = some snapshot) :
    (ao.claim terms code).snapshot = some snapshot := by
  obtain ⟨hterms, hcode⟩ := h ao rfl snapshot hsnapshot
  have hcurrency : snapshot.currencyCode.or terms.currencyCode = snapshot.currencyCode := by
    rw [show terms.currencyCode = snapshot.currencyCode from congrArg (·.currencyCode) hterms,
      Option.or_self]
  have hid : snapshot.eventDiscountCodeId.or terms.price.eventDiscountCodeId
      = snapshot.eventDiscountCodeId := by
    rw [show terms.price.eventDiscountCodeId = snapshot.eventDiscountCodeId from
      congrArg (·.eventDiscountCodeId) hterms, Option.or_self]
  have hdiscount : snapshot.discountCode.or code = snapshot.discountCode := by
    cases hstored : snapshot.discountCode with
    | none => rw [hcode, hstored]; rfl
    | some stored => rfl
  simp only [AdmissionOffer.claim, hsnapshot, PriceSnapshot.coalesce, CheckoutTerms.snapshot,
    hcurrency, hid, hdiscount]

/-- What was checked of the terms when a hold opens: a direct one needs room, and a live price needs
a redemption left. -/
structure Enrollment.MayOpen (s : Enrollment) (now : Timestamp) (req : CheckoutRequest)
    (offer : Option AdmissionOffer) (price : ResolvedPrice) : Prop where
  linked : req.admissionOfferId = offer.map (·.admissionOfferId)
  notCanceled : s.event.canceled = false
  direct : offer = none →
    (∀ ao ∈ s.admissionOffers, ao.userId = req.userId → ¬ ao.status.IsActive)
      ∧ (∀ ew ∈ s.waitlist, ew.userId ≠ req.userId) ∧ s.HasRoom now req.eventTicketTypeId
  claimed : ∀ ao ∈ offer, ao ∈ s.admissionOffers ∧ ao.IsReserving now
    ∧ ao.eventTicketTypeId = req.eventTicketTypeId ∧ ao.userId = req.userId
  redemptions : offer.bind (·.snapshot) = none → s.HasRedemptionsLeft now price.eventDiscountCodeId

theorem Enrollment.MayOpen.freed {req : CheckoutRequest} {offer : Option AdmissionOffer}
    {price : ResolvedPrice} {t : Enrollment} (h : s.MayOpen now req offer price)
    (hfreed : s.Freed now t) : t.MayOpen now req offer price where
  linked := h.linked
  notCanceled := hfreed.event ▸ h.notCanceled
  direct := fun hnone ↦ by
    obtain ⟨hoffers, hqueue, hroom⟩ := h.direct hnone
    exact ⟨hfreed.admissionOffers ▸ hoffers, hfreed.waitlist ▸ hqueue, hfreed.room _ hroom⟩
  claimed := fun ao hao ↦ hfreed.admissionOffers ▸ h.claimed ao hao
  redemptions := fun hnone ↦ hfreed.redemptions _ (h.redemptions hnone)

/-- A canceled attendance of the user would be revived as an invited one. -/
def Enrollment.HasInvitedHistory (s : Enrollment) (user : Uuid) : Prop :=
  s.event.registrationQuestions ≠ []
    ∧ ∃ ea ∈ s.attendees, ea.userId = user ∧ ea.status = .attendanceCanceled
      ∧ ea.manuallyInvited = true

instance (s : Enrollment) (user : Uuid) : Decidable (s.HasInvitedHistory user) :=
  inferInstanceAs (Decidable (_ ∧ _))

theorem Enrollment.mayRevive {user : Uuid}
    (h : s.HasInvitedHistory user →
      ∀ ao ∈ s.admissionOffers, ao.userId = user → ¬ ao.status.IsActive) :
    s.event.registrationQuestions ≠ [] → ∀ ea ∈ s.attendees, ea.userId = user →
      ea.status = .attendanceCanceled → s.MayRevive ea := by
  intro hquestions ea hea huser hstatus
  by_cases hmanual : ea.manuallyInvited = true
  · refine .inr fun ao hao hao_user hclaimed ↦ ?_
    exact h ⟨hquestions, ea, hea, huser, hstatus, hmanual⟩ ao hao (hao_user.trans huser)
      (by simp [hclaimed])
  · exact .inl (by simpa using hmanual)

theorem newPurchase_opens {req : CheckoutRequest} {offer : Option AdmissionOffer}
    {code : Option String} {terms : CheckoutTerms}
    (haccepted : s.AcceptsPurchase (newPurchase s.nextUuid now req offer code terms s.event))
    (hqueue : ∀ ew ∈ s.waitlist, ew.userId ≠ req.userId) (hnotCanceled : s.event.canceled = false) :
    s.Opens now (newPurchase s.nextUuid now req offer code terms s.event) :=
  ⟨rfl, rfl, by simp [newPurchase], rfl, rfl, haccepted, hqueue, hnotCanceled⟩

theorem openHold_moves {env : Env} {req : CheckoutRequest} {offer : Option AdmissionOffer}
    {code : Option String} {terms : CheckoutTerms} {outcome : CheckoutOutcome} {t : Enrollment}
    (hwf : s.WellFormed) (hmay : s.MayOpen now req offer terms.price)
    (hterms : terms.Honors code offer) (hclaims : mode.claims)
    (hrevive : mode.strict → s.HasInvitedHistory req.userId → offer = none)
    (hclaim : claimOffer offer code terms s = .ok (some t))
    (h : openHold env now req offer code terms t = .ok (outcome, s')) : Moves mode now s s' := by
  -- opening a hold, with the claim of its offer made just before
  unfold openHold at h
  simp only [bind_eq_ok, Except.ok.injEq, Prod.mk.injEq] at h
  obtain ⟨u, hanswers, v, hreserve, w, hinsert, -, rfl⟩ := h
  obtain ⟨attendees, rfl, hmoves⟩ := upsertPendingRegistrationAnswers_spec mode now hanswers
  obtain ⟨hinventory, rfl⟩ := reserveEventDiscountCodeAvailability_eq_ok.1 hreserve
  obtain ⟨-, haccepted, rfl⟩ := insertPurchase_eq_ok.1 hinsert
  have hpending : ∀ rows : List Purchase, ∃ ep ∈ rows ++ [newPurchase t.nextUuid now req offer code
      terms t.event], ep.userId = req.userId ∧ ep.status = .pending := fun rows ↦
    ⟨_, List.mem_append_right _ (List.mem_singleton_self _), rfl, rfl⟩
  cases offer with
  | none =>
    obtain rfl : s = t := by simpa [claimOffer] using hclaim
    obtain ⟨hoffers, hqueue, hroom⟩ := hmay.direct rfl
    have hopens : s.Opens now (newPurchase s.nextUuid now req none code terms s.event) :=
      newPurchase_opens (haccepted.congr rfl) hqueue hmay.notCanceled
    refine Relation.ReflTransGen.head (.openDirect hopens hmay.linked hoffers hroom
      (hmay.redemptions rfl) (reserveEventDiscountCodeAvailability_eq_ok.2 ⟨hinventory, rfl⟩))
      (hmoves _ rfl rfl rfl (hpending _) fun _ ↦ ?_)
    exact Enrollment.mayRevive fun _ ↦ hoffers
  | some ao =>
    obtain ⟨hao, hreserving, htier, huser⟩ := hmay.claimed ao rfl
    rcases updateAdmissionOffer_eq_ok hclaim fun _ ↦ rfl with
      ⟨hnone, -⟩ | ⟨row, hrow, hid, -, hfollows, haccepts, ht⟩
    · simp at hnone
    · obtain rfl : row = ao := eq_of_key_eq hwf.offerKeys hrow hao hid
      obtain rfl := Option.some.inj ht
      have hopens : s.Opens now (newPurchase s.nextUuid now req (some row) code terms s.event) :=
        newPurchase_opens (haccepted.congr rfl)
          (huser ▸ (haccepts.admits (by simp [AdmissionOffer.claim])).waitlist) hmay.notCanceled
      have hsnapshot : ∃ snapshot ∈ (row.claim terms code).snapshot,
          snapshot.Prices (newPurchase s.nextUuid now req (some row) code terms s.event) := by
        cases hpriced : row.snapshot with
        | none =>
          exact ⟨terms.snapshot code, by simp [AdmissionOffer.claim, hpriced],
            rfl, rfl, rfl, rfl, rfl⟩
        | some snapshot =>
          refine ⟨snapshot, hterms.claim_snapshot hpriced, ?_⟩
          rw [← (hterms row rfl snapshot hpriced).1]
          exact ⟨rfl, rfl, rfl, rfl, rfl⟩
      refine Relation.ReflTransGen.head (.openByOffer hopens hao hreserving hfollows rfl haccepts
        hmay.linked huser.symm htier.symm hsnapshot hmay.redemptions
        (reserveEventDiscountCodeAvailability_eq_ok.2 ⟨hinventory, rfl⟩) hclaims)
        (hmoves _ rfl rfl rfl (hpending _) fun hstrict ↦ ?_)
      exact Enrollment.mayRevive fun hhistory ↦ absurd (hrevive hstrict hhistory) (by simp)

omit mode in
/-- A committed reservation ends the replaced hold, and then fails to claim the offer or opens the
new hold. -/
theorem reserveCheckout_eq_ok {env : Env} {req : CheckoutRequest} {offer : Option AdmissionOffer}
    {code : Option String} {replaced : Option Purchase} {terms : CheckoutTerms}
    {outcome : CheckoutOutcome}
    (h : reserveCheckout env now req offer code replaced terms s = .ok (outcome, s')) :
    ∃ t : Enrollment,
      ((replaced = none ∧ t = s) ∨ ∃ ep ∈ replaced, expireHold now now ep s = .ok t)
      ∧ ((claimOffer offer code terms t = .ok none
          ∧ outcome = .conflict "admission-offer-unavailable" ∧ s' = t)
        ∨ ∃ u, claimOffer offer code terms t = .ok (some u)
          ∧ openHold env now req offer code terms u = .ok (outcome, s')) := by
  cases replaced with
  | none =>
    simp only [reserveCheckout, ok_bind, bind_eq_ok] at h
    obtain ⟨claimed, hclaimed, h⟩ := h
    refine ⟨s, .inl ⟨rfl, rfl⟩, ?_⟩
    cases claimed with
    | none =>
      simp only [Except.ok.injEq, Prod.mk.injEq] at h
      exact .inl ⟨hclaimed, h.1.symm, h.2.symm⟩
    | some u => exact .inr ⟨u, hclaimed, h⟩
  | some ep =>
    simp only [reserveCheckout, bind_eq_ok] at h
    obtain ⟨t, ht, claimed, hclaimed, h⟩ := h
    refine ⟨t, .inr ⟨ep, rfl, ht⟩, ?_⟩
    cases claimed with
    | none =>
      simp only [Except.ok.injEq, Prod.mk.injEq] at h
      exact .inl ⟨hclaimed, h.1.symm, h.2.symm⟩
    | some u => exact .inr ⟨u, hclaimed, h⟩

theorem reserveCheckout_moves {env : Env} {req : CheckoutRequest} {offer : Option AdmissionOffer}
    {code : Option String} {replaced : Option Purchase} {terms : CheckoutTerms}
    {outcome : CheckoutOutcome} (hwf : s.WellFormed) (hmay : s.MayOpen now req offer terms.price)
    (hterms : terms.Honors code offer) (hclaims : mode.claims)
    (hreplaced : ∀ ep ∈ replaced, ep ∈ s.purchases ∧ ep.status = .pending)
    (hrevive : mode.strict → s.HasInvitedHistory req.userId → offer = none)
    (h : reserveCheckout env now req offer code replaced terms s = .ok (outcome, s')) :
    Moves mode now s s' := by
  -- replacing the previous hold, claiming the offer and opening the new hold
  obtain ⟨t, hended, hclaimed⟩ := reserveCheckout_eq_ok h
  obtain ⟨hmoves, hfreed⟩ : Moves mode now s t ∧ s.Freed now t := by
    obtain ⟨-, rfl⟩ | ⟨ep, hmem, hexpire⟩ := hended
    · exact ⟨.refl, .refl t⟩
    · obtain ⟨hep, hpending⟩ := hreplaced ep hmem
      exact ⟨.single (expireHold_move mode hep hpending hexpire).1,
        expireHold_freed hep hpending hexpire⟩
  obtain ⟨-, -, rfl⟩ | ⟨u, hclaim, hopen⟩ := hclaimed
  · exact hmoves
  · refine hmoves.trans (openHold_moves mode (hmoves.wellFormed hwf) (hmay.freed hfreed) hterms
      hclaims (fun hstrict hhistory ↦ hrevive hstrict ?_) hclaim hopen)
    obtain ⟨hquestions, ea, hea, hrest⟩ := hhistory
    exact ⟨hfreed.event ▸ hquestions, ea, hfreed.attendees ea hea, hrest⟩

/-! ## Terms -/

theorem applyDiscountCode_redemptions {code : String} {priceMinor discount : ℤ} {id : Uuid}
    (h : applyDiscountCode now code priceMinor s = .ok (discount, id)) :
    s.HasRedemptionsLeft now (some id) := by
  unfold applyDiscountCode at h
  simp only [bind_eq_ok, require_eq_ok] at h
  obtain ⟨-, -, h⟩ := h
  split at h
  · simp at h
  · next edc hfind =>
    simp only [bind_eq_ok, require_eq_ok, Except.ok.injEq, Prod.mk.injEq] at h
    obtain ⟨-, -, -, hcap, -, -, -, rfl⟩ := h
    rintro id hid
    obtain rfl := Option.some.inj hid
    exact ⟨edc, List.mem_of_find?_eq_some hfind, rfl, hcap⟩

/-- Live pricing checks the queue, the seats of a direct checkout, and the cap of the code. -/
theorem prepareEventCheckoutValidateAndResolvePricing_spec {tier user : Uuid}
    {code : Option String} {offer : Option Uuid} {price : ResolvedPrice} (hwf : s.WellFormed)
    (h : prepareEventCheckoutValidateAndResolvePricing now tier user code offer s = .ok price) :
    (∀ ew ∈ s.waitlist, ew.userId ≠ user) ∧ (offer = none → s.HasRoom now tier)
      ∧ s.HasRedemptionsLeft now price.eventDiscountCodeId := by
  unfold prepareEventCheckoutValidateAndResolvePricing prepareEventCheckoutValidateAttendeeState
    at h
  simp only [bind_eq_ok, require_eq_ok] at h
  obtain ⟨-, ⟨-, -, -, -, hqueue⟩, -, -, h⟩ := h
  split at h
  · simp at h
  · next ett hfind =>
    have hid := List.find?_some hfind
    simp only [decide_eq_true_eq] at hid
    simp only [bind_eq_ok, require_eq_ok] at h
    obtain ⟨-, -, -, -, h⟩ := h
    split at h
    · simp at h
    · simp only [bind_eq_ok, require_eq_ok] at h
      obtain ⟨-, -, -, hroom, h⟩ := h
      refine ⟨fun ew hew huser ↦ hqueue ⟨ew, hew, huser⟩, fun hnone ↦ ?_, ?_⟩
      · rw [← hid]
        exact .of_allocated hwf (List.mem_of_find?_eq_some hfind)
          (hid ▸ hroom.resolve_left (not_not.2 hnone))
      · split at h
        · obtain rfl := Except.ok.inj h
          rintro id hnone
          simp at hnone
        · simp only [bind_eq_ok, Except.ok.injEq] at h
          obtain ⟨⟨discount, id⟩, hdiscount, rfl⟩ := h
          exact applyDiscountCode_redemptions hdiscount

theorem settleCheckoutPayment_terms {req : CheckoutRequest} {price : ResolvedPrice}
    {currencyCode : Option String} {terms : CheckoutTerms}
    (h : settleCheckoutPayment req price currencyCode s = .ok (.ok terms)) :
    terms.price = price ∧ (terms.currencyCode = currencyCode
      ∨ terms.currencyCode = none ∧ price.finalAmountMinor ≤ 0
        ∧ price.discountAmountMinor ≤ 0) := by
  unfold settleCheckoutPayment at h
  split at h
  · split at h
    · simp at h
    · simp at h
    · simp only [bind_eq_ok, Except.ok.injEq] at h
      obtain ⟨-, -, rfl⟩ := h
      exact ⟨rfl, .inl rfl⟩
  · next hfinal =>
    split at h
    · split at h
      · simp at h
      · split at h
        · simp at h
        · simp at h
        · simp only [Except.ok.injEq] at h
          subst h
          exact ⟨rfl, .inl rfl⟩
    · next hdiscount =>
      simp only [Except.ok.injEq] at h
      subst h
      exact ⟨rfl, .inr ⟨rfl, not_lt.1 hfinal, not_lt.1 hdiscount⟩⟩

/-- What is known of the offer that a checkout claims, or of the absence of one. -/
structure Enrollment.Selects (s : Enrollment) (now : Timestamp) (req : CheckoutRequest)
    (offer : Option AdmissionOffer) (code : Option String) : Prop where
  linked : req.admissionOfferId = offer.map (·.admissionOfferId)
  notCanceled : s.event.canceled = false
  direct : offer = none →
    ∀ ao ∈ s.admissionOffers, ao.userId = req.userId → ¬ ao.status.IsActive
  claimed : ∀ ao ∈ offer, ao ∈ s.admissionOffers ∧ ao.IsReserving now
    ∧ ao.eventTicketTypeId = req.eventTicketTypeId ∧ ao.userId = req.userId
  code : ∀ ao ∈ offer, ∀ snapshot ∈ ao.snapshot, code = normalizeCode snapshot.discountCode

theorem resolveCheckoutPrice_mayOpen {req : CheckoutRequest} {offer : Option AdmissionOffer}
    {code : Option String} {price : ResolvedPrice} {currencyCode : Option String}
    (hwf : s.WellFormed) (hselects : s.Selects now req offer code)
    (h : resolveCheckoutPrice now req offer code s = .ok (.ok (price, currencyCode))) :
    s.MayOpen now req offer price := by
  unfold resolveCheckoutPrice at h
  split at h
  · next snapshot hsnapshot =>
    simp only [Except.ok.injEq, Prod.mk.injEq] at h
    obtain ⟨rfl, -⟩ := h
    refine ⟨hselects.linked, hselects.notCanceled, fun hnone ↦ ?_, fun ao hao ↦ ?_, fun hnone ↦ ?_⟩
    · simp [hnone] at hsnapshot
    · exact hselects.claimed ao hao
    · simp [hnone] at hsnapshot
  · next hsnapshot =>
    split at h
    · next live hlive =>
      simp only [Except.ok.injEq, Prod.mk.injEq] at h
      obtain ⟨rfl, -⟩ := h
      obtain ⟨hqueue, hroom, hcap⟩ :=
        prepareEventCheckoutValidateAndResolvePricing_spec hwf hlive
      refine ⟨hselects.linked, hselects.notCanceled, fun hnone ↦ ?_, fun ao hao ↦ ?_, fun _ ↦ hcap⟩
      · exact ⟨hselects.direct hnone, hqueue, hroom (by rw [hselects.linked, hnone]; rfl)⟩
      · exact hselects.claimed ao hao
    · split at h <;> simp at h
    · simp at h

/-- The terms of a reclaimed offer are its snapshot, whatever the organizer charges by now. -/
theorem honors_of_settled {req : CheckoutRequest} {offer : Option AdmissionOffer}
    {code : Option String} {price : ResolvedPrice} {currencyCode : Option String}
    {terms : CheckoutTerms} (hvalid : ∀ ao ∈ offer, ao.Valid)
    (hcode : ∀ ao ∈ offer, ∀ snapshot ∈ ao.snapshot, code = normalizeCode snapshot.discountCode)
    (hprice : resolveCheckoutPrice now req offer code s = .ok (.ok (price, currencyCode)))
    (hsettled : settleCheckoutPayment req price currencyCode s = .ok (.ok terms)) :
    terms.Honors code offer := by
  rintro ao hao snapshot hsnapshot
  obtain rfl : offer = some ao := hao
  have hstored : ao.snapshot = some snapshot := hsnapshot
  simp only [resolveCheckoutPrice, Option.bind_some, hstored, Except.ok.injEq, Prod.mk.injEq]
    at hprice
  obtain ⟨rfl, rfl⟩ := hprice
  obtain ⟨hsame, hcurrency⟩ := settleCheckoutPayment_terms hsettled
  have hcurrency : terms.currencyCode = snapshot.currencyCode := by
    rcases hcurrency with hcurrency | ⟨hnone, hamount, hdiscount⟩
    · exact hcurrency
    · -- a snapshot that prices nothing has no currency either
      dsimp only at hamount hdiscount
      obtain ⟨-, -, hfree | ⟨-, hpriced⟩, -⟩ := (hvalid ao rfl).2.1 snapshot hstored
      · rw [hnone, hfree.2.2]
      · omega
  refine ⟨?_, hcode ao rfl snapshot hstored⟩
  rw [CheckoutTerms.snapshot, hsame, hcurrency]

/-! ## Preparing a checkout -/

omit mode in
theorem offerDiscountCode_eq_ok {ao : AdmissionOffer} {given code : Option String}
    {snapshot : PriceSnapshot} (hsnapshot : ao.snapshot = some snapshot)
    (h : offerDiscountCode ao given = .ok code) : code = normalizeCode snapshot.discountCode := by
  simp only [offerDiscountCode, hsnapshot, bind_eq_ok, Except.ok.injEq] at h
  exact h.choose_spec.2.symm

theorem openCheckout_moves {env : Env} {req : CheckoutRequest} {offer : Option AdmissionOffer}
    {code : Option String} {replaced : Option Purchase} {outcome : CheckoutOutcome}
    (hwf : s.WellFormed) (hselects : s.Selects now req offer code) (hclaims : mode.claims)
    (hreplaced : ∀ ep ∈ replaced, ep ∈ s.purchases ∧ ep.status = .pending)
    (hrevive : mode.strict → s.HasInvitedHistory req.userId → offer = none)
    (h : openCheckout env now req offer code replaced s = .ok (outcome, s')) :
    Moves mode now s s' := by
  unfold openCheckout at h
  simp only [bind_eq_ok] at h
  obtain ⟨-, -, resolved, hresolved, h⟩ := h
  split at h
  · simp only [Except.ok.injEq, Prod.mk.injEq] at h
    obtain ⟨-, rfl⟩ := h
    exact .refl
  · next price currencyCode =>
    simp only [bind_eq_ok] at h
    obtain ⟨settled, hsettled, h⟩ := h
    split at h
    · simp only [Except.ok.injEq, Prod.mk.injEq] at h
      obtain ⟨-, rfl⟩ := h
      exact .refl
    · next terms =>
      have hmay := resolveCheckoutPrice_mayOpen hwf hselects hresolved
      rw [← (settleCheckoutPayment_terms hsettled).1] at hmay
      have hterms : terms.Honors code offer :=
        honors_of_settled (fun ao hao ↦ hwf.offerValid ao (hselects.claimed ao hao).1)
          hselects.code hresolved hsettled
      exact reserveCheckout_moves mode hwf hmay hterms hclaims hreplaced hrevive h

theorem resumeCheckout_moves {env : Env} {req : CheckoutRequest} {offer : Option AdmissionOffer}
    {code : Option String} {outcome : CheckoutOutcome} (hwf : s.WellFormed)
    (hselects : s.Selects now req offer code) (hclaims : mode.claims)
    (hrevive : mode.strict → s.HasInvitedHistory req.userId → offer = none)
    (h : resumeCheckout env now req offer code s = .ok (outcome, s')) : Moves mode now s s' := by
  unfold resumeCheckout at h
  split at h
  · exact openCheckout_moves mode hwf hselects hclaims (by simp) hrevive h
  · next ep hfind =>
    have hep := List.mem_filter.1 (firstBy_mem hfind)
    obtain ⟨huser, -⟩ := of_decide_eq_true hep.2
    split at h
    · simp only [Except.ok.injEq, Prod.mk.injEq] at h
      obtain ⟨-, rfl⟩ := h
      exact .refl
    · next hpending =>
      have hpending := not_not.1 hpending
      split at h
      · simp only [bind_eq_ok, Except.ok.injEq, Prod.mk.injEq] at h
        obtain ⟨-, -, t, ht, -, rfl⟩ := h
        refine upsertPendingRegistrationAnswers_moves mode ht ⟨ep, hep.1, huser, hpending⟩
          fun hstrict ↦ Enrollment.mayRevive fun hhistory ↦ ?_
        exact hselects.direct (hrevive hstrict hhistory)
      · refine openCheckout_moves mode hwf hselects hclaims (fun row hrow ↦ ?_) hrevive h
        obtain rfl := Option.some.inj hrow
        exact ⟨hep.1, hpending⟩

/-- **Preparing a checkout is a run of moves**, strict unless it claims an offer of a user whose
canceled attendance was an invited one. -/
theorem prepareEventCheckoutPurchase_moves {env : Env} {req : CheckoutRequest}
    {outcome : CheckoutOutcome} (hwf : s.WellFormed) (hclaims : mode.claims)
    (hrevive : mode.strict → s.HasInvitedHistory req.userId → req.admissionOfferId = none)
    (h : prepareEventCheckoutPurchase env now req s = .ok (outcome, s')) :
    Moves mode now s s' := by
  unfold prepareEventCheckoutPurchase prepareEventCheckoutValidateEvent at h
  simp only [bind_eq_ok, require_eq_ok] at h
  obtain ⟨-, -, -, ⟨-, hopen, -⟩, ⟨promoted, t⟩, ht, h⟩ := h
  obtain ⟨hmoves, hreconciled⟩ := reconcileEventEnrollment_spec mode hwf ht
  have hwf' := hmoves.wellFormed hwf
  have hnotCanceled : t.event.canceled = false := hreconciled.event ▸ hopen.2.2.2.2.1
  have hrevive' : mode.strict → t.HasInvitedHistory req.userId → req.admissionOfferId = none := by
    rintro hstrict ⟨hquestions, ea, hea, hrest⟩
    exact hrevive hstrict ⟨hreconciled.event ▸ hquestions, ea, hreconciled.attendees ea hea, hrest⟩
  refine hmoves.trans ?_
  split at h
  · next hdirect =>
    split at h
    · simp only [Except.ok.injEq, Prod.mk.injEq] at h
      obtain ⟨-, rfl⟩ := h
      exact .refl
    · next hoffers =>
      refine resumeCheckout_moves mode hwf' ⟨hdirect, hnotCanceled, fun _ ao hao huser hactive ↦ ?_,
        by simp, by simp⟩ hclaims (fun _ _ ↦ rfl) h
      exact hoffers ⟨ao, hao, huser, hactive, hreconciled.unexpired ao hao hactive⟩
  · next id hid =>
    split at h
    · simp only [Except.ok.injEq, Prod.mk.injEq] at h
      obtain ⟨-, rfl⟩ := h
      exact .refl
    · next ao hfind =>
      have hselected := List.find?_some hfind
      simp only [decide_eq_true_eq] at hselected
      split at h
      · next hreserving =>
        simp only [bind_eq_ok] at h
        obtain ⟨code, hcode, h⟩ := h
        refine resumeCheckout_moves mode hwf' ⟨?_, hnotCanceled, by simp, fun row hrow ↦ ?_,
          fun row hrow snapshot hsnapshot ↦ ?_⟩ hclaims (fun hstrict hhistory ↦ ?_) h
        · rw [hid, Option.map_some, hselected.1]
        · obtain rfl := Option.some.inj hrow
          exact ⟨List.mem_of_find?_eq_some hfind, hreserving, hselected.2⟩
        · obtain rfl := Option.some.inj hrow
          exact offerDiscountCode_eq_ok hsnapshot hcode
        · have := hrevive' hstrict hhistory
          simp [hid] at this
      · simp only [Except.ok.injEq, Prod.mk.injEq] at h
        obtain ⟨-, rfl⟩ := h
        exact .refl

end

end Ocg
