import Ocg.Transition.Lifecycle

/-!
# The life of an admission offer

An offer goes back and forth between waiting and checkout until it is completed, out of a checkout,
or closed. A run of moves that does not both claim and complete makes at most one of these changes.
The price of an offer is fixed by the first claim, and every purchase that claims it carries that
price: a purchase is compared with the snapshot when it is opened, and neither of them changes
afterwards.
-/

namespace Ocg

open Relational

/-! ## Statuses -/

/-- One status change of an offer. -/
inductive OfferStatus.Step : OfferStatus → OfferStatus → Prop
  | claim : Step .pending .checkoutPending
  | giveBack : Step .checkoutPending .pending
  | complete : Step .checkoutPending .completed
  | close {status status' : OfferStatus} (hactive : status.IsActive)
    (hclosed : status' ∈ [OfferStatus.canceled, .declined, .expired]) : Step status status'

/-- `admission_offer.status` of an offer that is settled. -/
def OfferStatus.IsTerminal (status : OfferStatus) : Prop :=
  status ∈ [OfferStatus.canceled, .completed, .declined, .expired]

theorem OfferStatus.Step.isActive {status status' : OfferStatus}
    (h : OfferStatus.Step status status') : status.IsActive := by
  cases h with
  | claim | giveBack | complete => simp
  | close hactive _ => exact hactive

theorem OfferStatus.IsTerminal.stays {status status' : OfferStatus} (h : status.IsTerminal)
    (hstep : status' = status ∨ OfferStatus.Step status status') : status' = status := by
  refine hstep.resolve_right fun hstep ↦ ?_
  rcases OfferStatus.isActive_iff.1 hstep.isActive with hactive | hactive <;>
    simp [OfferStatus.IsTerminal, hactive] at h

/-- What moves of the mode make of a status: at most one status change. -/
structure OfferStatus.Becomes (mode : MoveMode) (status status' : OfferStatus) : Prop where
  step : status' = status ∨ OfferStatus.Step status status'
  claimed : ¬ mode.claims → status' = .checkoutPending → status = .checkoutPending
  completed : ¬ mode.completes → status' = .completed → status = .completed

variable {mode : MoveMode}

theorem OfferStatus.Becomes.refl (status : OfferStatus) : status.Becomes mode status :=
  ⟨.inl rfl, fun _ ↦ id, fun _ ↦ id⟩

/-- Only a claim and a completion after it would make a change that is not one of the lifecycle. -/
theorem OfferStatus.Becomes.trans {status status' status'' : OfferStatus}
    (hmode : ¬ mode.claims ∨ ¬ mode.completes) (h : status.Becomes mode status')
    (h' : status'.Becomes mode status'') : status.Becomes mode status'' := by
  refine ⟨?_, fun hno hto ↦ h.claimed hno (h'.claimed hno hto),
    fun hno hto ↦ h.completed hno (h'.completed hno hto)⟩
  obtain rfl | hstep := h.step
  · exact h'.step
  obtain rfl | hstep' := h'.step
  · exact .inr hstep
  cases hstep with
  | claim =>
    cases hstep' with
    | giveBack => exact .inl rfl
    | complete =>
      rcases hmode with hno | hno
      · exact absurd (h.claimed hno rfl) (by decide)
      · exact absurd (h'.completed hno rfl) (by decide)
    | close _ hclosed => exact .inr (.close (by simp) hclosed)
  | giveBack =>
    cases hstep' with
    | claim => exact .inl rfl
    | close _ hclosed => exact .inr (.close (by simp) hclosed)
  | complete => exact absurd hstep'.isActive (by decide)
  | close _ hclosed =>
    have hended : status'.IsTerminal := by
      simp only [List.mem_cons, List.not_mem_nil, or_false] at hclosed
      rcases hclosed with rfl | rfl | rfl <;> simp [IsTerminal]
    exact hended.stays (.inr hstep') ▸ h.step

theorem OfferStatus.MayBecome.becomes {status status' : OfferStatus} (h : status.MayBecome status')
    (hclosed : status' ∈ [OfferStatus.canceled, .declined, .expired]) :
    status.Becomes mode status' := by
  refine ⟨?_, fun _ hto ↦ ?_, fun _ hto ↦ ?_⟩
  · rcases h with rfl | ⟨rfl, -⟩ | ⟨rfl, -⟩
    · exact .inl rfl
    · exact .inr (.close (by simp) hclosed)
    · exact .inr (.close (by simp) hclosed)
  · simp [hto] at hclosed
  · simp [hto] at hclosed

/-! ## Offers -/

/-- What moves of the mode may have made of an offer: its price stays once it is set. -/
structure AdmissionOffer.Succeeds (mode : MoveMode) (new ao : AdmissionOffer) : Prop where
  id : new.admissionOfferId = ao.admissionOfferId
  snapshot : ao.snapshot = none ∨ new.snapshot = ao.snapshot
  status : ao.status.Becomes mode new.status

theorem AdmissionOffer.Succeeds.refl (ao : AdmissionOffer) : ao.Succeeds mode ao :=
  ⟨rfl, .inr rfl, .refl _⟩

theorem AdmissionOffer.Succeeds.trans {ao ao' ao'' : AdmissionOffer}
    (hmode : ¬ mode.claims ∨ ¬ mode.completes) (h : ao'.Succeeds mode ao)
    (h' : ao''.Succeeds mode ao') : ao''.Succeeds mode ao := by
  refine ⟨h'.id.trans h.id, ?_, h.status.trans hmode h'.status⟩
  rcases h.snapshot with hnone | hsame
  · exact .inl hnone
  · exact h'.snapshot.imp (hsame ▸ ·) (·.trans hsame)

variable {s s' : Enrollment} {now : Timestamp} {effect : Effect}

theorem exists_succeeds_of_replaceRow {offers : List AdmissionOffer}
    (hkeys : (offers.map AdmissionOffer.admissionOfferId).Nodup) {ao new row : AdmissionOffer}
    (hao : ao ∈ offers) (hnew : new.Succeeds mode ao) (hrow : row ∈ offers) :
    ∃ row' ∈ replaceRow AdmissionOffer.admissionOfferId new offers, row'.Succeeds mode row := by
  by_cases hid : row.admissionOfferId = new.admissionOfferId
  · obtain rfl := eq_of_key_eq hkeys hrow hao (hid.trans hnew.id)
    exact ⟨new, new_mem_replaceRow hrow hid, hnew⟩
  · exact ⟨row, mem_replaceRow_of_ne hrow hid, .refl row⟩

/-- **No offer is lost, and each one moves on.** -/
theorem EnrollmentMove.offer_stays (hmove : EnrollmentMove mode now effect s s')
    (hwf : s.WellFormed) {ao : AdmissionOffer} (hao : ao ∈ s.admissionOffers) :
    ∃ new ∈ s'.admissionOffers, new.Succeeds mode ao := by
  cases hmove with
  | movePurchase _ _ _ _ | endCheckout _ _ _ _ _ _ _ =>
    rw [releaseIf_admissionOffers]
    exact ⟨ao, hao, .refl ao⟩
  | openDirect _ _ _ _ _ hreserve =>
    rw [(reserveEventDiscountCodeAvailability_eq_ok.1 hreserve).2]
    exact ⟨ao, hao, .refl ao⟩
  | openByOffer _ hclaimed hreserving hfollows hstatus _ _ _ _ _ _ _ hclaims =>
    refine exists_succeeds_of_replaceRow hwf.offerKeys hclaimed
      ⟨hfollows.id, hfollows.snapshot, ?_⟩ hao
    rw [hstatus]
    rcases OfferStatus.isActive_iff.1 hreserving.1 with hfrom | hfrom
    · rw [hfrom]
      exact .refl _
    · rw [hfrom]
      exact ⟨.inr .claim, fun hno _ ↦ absurd hclaims hno, by simp⟩
  | complete _ _ _ _ _ _ hoffers _ _ _ hcompletes =>
    rcases hoffers with ⟨-, rfl⟩ | ⟨row, hrow, -, hfrom, rfl⟩
    · exact ⟨ao, hao, .refl ao⟩
    · refine exists_succeeds_of_replaceRow hwf.offerKeys hrow ⟨rfl, .inr rfl, ?_⟩ hao
      rw [hfrom]
      exact ⟨.inr .complete, by simp, fun hno _ ↦ absurd hcompletes hno⟩
  | endOffer hrow hclosed hmay =>
    exact exists_succeeds_of_replaceRow hwf.offerKeys hrow ⟨rfl, .inr rfl, hmay.becomes hclosed⟩ hao
  | returnOffer hrow hfrom _ =>
    refine exists_succeeds_of_replaceRow hwf.offerKeys hrow ⟨rfl, .inr rfl, ?_⟩ hao
    rw [hfrom]
    exact ⟨.inr .giveBack, by simp, by simp⟩
  | issueOffer _ _ _ _ _ _ => exact ⟨ao, List.mem_append_left _ hao, .refl ao⟩
  | issueUuid _ | setPublished _ | setCanceled _ _ | leaveQueue _ | joinQueue _ _ _ _ _ _
  | addRequest _ _ _ | dropRequests _ | reviewRequests _ | holdAnswers _ _ _ _ _
  | reviveAnswers _ _ _ _ _ _ _ _ | editAnswers _ _ _ _ | cancelAttendance _ _
  | dropAttendees _ _ => exact ⟨ao, hao, .refl ao⟩

/-! ## Prices -/

/-- Every purchase of an offer carries the snapshot of the offer. -/
def Enrollment.SnapshotsPriced (s : Enrollment) : Prop :=
  ∀ ep ∈ s.purchases, ∀ ao ∈ s.admissionOffers, ep.admissionOfferId = some ao.admissionOfferId →
    ∃ snapshot ∈ ao.snapshot, snapshot.Prices ep

theorem PriceSnapshot.Prices.continues {snapshot : PriceSnapshot} {ep new : Purchase}
    (h : snapshot.Prices ep) (hnew : new.Continues ep) : snapshot.Prices new :=
  ⟨hnew.amount.trans h.amount, hnew.price.1.trans h.currency, hnew.price.2.1.trans h.discount,
    hnew.code.trans h.code, hnew.price.2.2.trans h.title⟩

theorem EnrollmentMove.offer_origin (hmove : EnrollmentMove mode now effect s s')
    {ao : AdmissionOffer} (hao : ao ∈ s'.admissionOffers) :
    (∃ old ∈ s.admissionOffers, ao.admissionOfferId = old.admissionOfferId
      ∧ (old.snapshot = none ∨ ao.snapshot = old.snapshot)) ∨ ao.admissionOfferId = s.nextUuid := by
  have hreplaced : ∀ {old new : AdmissionOffer}, old ∈ s.admissionOffers →
      new.admissionOfferId = old.admissionOfferId →
      (old.snapshot = none ∨ new.snapshot = old.snapshot) →
      ao ∈ replaceRow AdmissionOffer.admissionOfferId new s.admissionOffers →
      ∃ old ∈ s.admissionOffers, ao.admissionOfferId = old.admissionOfferId
        ∧ (old.snapshot = none ∨ ao.snapshot = old.snapshot) := by
    intro old new hold hid hsnapshot hao
    rcases mem_replaceRow hao with rfl | ⟨hao, -⟩
    · exact ⟨old, hold, hid, hsnapshot⟩
    · exact ⟨ao, hao, rfl, .inr rfl⟩
  cases hmove with
  | movePurchase _ _ _ _ | endCheckout _ _ _ _ _ _ _ =>
    rw [releaseIf_admissionOffers] at hao
    exact .inl ⟨ao, hao, rfl, .inr rfl⟩
  | openDirect _ _ _ _ _ hreserve =>
    rw [(reserveEventDiscountCodeAvailability_eq_ok.1 hreserve).2] at hao
    exact .inl ⟨ao, hao, rfl, .inr rfl⟩
  | openByOffer _ hold _ hfollows _ _ _ _ _ _ _ _ =>
    exact .inl (hreplaced hold hfollows.id hfollows.snapshot hao)
  | complete _ _ _ _ _ _ hoffers _ _ _ =>
    rcases hoffers with ⟨-, rfl⟩ | ⟨row, hrow, -, -, rfl⟩
    · exact .inl ⟨ao, hao, rfl, .inr rfl⟩
    · exact .inl (hreplaced hrow (by rfl) (.inr (by rfl)) hao)
  | endOffer hold _ _ => exact .inl (hreplaced hold (by rfl) (.inr (by rfl)) hao)
  | returnOffer hold _ _ => exact .inl (hreplaced hold (by rfl) (.inr (by rfl)) hao)
  | issueOffer hid _ _ _ _ _ =>
    rcases List.mem_append.1 hao with hao | hao
    · exact .inl ⟨ao, hao, rfl, .inr rfl⟩
    · exact .inr (List.mem_singleton.1 hao ▸ hid)
  | issueUuid _ | setPublished _ | setCanceled _ _ | leaveQueue _ | joinQueue _ _ _ _ _ _
  | addRequest _ _ _ | dropRequests _ | reviewRequests _ | holdAnswers _ _ _ _ _
  | reviveAnswers _ _ _ _ _ _ _ _ | editAnswers _ _ _ _ | cancelAttendance _ _
  | dropAttendees _ _ => exact .inl ⟨ao, hao, rfl, .inr rfl⟩

/-- **Every claim pays the first price.** -/
theorem EnrollmentMove.snapshotsPriced (hmove : EnrollmentMove mode now effect s s')
    (hwf : s.WellFormed) (h : s.SnapshotsPriced) : s'.SnapshotsPriced := by
  -- a purchase from before the move keeps its price, and so does its offer
  have hkept : ∀ {row ep : Purchase} {ao : AdmissionOffer}, ep ∈ s.purchases → row.Continues ep →
      ao ∈ s'.admissionOffers → row.admissionOfferId = some ao.admissionOfferId →
      ∃ snapshot ∈ ao.snapshot, snapshot.Prices row := by
    intro row ep ao hep hcontinues hao hlinked
    rw [hcontinues.offer] at hlinked
    rcases hmove.offer_origin hao with ⟨old, hold, hid, hsnapshot⟩ | hissued
    · obtain ⟨snapshot, hstored, hprices⟩ := h ep hep old hold (hid ▸ hlinked)
      rcases hsnapshot with hnone | hsame
      · simp [hnone] at hstored
      · exact ⟨snapshot, hsame ▸ hstored, hprices.continues hcontinues⟩
    · obtain ⟨old, hold, hid, -⟩ := hwf.linked ep hep ao.admissionOfferId hlinked
      exact absurd (hwf.offerIssued old hold) (by rw [hid, hissued]; exact lt_irrefl _)
  have hreplaced : ∀ {ep new : Purchase}, ep ∈ s.purchases → new.Continues ep →
      ∀ row ∈ replaceRow Purchase.eventPurchaseId new s.purchases, ∀ ao ∈ s'.admissionOffers,
      row.admissionOfferId = some ao.admissionOfferId →
      ∃ snapshot ∈ ao.snapshot, snapshot.Prices row := by
    intro ep new hep hcontinues row hrow ao hao
    rcases mem_replaceRow hrow with rfl | ⟨hrow, -⟩
    · exact hkept hep hcontinues hao
    · exact hkept hrow (.refl row) hao
  intro row hrow ao hao hlinked
  cases hmove with
  | movePurchase hep hcontinues _ _ | endCheckout _ hep hcontinues _ _ _ _ =>
    rw [releaseIf_purchases] at hrow
    exact hreplaced hep hcontinues row hrow ao hao hlinked
  | complete hep hcontinues _ _ _ _ _ _ _ _ =>
    exact hreplaced hep hcontinues row hrow ao hao hlinked
  | openDirect _ hdirect _ _ _ _ =>
    rcases List.mem_append.1 hrow with hrow | hrow
    · exact hkept hrow (.refl row) hao hlinked
    · rw [List.mem_singleton.1 hrow, hdirect] at hlinked
      simp at hlinked
  | openByOffer _ hold _ hfollows _ _ hopened _ _ hsnapshot _ _ =>
    rcases List.mem_append.1 hrow with hrow | hrow
    · exact hkept hrow (.refl row) hao hlinked
    · obtain rfl := List.mem_singleton.1 hrow
      have hid := Option.some.inj (hopened.symm.trans hlinked)
      rcases mem_replaceRow hao with rfl | ⟨-, hne⟩
      · exact hsnapshot
      · exact absurd (hid.symm.trans hfollows.id.symm) hne
  | issueUuid _ | setPublished _ | setCanceled _ _ | endOffer _ _ _ | returnOffer _ _ _
  | issueOffer _ _ _ _ _ _ | leaveQueue _ | joinQueue _ _ _ _ _ _ | addRequest _ _ _
  | dropRequests _ | reviewRequests _ | holdAnswers _ _ _ _ _ | reviveAnswers _ _ _ _ _ _ _ _
  | editAnswers _ _ _ _ | cancelAttendance _ _ | dropAttendees _ _ =>
    exact hkept hrow (.refl row) hao hlinked

end Ocg
