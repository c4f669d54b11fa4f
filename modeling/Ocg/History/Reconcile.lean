import Ocg.History.Enrollment

/-!
# Reconciliation commits

Reconciliation writes offers: it returns abandoned claims and promotes queue heads. In a state whose
waiting users are quiet no such write is refused, so it commits; quiet histories reach such states
only. A payment reported late, a refund that fails late and a revived invitation are the steps that
are not quiet, and after the first of them reconciliation raises.

Each loop has a progress lemma about one iteration, under the invariants that its predecessors left.
-/

namespace Ocg

open Relational

/-- The state that reconciliation needs. -/
structure Enrollment.Ready (s : Enrollment) : Prop where
  wellFormed : s.WellFormed
  exclusive : s.Exclusive
  quiet : s.Quiet

variable {s t : Enrollment} (now : Timestamp)

variable {now} in
theorem Moves.ready (h : Moves .quiet now s t) (hs : s.Ready) : t.Ready :=
  preserved_of_reflTransGen h hs fun _ _ ⟨hwf, hexclusive, hquiet⟩ hmove ↦
    ⟨hmove.wellFormed hwf, hmove.exclusive hwf hexclusive, hmove.quiet hquiet⟩

/-! ## Due holds -/

theorem Enrollment.AcceptsPurchase.expire {ep : Purchase} (h : s.AcceptsPurchase ep)
    (hold : Timestamp) : s.AcceptsPurchase (ep.expire hold) where
  valid := { h.valid with
    completed := .inr (.inl (by simp [Purchase.expire])) }
  noRival row hrow hne hrivals := by
    have := hrivals.1
    simp [Purchase.expire] at this
  distinct := h.distinct

theorem expireHold_ok {ep : Purchase} (hwf : s.WellFormed) (hep : ep ∈ s.purchases)
    (hold : Timestamp) : ∃ t, expireHold now hold ep s = .ok t := by
  have htrigger : checkEventPurchaseAdmissionOffer (some ep) (ep.expire hold) s = .ok () := by
    unfold checkEventPurchaseAdmissionOffer
    rw [if_neg (by simp [Purchase.expire]), if_pos (.inr (by simp [Purchase.expire]))]
  have hwrite := writePurchase_eq_ok.2
    ⟨htrigger, (hwf.purchaseAccepted ep hep).expire hold, rfl⟩
  exact ⟨_, bind_eq_ok.2 ⟨_, hwrite, rfl⟩⟩

theorem expireDueHold_ok (hs : s.Ready) (due : Purchase) :
    ∃ t, expireDueHold now s due = .ok t ∧ t.Ready := by
  unfold expireDueHold
  split
  · exact ⟨s, rfl, hs⟩
  · next ep hfind =>
    have hep := List.mem_of_find?_eq_some hfind
    have hselected := List.find?_some hfind
    simp only [decide_eq_true_eq] at hselected
    obtain ⟨t, ht⟩ := expireHold_ok now hs.wellFormed hep (ep.holdEndedBy now)
    have hmove := (expireHold_move .quiet hep hselected.2 ht).1
    exact ⟨t, ht, Moves.ready (.single hmove) hs⟩

theorem expireDueHolds_ok (hs : s.Ready) : ∃ t, expireDueHolds now s = .ok t ∧ t.Ready :=
  foldlM_ok (P := fun _ ↦ Enrollment.Ready) (fun due _ _ ht ↦ expireDueHold_ok now ht due) hs

/-! ## Offers -/

theorem Enrollment.Ready.admitsOffer (hs : s.Ready) {ao : AdmissionOffer}
    (hao : ao ∈ s.admissionOffers) (hclaimed : ao.status = .checkoutPending)
    (hlive : ∀ ep ∈ s.purchases, ep.status = .pending → ep.HasLiveHold now)
    (habandoned : ¬ s.HasCheckout now ao) {status : OfferStatus} :
    s.AdmitsOffer { ao with status := status } where
  attendee ea hea huser hactive := by
  -- an abandoned claim may return to pending: its user owns nothing else
    have hactiveOffer : ao.status.IsActive := by simp [hclaimed]
    rcases AttendeeStatus.isActive_iff.1 hactive with hstatus | hstatus | hstatus
    · exact hs.exclusive.confirmedOffer ea hea hstatus ao hao huser.symm hactiveOffer
    · have := hs.wellFormed.attendeeStatus ea hea
      simp [hstatus] at this
    · -- the questionnaire row belongs to a pending purchase, which would be the claim's checkout
      have hmanual := hs.quiet.claimedAnswers ao hao hclaimed ea hea huser hstatus
      obtain ⟨ep, hep, hep_user, hpending⟩ := hs.exclusive.heldAnswers ea hea hstatus hmanual
      refine habandoned ⟨ep, hep, ?_, .inr (hlive ep hep hpending)⟩
      exact hs.quiet.excludedPurchase ao hao ep hep (hep_user.trans huser) (by simp [hpending])
        (.inl hclaimed)
  waitlist ew hew huser :=
    hs.exclusive.queuedOffer ew hew ao hao huser.symm (by simp [hclaimed])
  request eir heir huser hpending :=
    hs.exclusive.requestedOffer eir heir hpending ao hao huser.symm (by simp [hclaimed])
  purchase ep hep huser hconflicting :=
    hs.quiet.excludedPurchase ao hao ep hep huser hconflicting (.inl hclaimed)

theorem updateAdmissionOffer_ok (hwf : s.WellFormed) (id : Uuid) (selected : OfferStatus → Prop)
    [DecidablePred selected] (status : OfferStatus)
    (hstatus : status ∉ [OfferStatus.checkoutPending, .completed])
    (hwrite : ∀ ao ∈ s.admissionOffers, ao.admissionOfferId = id → selected ao.status →
      ao.status.MayBecome status
        ∧ (status.IsActive → s.AdmitsOffer { ao with status := status } ∧ ao.status.IsActive)) :
    ∃ updated, updateAdmissionOffer id selected (fun row ↦ { row with status := status }) s
      = .ok updated := by
  unfold updateAdmissionOffer
  split
  · exact ⟨none, rfl⟩
  · next ao hfind =>
    have hao := List.mem_of_find?_eq_some hfind
    have hselected := List.find?_some hfind
    simp only [decide_eq_true_eq] at hselected
    obtain ⟨hmay, hactive⟩ := hwrite ao hao hselected.1 hselected.2
    have hfollows : ({ ao with status := status } : AdmissionOffer).Follows ao :=
      ⟨rfl, ⟨rfl, rfl, rfl, rfl, rfl, rfl⟩, .inr rfl, hmay⟩
    have haccepts : s.AcceptsOffer { ao with status := status } :=
      ⟨fun h ↦ (hactive h).1, (hwf.offerValid ao hao).setStatus hstatus,
        fun h ↦ hwf.offerNoRival ao hao (hactive h).2⟩
    have hwrite := (writeAdmissionOffer_eq_ok hfollows.id).2 ⟨hfollows, haccepts, rfl⟩
    exact ⟨_, bind_eq_ok.2 ⟨_, hwrite, rfl⟩⟩

theorem settleOffer_ok (hs : s.Ready)
    (hlive : ∀ ep ∈ s.purchases, ep.status = .pending → ep.HasLiveHold now) {ao : AdmissionOffer}
    (hao : ao ∈ s.admissionOffers) (hactive : ao.status.IsActive) :
    ∃ t, settleOffer now s ao = .ok t := by
  have hsame : ∀ row ∈ s.admissionOffers, row.admissionOfferId = ao.admissionOfferId → row = ao :=
    fun row hrow hid ↦ eq_of_key_eq hs.wellFormed.offerKeys hrow hao hid
  unfold settleOffer
  split
  · obtain ⟨updated, hupdated⟩ := updateAdmissionOffer_ok hs.wellFormed ao.admissionOfferId
      (· = ao.status) .expired (by simp) fun row _ _ hstatus ↦ ⟨by
        rcases OfferStatus.isActive_iff.1 hactive with h | h <;>
          simp [OfferStatus.MayBecome, hstatus, h], by simp⟩
    exact ⟨_, bind_eq_ok.2 ⟨updated, hupdated, rfl⟩⟩
  · split
    · next habandoned =>
      obtain ⟨updated, hupdated⟩ := updateAdmissionOffer_ok hs.wellFormed ao.admissionOfferId
        (· = .checkoutPending) .pending (by simp) fun row hrow hid hstatus ↦
          ⟨by simp [OfferStatus.MayBecome, hstatus], fun _ ↦ by
            obtain rfl := hsame row hrow hid
            exact ⟨hs.admitsOffer now hrow hstatus hlive habandoned.2, hactive⟩⟩
      exact ⟨_, bind_eq_ok.2 ⟨updated, hupdated, rfl⟩⟩
    · exact ⟨s, rfl⟩

theorem settleOffers_ok (hs : s.Ready)
    (hlive : ∀ ep ∈ s.purchases, ep.status = .pending → ep.HasLiveHold now) :
    ∃ t, settleOffers now s = .ok t ∧ t.Ready := by
  -- the offer loop keeps purchases as the hold loop left them
  obtain ⟨t, ht, hsettled, -⟩ : ∃ t, settleOffers now s = .ok t ∧ Settling .quiet now s [] t
      ∧ ∀ ao ∈ ([] : List AdmissionOffer), ao.status.IsActive := by
    refine foldlM_ok
      (P := fun rest t ↦ Settling .quiet now s rest t ∧ ∀ ao ∈ rest, ao.status.IsActive) ?_ ?_
    · rintro ao rest t ⟨hsettling, hactive⟩
      have ht : t.Ready := hsettling.moves.ready hs
      obtain ⟨t', ht'⟩ := settleOffer_ok now ht (hsettling.books.purchases ▸ hlive)
        (hsettling.untouched ao (by simp)) (hactive ao (by simp))
      exact ⟨t', ht', settleOffer_spec .quiet hsettling ht.wellFormed ht', fun row hrow ↦
        hactive row (List.mem_cons_of_mem _ hrow)⟩
    · exact ⟨⟨.refl, .refl s, nodup_keys_filter hs.wellFormed.offerKeys _,
        fun ao hao ↦ (List.mem_filter.1 hao).1,
        fun ao hao hactive ↦ .inr (List.mem_filter.2 ⟨hao, decide_eq_true hactive⟩)⟩,
        fun ao hao ↦ of_decide_eq_true (List.mem_filter.1 hao).2⟩
  exact ⟨t, ht, hsettled.moves.ready hs⟩

/-! ## Promotion -/

theorem promote_ok (hs : s.Ready) {ett : TicketType} {head : WaitlistEntry}
    (hhead : queueHead ett.eventTicketTypeId s = some head)
    (hdeadline : now < promotionDeadline now s.event) : ∃ t, promote now ett head s = .ok t := by
  -- a queue head owns nothing that an offer conflicts with
  obtain ⟨hmem, htier⟩ := List.mem_filter.1 (firstBy_mem hhead)
  have htier := of_decide_eq_true htier
  have hqueued : s.waitlist ≠ [] := List.ne_nil_of_mem hmem
  unfold promote issueOffer
  refine ⟨_, insertAdmissionOffer_eq_ok.2 ⟨⟨fun _ ↦ ⟨?_, ?_, ?_, ?_⟩, ?_, ?_⟩, rfl⟩⟩
  · exact fun ea hea huser _ ↦ hs.exclusive.queuedAttendee head hmem ea hea huser
  · intro ew hew huser
    obtain ⟨hew, hkept⟩ := List.mem_filter.1 hew
    obtain rfl : ew = head := eq_of_key_eq hs.wellFormed.waitlistKeys hew hmem huser
    simp [htier] at hkept
  · intro eir heir
    have hmode := hs.exclusive.requestMode (List.ne_nil_of_mem heir)
    rw [hs.exclusive.queueMode hqueued] at hmode
    exact absurd hmode (by simp)
  · exact fun ep hep huser hconflicting ↦
      absurd hconflicting (hs.quiet.queuedPurchase head hmem ep hep huser)
  · exact ⟨hdeadline, by simp [newOffer], by simp [newOffer]⟩
  · exact fun _ ao hao huser hactive ↦
      absurd hactive (hs.exclusive.queuedOffer head hmem ao hao huser)

theorem fillTier_ok (provider : Option String) {ett : TicketType} (fuel : ℕ)
    (promoted : List Uuid) (hs : s.Ready) (hett : ett ∈ s.ticketTypes)
    (hnotCanceled : s.event.canceled = false) :
    ∃ st, fillTier now provider ett fuel (promoted, s) = .ok st := by
  induction fuel generalizing promoted s with
  | zero => exact ⟨_, rfl⟩
  | succ fuel ih =>
    rw [fillTier]
    split
    · exact ⟨_, rfl⟩
    · next head hpromotable =>
      obtain ⟨hfree, hhead, hdeadline⟩ := promotable_eq_some hpromotable
      obtain ⟨t, ht⟩ := promote_ok now hs hhead hdeadline
      have hfilled := promote_spec .quiet hs.wellFormed hett hfree hdeadline hnotCanceled ht
      obtain ⟨st, hst⟩ := ih (promoted ++ [head.userId]) (hfilled.moves.ready hs)
        (hfilled.books.ticketTypes ▸ hett) (hfilled.books.event ▸ hnotCanceled)
      exact ⟨st, bind_eq_ok.2 ⟨t, ht, hst⟩⟩

theorem fillTiers_ok {tier : Option Uuid} {provider : Option String} (hs : s.Ready)
    (hnotCanceled : s.event.canceled = false) : ∃ st, fillTiers now tier provider s = .ok st := by
  obtain ⟨st, hst, -⟩ : ∃ st, fillTiers now tier provider s = .ok st
      ∧ Filling .quiet now s st.2 ∧ ∀ ett ∈ ([] : List TicketType), ett ∈ s.ticketTypes := by
    refine foldlM_ok (s := (([] : List Uuid), s))
      (P := fun rest st ↦ Filling .quiet now s st.2 ∧ ∀ ett ∈ rest, ett ∈ s.ticketTypes) ?_ ?_
    · rintro ett rest ⟨promoted, t⟩ ⟨hfilling, hrest⟩
      have ht : t.Ready := hfilling.moves.ready hs
      have hett : ett ∈ t.ticketTypes := hfilling.books.ticketTypes ▸ hrest ett (by simp)
      have hopen : t.event.canceled = false := hfilling.books.event ▸ hnotCanceled
      obtain ⟨⟨promoted', t'⟩, hst⟩ :=
        fillTier_ok now provider t.waitlist.length promoted ht hett hopen
      exact ⟨_, hst, hfilling.trans (fillTier_spec .quiet _ ht.wellFormed hett hopen hst),
        fun row hrow ↦ hrest row (List.mem_cons_of_mem _ hrow)⟩
    · exact ⟨.refl .quiet s, fun ett hett ↦ (List.mem_filter.1 hett).1⟩
  exact ⟨st, hst⟩

/-! ## The whole -/

/-- **Reconciliation of a ready state commits.** -/
theorem reconcileEventEnrollment_ok (hs : s.Ready) (tier : Option Uuid) (provider : Option String)
    (htier : ∀ id ∈ tier, ∃ ett ∈ s.ticketTypes, ett.eventTicketTypeId = id) :
    ∃ promoted t, reconcileEventEnrollment now tier provider s = .ok (promoted, t) := by
  obtain ⟨swept, hswept, hswept_ready⟩ := expireDueHolds_ok now hs
  have hsweep := expireDueHolds_spec .quiet hs.wellFormed hswept
  obtain ⟨settled, hsettled, hsettled_ready⟩ := settleOffers_ok now hswept_ready
    fun ep hep hpending ↦ (hsweep.live ep hep hpending).resolve_right (by simp)
  have hfill : ∃ st, (if settled.AcceptsPromotion now then fillTiers now tier provider settled
      else .ok ([], settled)) = .ok st := by
    split
    · next haccepts => exact fillTiers_ok now hsettled_ready haccepts.1.2.1
    · exact ⟨_, rfl⟩
  obtain ⟨⟨promoted, t⟩, hst⟩ := hfill
  refine ⟨promoted, t, ?_⟩
  unfold reconcileEventEnrollment
  exact bind_eq_ok.2 ⟨(), require_of htier,
    bind_eq_ok.2 ⟨swept, hswept, bind_eq_ok.2 ⟨settled, hsettled, hst⟩⟩⟩

variable {now} in
theorem Database.ReachedQuietly.ready {db : Database} (h : db.ReachedQuietly now) : db.Ready :=
  ⟨h.reached.consistent.wellFormed, h.reached.consistent.exclusive, h.quiet⟩

/-- **In every quiet history reconciliation commits**, whenever it runs and for every tier; and
nobody who queues or holds an offer owns a direct purchase that the offer trigger refuses. -/
theorem reconcile_commits_of_reachedQuietly {now : Timestamp} {db : Database}
    (h : db.ReachedQuietly now) :
    (∀ (start : Timestamp) (provider : Option String) (tier : Option Uuid),
        (∀ id ∈ tier, ∃ ett ∈ db.ticketTypes, ett.eventTicketTypeId = id) →
        ∃ promoted s, reconcileEventEnrollment start tier provider db.toEnrollment
          = .ok (promoted, s))
      ∧ ∀ ep ∈ db.purchases, ep.admissionOfferId = none → ep.status.IsConflicting →
        ¬ db.IsQueued ep.userId
          ∧ ∀ ao ∈ db.admissionOffers, ao.userId = ep.userId → ¬ ao.status.IsActive := by
  have hready := h.ready
  refine ⟨fun start provider tier htier ↦
    reconcileEventEnrollment_ok start hready tier provider htier,
    fun ep hep hdirect hconflicting ↦ ⟨?_, fun ao hao huser hactive ↦ ?_⟩⟩
  · rintro ⟨ew, hew, huser⟩
    exact hready.quiet.queuedPurchase ew hew ep hep huser.symm hconflicting
  · have := hready.quiet.excludedPurchase ao hao ep hep huser.symm hconflicting
      (.inr ⟨hactive, hdirect⟩)
    simp [hdirect] at this

/-- The queue head of the sample tier is promoted once its seat is free. -/
theorem reconcile_commits_of_reachedQuietly_sample :
    ∃ db : Database, db.ReachedQuietly 2 ∧ db.IsQueued 8
      ∧ ∃ promoted s, reconcileEventEnrollment (hours 1) (some 1) (some "stripe") db.toEnrollment
        = .ok (promoted, s) := by
  obtain ⟨db, hdb, hqueued, htier⟩ := exists_reachedQuietly sampleEnv
    [(1, sampleCheckout 7 none none), (2, .attendEvent 1 8 none (some 1))] (.sample 1 [])
    (fun db ↦ db.IsQueued 8 ∧ ∃ ett ∈ db.ticketTypes, ett.eventTicketTypeId = 1)
    (by decide) (by decide +kernel)
  refine ⟨db, hdb, hqueued, (reconcile_commits_of_reachedQuietly hdb).1 _ _ _ fun id hid ↦ ?_⟩
  obtain rfl := Option.some.inj hid
  exact htier

/-- A payment is reported late while its user queues for another seat. When the seat is free the
user cannot be promoted, and reconciliation raises. -/
theorem reconcile_raises :
    ¬ ∀ (now start : Timestamp) (db : Database), db.ReachedInOrder now → now ≤ start →
      ∀ (provider : Option String), ∀ ett ∈ db.ticketTypes, ∃ promoted s,
        reconcileEventEnrollment start (some ett.eventTicketTypeId) provider db.toEnrollment
          = .ok (promoted, s) := by
  intro hall
  obtain ⟨db, hdb, ett, hett, hraises⟩ := exists_reachedInOrder sampleEnv
    [(0, sampleCheckout 7 none none),
      (1, .attachCheckoutSessionToEventPurchase 1 (sampleSession "cs_1") none true),
      (hours 1, sampleCheckout 8 none none),
      (hours 1, sampleCheckout 9 none none),
      (hours 1, .attendEvent 1 7 none (some 1)),
      (hours 1, .reconcileEventPurchaseForCheckoutSession (samplePayment "cs_1" "pi_1" "ch_1")),
      (hours 1, .cancelEventCheckout 1 8 none),
      (hours 1, .cancelEventCheckout 1 9 none)]
    (.sample 2 [])
    (fun db ↦ ∃ ett ∈ db.ticketTypes, (reconcileEventEnrollment (hours 1)
      (some ett.eventTicketTypeId) (some "stripe") db.toEnrollment).toOption = none)
    (by decide) (by decide) (by decide +kernel)
  obtain ⟨promoted, s, hcommits⟩ := hall _ (hours 1) db hdb le_rfl (some "stripe") ett hett
  simp [hcommits, Except.toOption] at hraises

end Ocg
