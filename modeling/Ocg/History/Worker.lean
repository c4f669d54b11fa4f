import Ocg.Enrollment.Worker
import Ocg.System

/-!
# Background reconciliation makes progress

The selection of `reconcile_next_event_enrollment` restates, as one condition, what the three loops
of `reconcile_event_enrollment` act on. Each loop is shown to leave nothing of its part of the
condition behind: no hold that ran out, no active offer past its deadline, and in every public tier
no queue head that could still be promoted. A reconciled event is therefore not due at the same
time, and the rules for working off due rows apply to the worker.

Nothing is assumed of the tables beyond their keys.
-/

namespace Ocg

open Relational

variable {now : Timestamp} {provider : Option String} {s s' : Enrollment}

/-! ## Holds and offers -/

/-- A purchase that runs out later than now, or does not wait for a payment. -/
def Purchase.IsUnexpired (now : Timestamp) (ep : Purchase) : Prop :=
  ep.status = .pending → ∀ hold ∈ ep.holdExpiresAt, now < hold

/-- Two states of one event that differ in rows that the loops may write. -/
structure SameEvent (s t : Enrollment) : Prop where
  event : t.event = s.event
  group : t.group = s.group
  ticketTypes : t.ticketTypes = s.ticketTypes

theorem SameEvent.trans {t u : Enrollment} (h : SameEvent s t) (h' : SameEvent t u) :
    SameEvent s u :=
  ⟨h'.event.trans h.event, h'.group.trans h.group, h'.ticketTypes.trans h.ticketTypes⟩

/-- The hold loop while the rows `rest` are still to come. -/
structure HoldLoop (now : Timestamp) (s : Enrollment) (rest : List Purchase) (t : Enrollment) :
    Prop where
  same : SameEvent s t
  keyed : t.Keyed
  unexpired : ∀ ep ∈ t.purchases, ep.IsUnexpired now
    ∨ ∃ due ∈ rest, due.eventPurchaseId = ep.eventPurchaseId

theorem Enrollment.Keyed.expireHold (hs : s.Keyed) {hold : Timestamp} {ep : Purchase}
    (hep : ep ∈ s.purchases) (h : expireHold now hold ep s = .ok s') :
    SameEvent s s' ∧ s'.Keyed
      ∧ s'.purchases = replaceRow Purchase.eventPurchaseId (ep.expire hold) s.purchases := by
  unfold Ocg.expireHold at h
  simp only [bind_eq_ok, writePurchase_eq_ok, Except.ok.injEq] at h
  obtain ⟨t, ⟨-, -, rfl⟩, rfl⟩ := h
  refine ⟨⟨rfl, rfl, rfl⟩, { hs with linked := fun other hother id hid ↦ ?_ }, rfl⟩
  rcases mem_replaceRow hother with rfl | ⟨hother, -⟩
  · exact hs.linked ep hep id hid
  · exact hs.linked other hother id hid

theorem HoldLoop.step {due : Purchase} {rest : List Purchase} {t t' : Enrollment}
    (h : HoldLoop now s (due :: rest) t) (ht : expireDueHold now t due = .ok t') :
    HoldLoop now s rest t' := by
  unfold expireDueHold at ht
  split at ht
  · next hfind =>
    obtain rfl := Except.ok.inj ht
    refine ⟨h.same, h.keyed, fun ep hep ↦ ?_⟩
    rcases h.unexpired ep hep with hlive | ⟨row, hrow, hid⟩
    · exact .inl hlive
    rcases List.mem_cons.1 hrow with rfl | hrow
    · -- the row of this turn is no longer pending
      refine .inl fun hpending ↦ ?_
      have := List.find?_eq_none.1 hfind ep hep
      simp [hid, hpending] at this
    · exact .inr ⟨row, hrow, hid⟩
  · next ep hfind =>
    have hselected := List.find?_some hfind
    simp only [decide_eq_true_eq] at hselected
    obtain ⟨hsame, hkeyed, hpurchases⟩ :=
      h.keyed.expireHold (List.mem_of_find?_eq_some hfind) ht
    refine ⟨h.same.trans hsame, hkeyed, fun other hother ↦ ?_⟩
    rw [hpurchases] at hother
    rcases mem_replaceRow hother with rfl | ⟨hother, hne⟩
    · exact .inl fun hpending ↦ by simp [Purchase.expire] at hpending
    rcases h.unexpired other hother with hlive | ⟨row, hrow, hid⟩
    · exact .inl hlive
    rcases List.mem_cons.1 hrow with rfl | hrow
    · exact absurd (hid.symm.trans hselected.1.symm) hne
    · exact .inr ⟨row, hrow, hid⟩

theorem expireDueHolds_unexpired (hs : s.Keyed) (h : expireDueHolds now s = .ok s') :
    HoldLoop now s [] s' := by
  -- after the hold loop no pending purchase has run out
  refine foldlM_suffix (P := HoldLoop now s) (fun _ _ _ _ ht hstep ↦ ht.step hstep)
    ⟨⟨rfl, rfl, rfl⟩, hs, fun ep hep ↦ ?_⟩ h
  by_cases hdue : s.HoldIsDue now ep
  · exact .inr ⟨ep, List.mem_filter.2 ⟨hep, decide_eq_true hdue⟩, rfl⟩
  · exact .inl fun hpending hold hmem ↦
      not_le.1 fun hle ↦ hdue ⟨hpending, .inl ⟨hold, hmem, hle⟩⟩

/-- The offer loop while the rows `rest` of its snapshot are still to come. -/
structure OfferLoop (now : Timestamp) (s : Enrollment) (rest : List AdmissionOffer)
    (t : Enrollment) : Prop where
  same : SameEvent s t
  keyed : t.Keyed
  purchases : t.purchases = s.purchases
  untouched : ∀ ao ∈ rest, ao ∈ t.admissionOffers
  distinct : (rest.map AdmissionOffer.admissionOfferId).Nodup
  unexpired : ∀ ao ∈ t.admissionOffers, ¬ ao.IsDue now ∨ ao ∈ rest

theorem Enrollment.Keyed.replaceOffer (hs : s.Keyed) {ao new : AdmissionOffer}
    (hao : ao ∈ s.admissionOffers) (hid : new.admissionOfferId = ao.admissionOfferId) :
    ({ s with
      admissionOffers := replaceRow AdmissionOffer.admissionOfferId new s.admissionOffers } :
      Enrollment).Keyed := by
  refine { hs with
    offers := by simpa using hs.offers
    issued := fun row hrow ↦ ?_
    linked := fun ep hep id hlink ↦ ?_ }
  · rcases mem_replaceRow hrow with rfl | ⟨hrow, -⟩
    · exact hid ▸ hs.issued ao hao
    · exact hs.issued row hrow
  · have hkeys : (replaceRow AdmissionOffer.admissionOfferId new s.admissionOffers).map
        AdmissionOffer.admissionOfferId = s.admissionOffers.map AdmissionOffer.admissionOfferId :=
      map_key_replaceRow new s.admissionOffers
    obtain ⟨row, hrow, rfl⟩ := hs.linked ep hep id hlink
    have hmem : row.admissionOfferId
        ∈ (replaceRow AdmissionOffer.admissionOfferId new s.admissionOffers).map
          AdmissionOffer.admissionOfferId := hkeys ▸ List.mem_map_of_mem hrow
    obtain ⟨row', hrow', heq⟩ := List.mem_map.1 hmem
    exact ⟨row', hrow', heq⟩

/-- One turn of the offer loop replaces its row by one that is not due, or leaves it alone and not
due. -/
theorem settleOffer_eq_ok {ao : AdmissionOffer} (hs : s.Keyed) (hao : ao ∈ s.admissionOffers)
    (h : settleOffer now s ao = .ok s') :
    (s' = s ∧ ¬ ao.IsDue now) ∨ ∃ new : AdmissionOffer, ¬ new.IsDue now
      ∧ new.admissionOfferId = ao.admissionOfferId ∧ s' = { s with
        admissionOffers := replaceRow AdmissionOffer.admissionOfferId new s.admissionOffers } := by
  unfold settleOffer at h
  split at h
  · simp only [bind_eq_ok, Except.ok.injEq] at h
    obtain ⟨updated, hupdated, rfl⟩ := h
    rcases updateAdmissionOffer_eq_ok hupdated fun _ ↦ rfl with
      ⟨-, hnone⟩ | ⟨row, hrow, hid, -, -, -, rfl⟩
    · exact absurd rfl (hnone ao hao rfl)
    · exact .inr ⟨{ row with status := .expired }, by simp [AdmissionOffer.IsDue], hid, rfl⟩
  · next hlive =>
    split at h
    · simp only [bind_eq_ok, Except.ok.injEq] at h
      obtain ⟨updated, hupdated, rfl⟩ := h
      rcases updateAdmissionOffer_eq_ok hupdated fun _ ↦ rfl with
        ⟨rfl, -⟩ | ⟨row, hrow, hid, -, -, -, rfl⟩
      · exact .inl ⟨rfl, fun hdue ↦ hlive hdue.2⟩
      · have hsame : row = ao := eq_of_key_eq hs.offers hrow hao hid
        refine .inr ⟨{ row with status := .pending }, fun hdue ↦ hlive ?_, hid, rfl⟩
        exact hsame ▸ hdue.2
    · obtain rfl := Except.ok.inj h
      exact .inl ⟨rfl, fun hdue ↦ hlive hdue.2⟩

theorem OfferLoop.step {ao : AdmissionOffer} {rest : List AdmissionOffer} {t t' : Enrollment}
    (h : OfferLoop now s (ao :: rest) t) (ht : settleOffer now t ao = .ok t') :
    OfferLoop now s rest t' := by
  have hao := h.untouched ao (by simp)
  have hdistinct := h.distinct
  rw [List.map_cons, List.nodup_cons] at hdistinct
  rcases settleOffer_eq_ok h.keyed hao ht with ⟨rfl, hnotDue⟩ | ⟨new, hnotDue, hid, rfl⟩
  · refine ⟨h.same, h.keyed, h.purchases, fun row hrow ↦ h.untouched row (by simp [hrow]),
      hdistinct.2, fun row hrow ↦ ?_⟩
    rcases h.unexpired row hrow with hlive | hmem
    · exact .inl hlive
    rcases List.mem_cons.1 hmem with rfl | hmem
    · exact .inl hnotDue
    · exact .inr hmem
  · refine ⟨h.same.trans ⟨rfl, rfl, rfl⟩, h.keyed.replaceOffer hao hid, h.purchases,
      fun row hrow ↦ ?_, hdistinct.2, fun row hrow ↦ ?_⟩
    · refine mem_replaceRow_of_ne (h.untouched row (by simp [hrow])) fun heq ↦ hdistinct.1 ?_
      rw [← hid, ← heq]
      exact List.mem_map_of_mem hrow
    · rcases mem_replaceRow hrow with rfl | ⟨hrow, hne⟩
      · exact .inl hnotDue
      rcases h.unexpired row hrow with hlive | hmem
      · exact .inl hlive
      · refine .inr ((List.mem_cons.1 hmem).resolve_left ?_)
        rintro rfl
        exact hne hid.symm

theorem settleOffers_unexpired (hs : s.Keyed) (h : settleOffers now s = .ok s') :
    OfferLoop now s [] s' := by
  -- after the offer loop no active offer has reached its deadline
  refine foldlM_suffix (P := OfferLoop now s) (fun _ _ _ _ ht hstep ↦ ht.step hstep)
    ⟨⟨rfl, rfl, rfl⟩, hs, rfl, fun ao hao ↦ (List.mem_filter.1 hao).1,
      nodup_keys_filter hs.offers _, fun ao hao ↦ ?_⟩ h
  by_cases hdue : ao.IsDue now
  · exact .inr (List.mem_filter.2 ⟨hao, decide_eq_true hdue.1⟩)
  · exact .inl hdue

/-! ## Queues -/

theorem Enrollment.AcceptsPromotion.deadline (h : s.AcceptsPromotion now) :
    now < promotionDeadline now s.event := by
  -- while the event accepts promotions, the deadline of a promoted offer lies ahead
  obtain ⟨⟨-, -, -, -, hstarts⟩, -, hwindow⟩ := h
  have hday : now < now + hours 24 := Int.lt_add_of_pos_right now (by decide)
  have hends : now < boundedBy (now + hours 24) s.event.registrationEndsAt := by
    cases hend : s.event.registrationEndsAt with
    | none => exact hday
    | some t =>
      rw [hend] at hwindow
      exact lt_min hday (by simpa using hwindow)
  unfold promotionDeadline
  cases hstart : s.event.startsAt with
  | none => exact hends
  | some t => exact lt_min hends (hstarts t (hstart ▸ rfl))

/-- What a turn for the tier `tier` does: the head leaves its queue and gets an unexpired offer. -/
structure Promotes (now : Timestamp) (tier : Uuid) (head : WaitlistEntry) (s t : Enrollment) :
    Prop where
  waitlist : t.waitlist = s.waitlist.filter fun ew ↦
    ¬ (ew.userId = head.userId ∧ ew.eventTicketTypeId = tier)
  issued : ∃ ao : AdmissionOffer, ao.admissionOfferId = s.nextUuid ∧ ao.eventTicketTypeId = tier
    ∧ ¬ ao.IsDue now ∧ t.admissionOffers = s.admissionOffers ++ [ao]
  purchases : t.purchases = s.purchases
  same : SameEvent s t
  keyed : t.Keyed

theorem promote_promotes {ett : TicketType} {head : WaitlistEntry} (hs : s.Keyed)
    (hdeadline : now < promotionDeadline now s.event) (h : promote now ett head s = .ok s') :
    Promotes now ett.eventTicketTypeId head s s' := by
  unfold promote issueOffer at h
  rw [insertAdmissionOffer_eq_ok] at h
  obtain ⟨-, rfl⟩ := h
  refine ⟨rfl, ⟨_, rfl, rfl, fun hdue ↦ absurd hdue.2 (not_le.2 hdeadline), rfl⟩, rfl,
    ⟨rfl, rfl, rfl⟩, ?_, hs.ticketTypes, fun ao hao ↦ ?_, fun ep hep id hid ↦ ?_⟩
  · exact nodup_keys_append hs.offers fun ao hao ↦ (hs.issued ao hao).ne
  · rcases List.mem_append.1 hao with hao | hao
    · exact (hs.issued ao hao).trans (Nat.lt_succ_self _)
    · rw [List.mem_singleton.1 hao]
      exact Nat.lt_succ_self _
  · obtain ⟨ao, hao, heq⟩ := hs.linked ep hep id hid
    exact ⟨ao, List.mem_append_left _ hao, heq⟩

namespace Promotes

variable {tier other : Uuid} {head : WaitlistEntry}

theorem reserving_iff (h : Promotes now tier head s s') (hs : s.Keyed) {ep : Purchase}
    (hep : ep ∈ s.purchases) : s'.HasReservingOffer now ep ↔ s.HasReservingOffer now ep := by
  -- no stored purchase is linked to the offer that was just issued
  obtain ⟨new, hid, -, -, hoffers⟩ := h.issued
  unfold Enrollment.HasReservingOffer
  rw [hoffers]
  constructor
  · rintro ⟨ao, hao, hlink, hreserving⟩
    refine ⟨ao, (List.mem_append.1 hao).resolve_right fun hnew ↦ ?_, hlink, hreserving⟩
    rw [List.mem_singleton.1 hnew, hid] at hlink
    obtain ⟨old, hold, heq⟩ := hs.linked ep hep s.nextUuid hlink.symm
    exact absurd heq (hs.issued old hold).ne
  · rintro ⟨ao, hao, hlink⟩
    exact ⟨ao, List.mem_append_left _ hao, hlink⟩

theorem allocated_eq (h : Promotes now tier head s s') (hs : s.Keyed) (hne : other ≠ tier) :
    allocatedSeatCount now other s' = allocatedSeatCount now other s := by
  have hpurchases := h.purchases
  have hfilter : (s'.purchases.filter fun ep ↦ ep.eventTicketTypeId = other
        ∧ (ep.status.IsSeated ∨ ep.HasLiveHold now) ∧ ¬ s'.HasReservingOffer now ep)
      = s.purchases.filter fun ep ↦ ep.eventTicketTypeId = other
        ∧ (ep.status.IsSeated ∨ ep.HasLiveHold now) ∧ ¬ s.HasReservingOffer now ep := by
    rw [hpurchases]
    exact List.filter_congr fun ep hep ↦ by simp only [h.reserving_iff hs hep]
  obtain ⟨new, -, htier, -, hoffers⟩ := h.issued
  have hcount : (s'.admissionOffers.countP fun ao ↦ ao.eventTicketTypeId = other
        ∧ ao.IsReserving now)
      = s.admissionOffers.countP fun ao ↦ ao.eventTicketTypeId = other ∧ ao.IsReserving now := by
    rw [hoffers, List.countP_append]
    simp [htier, hne.symm]
  unfold allocatedSeatCount
  rw [hfilter, hcount]

theorem queueHead_eq (h : Promotes now tier head s s') (hne : other ≠ tier) :
    queueHead other s' = queueHead other s := by
  unfold queueHead
  rw [h.waitlist, List.filter_filter]
  congr 1
  refine List.filter_congr fun ew _ ↦ ?_
  by_cases hew : ew.eventTicketTypeId = other
  · simp [hew, hne]
  · simp [hew]

theorem promotable_eq (h : Promotes now tier head s s') (hs : s.Keyed) {ett : TicketType}
    (hne : ett.eventTicketTypeId ≠ tier) :
    promotable now provider ett s' = promotable now provider ett s := by
  have hready : PaymentReady provider s' ↔ PaymentReady provider s := by
    unfold PaymentReady
    rw [h.same.event, h.same.group]
  unfold promotable
  rw [h.allocated_eq hs hne, h.queueHead_eq hne, h.same.event]
  simp only [hready]

theorem length_lt (h : Promotes now tier head s s') (hhead : queueHead tier s = some head) :
    s'.waitlist.length < s.waitlist.length := by
  have hmem := List.mem_filter.1 (firstBy_mem hhead)
  rw [h.waitlist]
  refine List.length_filter_lt_length_iff_exists.2 ⟨head, hmem.1, ?_⟩
  simpa using hmem.2

end Promotes

/-- The loops over tiers. `settled` are the tiers from whose queues nothing is left to promote. -/
structure TierLoop (now : Timestamp) (provider : Option String) (s : Enrollment)
    (settled : TicketType → Prop) (t : Enrollment) : Prop where
  same : SameEvent s t
  keyed : t.Keyed
  purchases : t.purchases = s.purchases
  unexpired : ∀ ao ∈ t.admissionOffers, ¬ ao.IsDue now
  exhausted : ∀ ett, settled ett → promotable now provider ett t = none

/-- Promotions for one tier keep the others exhausted. -/
theorem TierLoop.promote {settled : TicketType → Prop} {ett : TicketType} {head : WaitlistEntry}
    {t t' : Enrollment} (h : TierLoop now provider s settled t)
    (hothers : ∀ other, settled other → other.eventTicketTypeId ≠ ett.eventTicketTypeId)
    (ht : Promotes now ett.eventTicketTypeId head t t') : TierLoop now provider s settled t' := by
  refine ⟨h.same.trans ht.same, ht.keyed, ht.purchases.trans h.purchases, fun ao hao ↦ ?_,
    fun other hother ↦ ?_⟩
  · obtain ⟨new, -, -, hnotDue, hoffers⟩ := ht.issued
    rw [hoffers] at hao
    rcases List.mem_append.1 hao with hao | hao
    · exact h.unexpired ao hao
    · exact List.mem_singleton.1 hao ▸ hnotDue
  · rw [ht.promotable_eq h.keyed (hothers other hother)]
    exact h.exhausted other hother

/-- **The loop over one tier exhausts its queue**, and keeps the tiers before it exhausted. -/
theorem fillTier_exhausts {settled : TicketType → Prop} {ett : TicketType} (fuel : ℕ)
    {promoted promoted' : List Uuid} {t t' : Enrollment} (h : TierLoop now provider s settled t)
    (hothers : ∀ other, settled other → other.eventTicketTypeId ≠ ett.eventTicketTypeId)
    (hdeadline : now < promotionDeadline now s.event) (hfuel : t.waitlist.length ≤ fuel)
    (ht : fillTier now provider ett fuel (promoted, t) = .ok (promoted', t')) :
    TierLoop now provider s (fun other ↦ settled other ∨ other = ett) t' := by
  have hstop : promotable now provider ett t = none →
      TierLoop now provider s (fun other ↦ settled other ∨ other = ett) t := fun hnone ↦
    { h with exhausted := fun other hother ↦ hother.elim (h.exhausted other) fun heq ↦ heq ▸ hnone }
  induction fuel generalizing promoted t with
  | zero =>
    simp only [fillTier, Except.ok.injEq, Prod.mk.injEq] at ht
    obtain ⟨-, rfl⟩ := ht
    -- the queue is empty
    refine hstop (Option.eq_none_iff_forall_not_mem.2 fun head hhead ↦ ?_)
    have hmem := firstBy_mem (promotable_eq_some hhead).2.1
    have := List.length_pos_of_mem (List.mem_filter.1 hmem).1
    omega
  | succ fuel ih =>
    rw [fillTier] at ht
    split at ht
    · next hnone =>
      simp only [Except.ok.injEq, Prod.mk.injEq] at ht
      obtain ⟨-, rfl⟩ := ht
      exact hstop hnone
    · next head hhead =>
      simp only [bind_eq_ok] at ht
      obtain ⟨u, hu, hrest⟩ := ht
      have hpromotes := promote_promotes h.keyed (h.same.event ▸ hdeadline) hu
      have hshorter := hpromotes.length_lt (promotable_eq_some hhead).2.1
      have hnext := h.promote hothers hpromotes
      refine ih hnext (by omega) hrest fun hnone ↦ ?_
      exact { hnext with
        exhausted := fun other hother ↦
          hother.elim (hnext.exhausted other) fun heq ↦ heq ▸ hnone }

/-- The loop over all tiers leaves nothing to promote from any queue. -/
theorem fillTiers_exhausts {promoted : List Uuid} (hs : s.Keyed)
    (hunexpired : ∀ ao ∈ s.admissionOffers, ¬ ao.IsDue now)
    (hdeadline : now < promotionDeadline now s.event)
    (h : fillTiers now none provider s = .ok (promoted, s')) :
    TierLoop now provider s (· ∈ fillableTiers none s) s' := by
  have hkeys : ((fillableTiers none s).map TicketType.eventTicketTypeId).Nodup :=
    nodup_keys_filter hs.ticketTypes _
  -- the tiers still to come are distinct from those that are settled
  have hfinal := foldlM_suffix (P := fun rest st ↦ (∀ ett ∈ rest, ett ∈ fillableTiers none s)
      ∧ (rest.map TicketType.eventTicketTypeId).Nodup
      ∧ TierLoop now provider s (fun ett ↦ ett ∈ fillableTiers none s ∧ ett ∉ rest) st.2) ?_
    ⟨fun _ hett ↦ hett, hkeys, ⟨⟨rfl, rfl, rfl⟩, hs, rfl, hunexpired, fun _ h ↦ absurd h.1 h.2⟩⟩ h
  · exact { hfinal.2.2 with
      exhausted := fun ett hett ↦ hfinal.2.2.exhausted ett ⟨hett, by simp⟩ }
  · rintro ett rest ⟨promoted, t⟩ ⟨promoted', t'⟩ ⟨hsub, hnodup, hloop⟩ hstep
    rw [List.map_cons, List.nodup_cons] at hnodup
    have hett := hsub ett (by simp)
    have hothers : ∀ other, other ∈ fillableTiers none s ∧ other ∉ ett :: rest →
        other.eventTicketTypeId ≠ ett.eventTicketTypeId := by
      rintro other ⟨hother, hnot⟩ hid
      exact hnot (eq_of_key_eq hkeys hother hett hid ▸ by simp)
    have hnext := fillTier_exhausts _ hloop hothers hdeadline le_rfl hstep
    refine ⟨fun other hother ↦ hsub other (List.mem_cons_of_mem _ hother), hnodup.2,
      { hnext with exhausted := fun other hother ↦ hnext.exhausted other ?_ }⟩
    by_cases heq : other = ett
    · exact .inr heq
    · exact .inl ⟨hother.1, by simp [heq, hother.2]⟩

/-! ## Progress -/

theorem not_hasPromotableEntry (hdeadline : now < promotionDeadline now s.event)
    (hexhausted : ∀ ett ∈ fillableTiers none s, promotable now provider ett s = none) :
    ¬ s.HasPromotableEntry now provider := by
  rintro ⟨ew, hew, ett, hett, htier, ⟨price, hprice, hpayable⟩, hactive, hpublic, hfree⟩
  have hnone := hexhausted ett (List.mem_filter.2 ⟨hett, by simp [hactive, hpublic]⟩)
  have hhead : queueHead ett.eventTicketTypeId s ≠ none := fun hempty ↦ by
    have := List.filter_eq_nil_iff.1 (firstBy_eq_none.1 hempty) ew hew
    simp [htier] at this
  obtain ⟨head, hhead⟩ := Option.ne_none_iff_exists'.1 hhead
  unfold promotable at hnone
  rw [if_neg (not_le.2 hfree), hhead, Option.mem_def.1 hprice] at hnone
  -- a price of zero and a ready payment setup both pass the check of the loop
  have hready : ¬ (0 < price ∧ ¬ PaymentReady provider s) := by
    rintro ⟨hpos, hnot⟩
    rcases hpayable with hzero | hready
    · omega
    · exact hnot hready
  simp [hready, not_le.2 hdeadline] at hnone

/-- **A reconciled event is not due.** -/
theorem reconcileEventEnrollment_not_isDue {promoted : List Uuid} (hs : s.Keyed)
    (h : reconcileEventEnrollment now none provider s = .ok (promoted, s')) :
    ¬ s'.IsDue now provider := by
  unfold reconcileEventEnrollment at h
  simp only [bind_eq_ok, require_eq_ok] at h
  obtain ⟨-, -, swept, hswept, settled, hsettled, hfill⟩ := h
  have hholds := expireDueHolds_unexpired hs hswept
  have hoffers := settleOffers_unexpired hholds.keyed hsettled
  have hpurchases : ∀ ep ∈ settled.purchases, ep.IsUnexpired now := fun ep hep ↦
    (hholds.unexpired ep (hoffers.purchases ▸ hep)).resolve_right (by simp)
  have hnotDue : ∀ ao ∈ settled.admissionOffers, ¬ ao.IsDue now := fun ao hao ↦
    (hoffers.unexpired ao hao).resolve_right (by simp)
  have hhold : ∀ ep : Purchase, ep.IsUnexpired now →
      ¬ (ep.status = .pending ∧ ∃ hold ∈ ep.holdExpiresAt, hold ≤ now) := by
    rintro ep hlive ⟨hpending, hold, hmem, hle⟩
    exact absurd hle (not_le.2 (hlive hpending hold hmem))
  split at hfill
  · next haccepts =>
    have hloop := fillTiers_exhausts hoffers.keyed hnotDue haccepts.deadline hfill
    rintro (⟨ao, hao, hdue⟩ | ⟨ep, hep, hdue⟩ | ⟨-, hentry⟩)
    · exact hloop.unexpired ao hao hdue
    · exact hhold ep (hpurchases ep (hloop.purchases ▸ hep)) hdue
    · refine not_hasPromotableEntry (hloop.same.event ▸ haccepts.deadline) (fun ett hett ↦ ?_)
        hentry
      refine hloop.exhausted ett ?_
      rwa [fillableTiers, hloop.same.ticketTypes] at hett
  · next hcloses =>
    simp only [Except.ok.injEq, Prod.mk.injEq] at hfill
    obtain ⟨-, rfl⟩ := hfill
    rintro (⟨ao, hao, hdue⟩ | ⟨ep, hep, hdue⟩ | ⟨haccepts, -⟩)
    · exact hnotDue ao hao hdue
    · exact hhold ep (hpurchases ep hep) hdue
    · exact hcloses haccepts

/-- **Background reconciliation makes progress.** A reconciled event is not due at the same time. So
at a fixed time the worker's calls serve each due event at most once, and a due event that no other
session locks is served before there have been more calls than there are due events before it. -/
theorem enrollment_worker_progress (now : Timestamp) (provider : Option String)
    (events : List EventEnrollment) (hkeyed : ∀ ev ∈ events, ev.enrollment.Keyed) :
    (∀ ev ∈ events, ∀ promoted s', reconcileEventEnrollment now none provider ev.enrollment
      = .ok (promoted, s') → ¬ s'.IsDue now provider)
    ∧ ∀ mayLock results events', EnrollmentWorkerRun now provider mayLock events results events' →
      WorkedOff EventEnrollment.eventId (fun ev ↦ ev.enrollment.IsDue now provider) events
        results.reduceOption events'
      ∧ ∀ ev ∈ events, ev.enrollment.IsDue now provider → ¬ mayLock ev.eventId →
        some ev.eventId ∉ results →
        results.length ≤ (events.filter fun other ↦ other.enrollment.IsDue now provider
          ∧ other.eventId < ev.eventId).length := by
  have hwork : ∀ ev ∈ events, ∀ ev', ev.reconcile now provider = .ok ev' →
      ev'.eventId = ev.eventId ∧ ¬ ev'.enrollment.IsDue now provider := by
    intro ev hev ev' h
    unfold EventEnrollment.reconcile at h
    simp only [bind_eq_ok, Except.ok.injEq] at h
    obtain ⟨⟨promoted, s'⟩, hreconcile, rfl⟩ := h
    exact ⟨rfl, reconcileEventEnrollment_not_isDue (hkeyed ev hev) hreconcile⟩
  refine ⟨fun ev hev promoted s' h ↦ reconcileEventEnrollment_not_isDue (hkeyed ev hev) h,
    fun mayLock results events' hrun ↦ ⟨hrun.workedOff hwork, fun ev hev hdue hfree hwaits ↦ ?_⟩⟩
  exact hrun.length_le hwork hev hdue hfree hwaits

/-- An event with one user in the queue of its free seat. -/
def queuedEvent (eventId user : Uuid) : EventEnrollment where
  eventId := eventId
  enrollment := { (Database.sample 1 []).toEnrollment with waitlist := [⟨user, 0, 1⟩] }

theorem enrollment_worker_progress_sample :
    ∃ results events', EnrollmentWorkerRun 1 (some "stripe") (fun _ ↦ False)
      [queuedEvent 5 7, queuedEvent 9 8] results events'
      ∧ results.reduceOption = [5]
      ∧ WorkedOff EventEnrollment.eventId (fun ev ↦ ev.enrollment.IsDue 1 (some "stripe"))
        [queuedEvent 5 7, queuedEvent 9 8] results.reduceOption events' := by
  have hcall : Ensures (reconcileNextEventEnrollment 1 (some "stripe") []
      [queuedEvent 5 7, queuedEvent 9 8]) (fun call ↦ call.1 = some 5) fun _ ↦ False := by
    decide +kernel
  obtain ⟨⟨served, events'⟩, hcall, rfl⟩ := hcall.exists_ok
  have hrun : EnrollmentWorkerRun 1 (some "stripe") (fun _ ↦ False)
      [queuedEvent 5 7, queuedEvent 9 8] ([] ++ [some 5]) events' :=
    .call .refl (by simp) hcall
  refine ⟨_, _, hrun, rfl, ((enrollment_worker_progress 1 (some "stripe")
    [queuedEvent 5 7, queuedEvent 9 8] fun ev hev ↦ ?_).2 _ _ _ hrun).1⟩
  simp only [List.mem_cons, List.not_mem_nil, or_false] at hev
  rcases hev with rfl | rfl
  all_goals exact ⟨by decide, by decide, by decide, by decide⟩

end Ocg
