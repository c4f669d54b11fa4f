import Ocg.Transition.Lifecycle

/-!
# Seat and redemption claims

A seat moves between a queue entry, an offer, a hold and a purchase without being counted twice,
because what claims it keeps one identifier: the offer's, or the purchase's when there was no offer.
So the claims of a tier form a finite set that a move can only shrink, save for the two moves that
look for room first, and that the passing of time only shrinks.

Redemptions of a discount code are counted the same way, with one exception that the source makes on
purpose: the price of an offer is fixed by its first claim, so a later purchase of the same offer
redeems the code without a new look at the cap.
-/

namespace Ocg

open Relational

/-- A set of claims that grew by at most one claim, made while there was room, stays within the cap.
-/
theorem card_le_of_guarded {α : Type*} [DecidableEq α] {claims claims' : Finset α} {cap : ℕ}
    (hcap : claims.card ≤ cap)
    (h : claims' ⊆ claims ∨ ∃ k, claims' ⊆ insert k claims ∧ claims.card < cap) :
    claims'.card ≤ cap := by
  rcases h with hsubset | ⟨k, hsubset, hroom⟩
  · exact (Finset.card_le_card hsubset).trans hcap
  · calc claims'.card ≤ (insert k claims).card := Finset.card_le_card hsubset
      _ ≤ claims.card + 1 := Finset.card_insert_le k claims
      _ ≤ cap := hroom

/-! ## Purchases across a move -/

/-- A purchase that entitles to a seat or holds one. -/
def Purchase.Claims (now : Timestamp) (ep : Purchase) : Prop :=
  ep.status.IsEntitled ∨ ep.HasLiveHold now

instance (now : Timestamp) (ep : Purchase) : Decidable (ep.Claims now) :=
  inferInstanceAs (Decidable (_ ∨ _))

theorem Purchase.Claims.isActive {now : Timestamp} {ep : Purchase} (h : ep.Claims now) :
    ep.status.IsActive := by
  rcases h with h | h
  · exact h.isActive
  · simp [h.1]

theorem Purchase.HasLiveHold.antitone {now later : Timestamp} (hle : now ≤ later) {ep : Purchase}
    (h : ep.HasLiveHold later) : ep.HasLiveHold now := by
  obtain ⟨hstatus, hold, hmem, hlt⟩ := h
  exact ⟨hstatus, hold, hmem, hle.trans_lt hlt⟩

theorem Purchase.Claims.antitone {now later : Timestamp} (hle : now ≤ later) {ep : Purchase}
    (h : ep.Claims later) : ep.Claims now :=
  h.imp_right fun hold ↦ hold.antitone hle

theorem AdmissionOffer.IsReserving.antitone {now later : Timestamp} (hle : now ≤ later)
    {ao : AdmissionOffer} (h : ao.IsReserving later) : ao.IsReserving now :=
  ⟨h.1, hle.trans_lt h.2⟩

theorem Purchase.Continues.seatKey {new old : Purchase} (h : new.Continues old) :
    new.seatKey = old.seatKey := by
  rw [Purchase.seatKey, Purchase.seatKey, h.offer, h.id]

theorem PurchaseStep.claims {mode : MoveMode} {s : Enrollment} {ep new : Purchase} {effect : Effect}
    {released : Bool} (h : PurchaseStep mode s ep new effect released) {now : Timestamp}
    (hclaims : new.Claims now) : ep.Claims now := by
  rcases hclaims with hentitled | ⟨hpending, hhold⟩
  · exact .inl (h.entitled hentitled)
  · cases h with
    | record hstatus hsame => exact .inr ⟨hstatus ▸ hpending, hsame ▸ hhold⟩
    | refundFree _ _ hto | requestRefund _ hto | rejectRefund _ hto | handOver _ hto
    | settle _ _ hto | reopen _ hto _ => simp [hto] at hpending

theorem CheckoutEnd.not_claims {mode : MoveMode} {s : Enrollment} {ep new : Purchase}
    {effect : Effect} (h : CheckoutEnd mode s ep new effect) {now : Timestamp} :
    ¬ new.Claims now :=
  fun hclaims ↦ h.not_active hclaims.isActive

/-! ## Seats -/

namespace Enrollment

variable {s : Enrollment} {now : Timestamp} {tier : Uuid}

theorem mem_claimedSeats {k : Uuid} :
    k ∈ s.claimedSeats now tier ↔
      (∃ ao ∈ s.admissionOffers, ao.eventTicketTypeId = tier ∧ ao.IsReserving now
        ∧ ao.admissionOfferId = k)
      ∨ ∃ ep ∈ s.purchases, ep.eventTicketTypeId = tier ∧ ep.Claims now ∧ ep.seatKey = k := by
  simp only [claimedSeats, Finset.mem_union, List.mem_toFinset, List.mem_map, List.mem_filter,
    decide_eq_true_eq, Purchase.Claims, and_assoc]

theorem claimedSeats_antitone {later : Timestamp} (hle : now ≤ later) :
    s.claimedSeats later tier ⊆ s.claimedSeats now tier := by
  -- time only ends claims
  intro k hk
  rcases mem_claimedSeats.1 hk with ⟨ao, hao, htier, hreserving, hkey⟩ | ⟨ep, hep, htier, hc, hkey⟩
  · exact mem_claimedSeats.2 (.inl ⟨ao, hao, htier, hreserving.antitone hle, hkey⟩)
  · exact mem_claimedSeats.2 (.inr ⟨ep, hep, htier, hc.antitone hle, hkey⟩)

/-- The allocated seats cover the claimed ones: refunds in progress are allocated besides. -/
theorem card_claimedSeats_le (hwf : s.WellFormed) :
    (s.claimedSeats now tier).card ≤ allocatedSeatCount now tier s := by
  set offers := s.admissionOffers.filter fun ao ↦
    ao.eventTicketTypeId = tier ∧ ao.IsReserving now with hoffers
  set keys := ((s.purchases.filter fun ep ↦ ep.eventTicketTypeId = tier
    ∧ (ep.status.IsSeated ∨ ep.HasLiveHold now)
    ∧ ¬ s.HasReservingOffer now ep).map Purchase.seatKey).dedup with hkeys
  have hsubset : s.claimedSeats now tier
      ⊆ (offers.map AdmissionOffer.admissionOfferId).toFinset ∪ keys.toFinset := by
    intro k hk
    rw [Finset.mem_union, List.mem_toFinset, List.mem_toFinset]
    rcases mem_claimedSeats.1 hk with ⟨ao, hao, htier, hreserving, rfl⟩ | ⟨ep, hep, htier, hc, rfl⟩
    · exact .inl (List.mem_map_of_mem
        (List.mem_filter.2 ⟨hao, by simp only [htier, hreserving, and_self, decide_true]⟩))
    · by_cases hreserved : s.HasReservingOffer now ep
      · -- the offer of the purchase already counts
        obtain ⟨ao, hao, hlinked, hreserving⟩ := hreserved
        obtain ⟨row, hrow, hrow_id, -, hrow_tier⟩ := hwf.linked ep hep _ hlinked.symm
        have hrow_eq : row = ao := eq_of_key_eq hwf.offerKeys hrow hao hrow_id
        refine .inl (List.mem_map.2 ⟨ao, List.mem_filter.2 ⟨hao, ?_⟩, ?_⟩)
        · rw [← hrow_eq, hrow_tier, htier, hrow_eq]
          simp only [hreserving, and_self, decide_true]
        · rw [Purchase.seatKey, ← hlinked]
          rfl
      · refine .inr (List.mem_dedup.2 (List.mem_map_of_mem (List.mem_filter.2 ⟨hep, ?_⟩)))
        have hseated : ep.status.IsSeated ∨ ep.HasLiveHold now := hc.imp_left fun hentitled ↦ by
          rcases PurchaseStatus.isEntitled_iff.1 hentitled with h | h <;> simp [h]
        exact decide_eq_true ⟨htier, hseated, hreserved⟩
  calc (s.claimedSeats now tier).card
      ≤ ((offers.map AdmissionOffer.admissionOfferId).toFinset ∪ keys.toFinset).card :=
        Finset.card_le_card hsubset
    _ ≤ (offers.map AdmissionOffer.admissionOfferId).toFinset.card + keys.toFinset.card :=
        Finset.card_union_le _ _
    _ ≤ offers.length + keys.length :=
        Nat.add_le_add ((List.toFinset_card_le _).trans (List.length_map _).le)
          (List.toFinset_card_le _)
    _ = allocatedSeatCount now tier s := by
        rw [allocatedSeatCount, List.countP_eq_length_filter]

theorem WellFormed.eq_of_seatKey_eq (hwf : s.WellFormed) {ep ep' : Purchase}
    (hep : ep ∈ s.purchases) (hep' : ep' ∈ s.purchases) (hc : ep.Claims now) (hc' : ep'.Claims now)
    (hkey : ep.seatKey = ep'.seatKey) : ep = ep' := by
  -- two purchases that claim one seat are one purchase
  unfold Purchase.seatKey at hkey
  cases hoffer : ep.admissionOfferId with
  | none =>
    cases hoffer' : ep'.admissionOfferId with
    | none =>
      rw [hoffer, hoffer'] at hkey
      exact eq_of_key_eq hwf.purchaseKeys hep hep' hkey
    | some id =>
      rw [hoffer, hoffer'] at hkey
      obtain ⟨ao, hao, hid, -⟩ := hwf.linked ep' hep' id hoffer'
      exact absurd (hid.trans hkey.symm) (hwf.disjoint ao hao ep hep)
  | some id =>
    cases hoffer' : ep'.admissionOfferId with
    | none =>
      rw [hoffer, hoffer'] at hkey
      obtain ⟨ao, hao, hid, -⟩ := hwf.linked ep hep id hoffer
      exact absurd (hid.trans hkey) (hwf.disjoint ao hao ep' hep')
    | some id' =>
      rw [hoffer, hoffer'] at hkey
      refine hwf.activePurchase_unique_of_offer hep hep' hc.isActive hc'.isActive (by simp [hoffer])
        ?_
      rw [hoffer, hoffer']
      exact congrArg some hkey

/-- Seats in use: active offers, and the entitled or held purchases that are not linked to one. -/
def occupiedSeats (s : Enrollment) (now : Timestamp) (tier : Uuid) : ℕ :=
  (s.admissionOffers.countP fun ao ↦ ao.eventTicketTypeId = tier ∧ ao.IsReserving now)
    + s.purchases.countP fun ep ↦ ep.eventTicketTypeId = tier
        ∧ (ep.status.IsEntitled ∨ ep.HasLiveHold now) ∧ ¬ s.HasReservingOffer now ep

theorem occupiedSeats_le_card (hwf : s.WellFormed) :
    s.occupiedSeats now tier ≤ (s.claimedSeats now tier).card := by
  -- every seat in use is claimed under an identifier of its own
  set offers := s.admissionOffers.filter fun ao ↦
    ao.eventTicketTypeId = tier ∧ ao.IsReserving now with hoffers
  set direct := s.purchases.filter fun ep ↦ ep.eventTicketTypeId = tier
    ∧ (ep.status.IsEntitled ∨ ep.HasLiveHold now) ∧ ¬ s.HasReservingOffer now ep with hdirect
  have hmem_offers : ∀ ao ∈ offers, ao ∈ s.admissionOffers ∧ ao.eventTicketTypeId = tier
      ∧ ao.IsReserving now := fun ao hao ↦ by
    simpa [hoffers] using hao
  have hmem_direct : ∀ ep ∈ direct, ep ∈ s.purchases ∧ ep.eventTicketTypeId = tier
      ∧ ep.Claims now ∧ ¬ s.HasReservingOffer now ep := fun ep hep ↦ by
    have := List.mem_filter.1 hep
    exact ⟨this.1, of_decide_eq_true this.2⟩
  have hnodup : (offers.map AdmissionOffer.admissionOfferId
      ++ direct.map Purchase.seatKey).Nodup := by
    refine List.Nodup.append (nodup_keys_filter hwf.offerKeys _) ?_ ?_
    · refine List.Nodup.map_on (fun ep hep ep' hep' hkey ↦ ?_)
        ((List.Nodup.of_map _ hwf.purchaseKeys).filter _)
      obtain ⟨hmem, -, hc, -⟩ := hmem_direct ep hep
      obtain ⟨hmem', -, hc', -⟩ := hmem_direct ep' hep'
      exact hwf.eq_of_seatKey_eq hmem hmem' hc hc' hkey
    · intro k hk hk'
      obtain ⟨ao, hao, rfl⟩ := List.mem_map.1 hk
      obtain ⟨ep, hep, hkey⟩ := List.mem_map.1 hk'
      obtain ⟨hmem, -, hreserving⟩ := hmem_offers ao hao
      obtain ⟨hmem', -, -, hnot⟩ := hmem_direct ep hep
      unfold Purchase.seatKey at hkey
      cases hoffer : ep.admissionOfferId with
      | none =>
        rw [hoffer] at hkey
        exact hwf.disjoint ao hmem ep hmem' hkey.symm
      | some id =>
        rw [hoffer] at hkey
        exact hnot ⟨ao, hmem, hoffer ▸ congrArg some hkey.symm, hreserving⟩
  have hsubset : (offers.map AdmissionOffer.admissionOfferId
      ++ direct.map Purchase.seatKey).toFinset ⊆ s.claimedSeats now tier := by
    intro k hk
    rw [List.mem_toFinset, List.mem_append] at hk
    rcases hk with hk | hk
    · obtain ⟨ao, hao, rfl⟩ := List.mem_map.1 hk
      obtain ⟨hmem, htier, hreserving⟩ := hmem_offers ao hao
      exact mem_claimedSeats.2 (.inl ⟨ao, hmem, htier, hreserving, rfl⟩)
    · obtain ⟨ep, hep, rfl⟩ := List.mem_map.1 hk
      obtain ⟨hmem, htier, hc, -⟩ := hmem_direct ep hep
      exact mem_claimedSeats.2 (.inr ⟨ep, hmem, htier, hc, rfl⟩)
  calc s.occupiedSeats now tier = offers.length + direct.length := by
        rw [occupiedSeats, List.countP_eq_length_filter, List.countP_eq_length_filter]
    _ = (offers.map AdmissionOffer.admissionOfferId ++ direct.map Purchase.seatKey).length := by
        simp
    _ = (offers.map AdmissionOffer.admissionOfferId
          ++ direct.map Purchase.seatKey).toFinset.card := (List.toFinset_card_of_nodup hnodup).symm
    _ ≤ (s.claimedSeats now tier).card := Finset.card_le_card hsubset

@[simp] theorem claimedSeats_releaseIf (released : Bool) (code : Option Uuid) :
    (releaseIf released code s).claimedSeats now tier = s.claimedSeats now tier := by
  unfold releaseIf
  split <;> rfl

theorem seatKey_mem_claimedSeats {ep : Purchase} (hep : ep ∈ s.purchases) (hc : ep.Claims now) :
    ep.seatKey ∈ s.claimedSeats now ep.eventTicketTypeId :=
  mem_claimedSeats.2 (.inr ⟨ep, hep, rfl, hc, rfl⟩)

theorem claimedSeats_subset {s' : Enrollment}
    (hoffers : ∀ ao ∈ s'.admissionOffers, ao.IsReserving now → ∃ old ∈ s.admissionOffers,
      old.admissionOfferId = ao.admissionOfferId ∧ old.eventTicketTypeId = ao.eventTicketTypeId
        ∧ old.IsReserving now)
    (hpurchases : ∀ ep ∈ s'.purchases, ep.Claims now →
      ep.seatKey ∈ s.claimedSeats now ep.eventTicketTypeId) :
    s'.claimedSeats now tier ⊆ s.claimedSeats now tier := by
  intro k hk
  rcases mem_claimedSeats.1 hk with ⟨ao, hao, rfl, hreserving, rfl⟩ | ⟨ep, hep, rfl, hc, rfl⟩
  · obtain ⟨old, hold, hid, htier, hold_reserving⟩ := hoffers ao hao hreserving
    exact mem_claimedSeats.2 (.inl ⟨old, hold, htier, hold_reserving, hid⟩)
  · exact hpurchases ep hep hc

theorem seatKey_mem_of_replace {ep new row : Purchase} (hep : ep ∈ s.purchases)
    (hcontinues : new.Continues ep) (hnew : new.Claims now → ep.Claims now)
    (hrow : row ∈ replaceRow Purchase.eventPurchaseId new s.purchases) (hc : row.Claims now) :
    row.seatKey ∈ s.claimedSeats now row.eventTicketTypeId := by
  rcases mem_replaceRow hrow with rfl | ⟨hrow, -⟩
  · rw [hcontinues.seatKey, hcontinues.tier]
    exact seatKey_mem_claimedSeats hep (hnew hc)
  · exact seatKey_mem_claimedSeats hrow hc

theorem reserving_of_replace (new : AdmissionOffer) {ao row : AdmissionOffer}
    (hao : ao ∈ s.admissionOffers)
    (hid : new.admissionOfferId = ao.admissionOfferId)
    (htier : new.eventTicketTypeId = ao.eventTicketTypeId)
    (hnew : new.IsReserving now → ao.IsReserving now)
    (hrow : row ∈ replaceRow AdmissionOffer.admissionOfferId new s.admissionOffers)
    (hreserving : row.IsReserving now) :
    ∃ old ∈ s.admissionOffers, old.admissionOfferId = row.admissionOfferId
      ∧ old.eventTicketTypeId = row.eventTicketTypeId ∧ old.IsReserving now := by
  rcases mem_replaceRow hrow with rfl | ⟨hrow, -⟩
  · exact ⟨ao, hao, hid.symm, htier.symm, hnew hreserving⟩
  · exact ⟨row, hrow, rfl, rfl, hreserving⟩

end Enrollment

open Enrollment in
/-- **A move claims at most one more seat of a tier, and only while the tier has room.** -/
theorem EnrollmentMove.claimedSeats {mode : MoveMode} {now : Timestamp} {effect : Effect}
    {s s' : Enrollment} (hmove : EnrollmentMove mode now effect s s') (tier : Uuid) :
    s'.claimedSeats now tier ⊆ s.claimedSeats now tier
      ∨ ∃ k, s'.claimedSeats now tier ⊆ insert k (s.claimedSeats now tier)
        ∧ s.HasRoom now tier := by
  have hkept : ∀ ao ∈ s.admissionOffers, ao.IsReserving now → ∃ old ∈ s.admissionOffers,
      old.admissionOfferId = ao.admissionOfferId
        ∧ old.eventTicketTypeId = ao.eventTicketTypeId ∧ old.IsReserving now :=
    fun ao hao hreserving ↦ ⟨ao, hao, rfl, rfl, hreserving⟩
  have hheld : ∀ ep ∈ s.purchases, ep.Claims now →
      ep.seatKey ∈ s.claimedSeats now ep.eventTicketTypeId :=
    fun ep hep hc ↦ seatKey_mem_claimedSeats hep hc
  cases hmove with
  | movePurchase hep hcontinues _ hstep =>
    rw [claimedSeats_releaseIf]
    exact .inl (claimedSeats_subset hkept
      fun row hrow hc ↦ seatKey_mem_of_replace hep hcontinues hstep.claims hrow hc)
  | endCheckout keep hep hcontinues _ hend _ _ =>
    rw [claimedSeats_releaseIf]
    exact .inl (claimedSeats_subset hkept fun row hrow hc ↦
      seatKey_mem_of_replace hep hcontinues (fun hnew ↦ absurd hnew hend.not_claims) hrow hc)
  | @openDirect _ s₁ ep hopens hdirect _ hroom _ hreserve =>
    rw [(reserveEventDiscountCodeAvailability_eq_ok.1 hreserve).2]
    by_cases htier : ep.eventTicketTypeId = tier
    · refine .inr ⟨ep.seatKey, ?_, htier ▸ hroom⟩
      intro k hk
      rcases mem_claimedSeats.1 hk with ⟨ao, hao, hrest⟩ | ⟨row, hrow, hrow_tier, hc, rfl⟩
      · exact Finset.mem_insert_of_mem (mem_claimedSeats.2 (.inl ⟨ao, hao, hrest⟩))
      · rcases List.mem_append.1 hrow with hrow | hrow
        · exact Finset.mem_insert_of_mem (hrow_tier ▸ hheld row hrow hc)
        · rw [List.mem_singleton.1 hrow]
          exact Finset.mem_insert_self _ _
    · refine .inl fun k hk ↦ ?_
      rcases mem_claimedSeats.1 hk with ⟨ao, hao, hrest⟩ | ⟨row, hrow, hrow_tier, hc, rfl⟩
      · exact mem_claimedSeats.2 (.inl ⟨ao, hao, hrest⟩)
      · rcases List.mem_append.1 hrow with hrow | hrow
        · exact hrow_tier ▸ hheld row hrow hc
        · exact absurd (List.mem_singleton.1 hrow ▸ hrow_tier) htier
  | @openByOffer _ s₁ ep ao new hopens hao hreserving hfollows _ _ hlinked _ htier _ _ hreserve =>
    rw [(reserveEventDiscountCodeAvailability_eq_ok.1 hreserve).2]
    refine .inl (claimedSeats_subset (fun row hrow hr ↦ reserving_of_replace _ hao hfollows.id
      hfollows.owned.2.1 (fun _ ↦ hreserving) hrow hr) fun row hrow hc ↦ ?_)
    rcases List.mem_append.1 hrow with hrow | hrow
    · exact hheld row hrow hc
    · -- the new hold sits on the seat that its offer reserves
      rw [List.mem_singleton.1 hrow, Purchase.seatKey, hlinked, htier]
      exact mem_claimedSeats.2 (.inl ⟨ao, hao, rfl, hreserving, rfl⟩)
  | @complete _ ep new offers' _ hep hcontinues _ hlive _ _ hoffers _ _ _ =>
    refine .inl (claimedSeats_subset (fun row hrow hr ↦ ?_) fun row hrow hc ↦
      seatKey_mem_of_replace hep hcontinues (fun _ ↦ .inr hlive) hrow hc)
    rcases hoffers with ⟨-, rfl⟩ | ⟨ao, hao, -, -, rfl⟩
    · exact hkept row hrow hr
    · refine reserving_of_replace { ao with status := .completed } hao rfl rfl
        (fun hnew ↦ ?_) hrow hr
      exact absurd hnew.1 (by simp)
  | @endOffer _ ao status hao hstatus _ =>
    refine .inl (claimedSeats_subset (fun row hrow hr ↦ ?_) hheld)
    refine reserving_of_replace { ao with status := status } hao rfl rfl
      (fun hnew ↦ ?_) hrow hr
    have hactive := hnew.1
    simp only [List.mem_cons, List.not_mem_nil, or_false] at hstatus
    rcases hstatus with rfl | rfl | rfl <;> simp at hactive
  | @returnOffer _ ao hao hfrom _ =>
    refine .inl (claimedSeats_subset (fun row hrow hr ↦ ?_) hheld)
    exact reserving_of_replace { ao with status := .pending } hao rfl rfl
      (fun hnew ↦ ⟨by simp [hfrom], hnew.2⟩) hrow hr
  | @issueOffer _ new hid hstatus _ _ hroom _ =>
    by_cases htier : new.eventTicketTypeId = tier
    · refine .inr ⟨new.admissionOfferId, ?_, htier ▸ hroom⟩
      intro k hk
      rcases mem_claimedSeats.1 hk with ⟨ao, hao, hao_tier, hr, rfl⟩ | ⟨row, hrow, hrest⟩
      · rcases List.mem_append.1 hao with hao | hao
        · exact Finset.mem_insert_of_mem
            (mem_claimedSeats.2 (.inl ⟨ao, hao, hao_tier, hr, rfl⟩))
        · rw [List.mem_singleton.1 hao]
          exact Finset.mem_insert_self _ _
      · exact Finset.mem_insert_of_mem (mem_claimedSeats.2 (.inr ⟨row, hrow, hrest⟩))
    · refine .inl fun k hk ↦ ?_
      rcases mem_claimedSeats.1 hk with ⟨ao, hao, hao_tier, hr, rfl⟩ | ⟨row, hrow, hrest⟩
      · rcases List.mem_append.1 hao with hao | hao
        · exact mem_claimedSeats.2 (.inl ⟨ao, hao, hao_tier, hr, rfl⟩)
        · exact absurd (List.mem_singleton.1 hao ▸ hao_tier) htier
      · exact mem_claimedSeats.2 (.inr ⟨row, hrow, hrest⟩)
  | issueUuid _ | setPublished _ | setCanceled _ _ | leaveQueue _ | joinQueue _ _ _ _ _ _
  | addRequest _ _ _ | dropRequests _ | reviewRequests _ | holdAnswers _ _ _ _ _
  | reviveAnswers _ _ _ _ _ _ _ _ | editAnswers _ _ _ _ | cancelAttendance _ _
  | dropAttendees _ _ => exact .inl (claimedSeats_subset hkept hheld)

end Ocg
