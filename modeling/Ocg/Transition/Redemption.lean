import Ocg.Transition.Capacity

/-!
# Redemptions of a discount code

The cap of a code is looked at once for each price: when a direct checkout opens, and when an offer
is claimed for the first time. The price of the first claim is stored in the offer and reused by
later claims, so the redemptions that the cap bounds are those whose purchase is not a repeated
claim of an offer.
-/

namespace Ocg

open Relational

/-! ## Configuration of a code -/

/-- A discount code without its inventory, which is all that enrollment writes. -/
def DiscountCode.terms (edc : DiscountCode) : DiscountCode := { edc with available := none }

@[simp] theorem DiscountCode.terms_addAvailable (quantity : ℤ) (edc : DiscountCode) :
    (edc.addAvailable quantity).terms = edc.terms := by
  unfold addAvailable
  split <;> rfl

theorem map_terms_updateCode (code : Option Uuid) (quantity : ℤ) (codes : List DiscountCode) :
    (codes.map fun edc ↦
      if some edc.eventDiscountCodeId = code then edc.addAvailable quantity else edc).map
        DiscountCode.terms = codes.map DiscountCode.terms := by
  rw [List.map_map]
  refine List.map_congr_left fun edc _ ↦ ?_
  by_cases hcode : some edc.eventDiscountCodeId = code
  · simp [hcode]
  · simp [hcode]

theorem map_terms_releaseIf (released : Bool) (code : Option Uuid) (s : Enrollment) :
    (releaseIf released code s).discountCodes.map DiscountCode.terms
      = s.discountCodes.map DiscountCode.terms := by
  unfold releaseIf
  split
  · exact map_terms_updateCode code 1 s.discountCodes
  · rfl

/-- **Moves leave the configuration alone**: tiers, the terms of every code, and the group. -/
theorem EnrollmentMove.configuration {mode : MoveMode} {now : Timestamp} {effect : Effect}
    {s s' : Enrollment} (hmove : EnrollmentMove mode now effect s s') :
    s'.ticketTypes = s.ticketTypes
      ∧ s'.discountCodes.map DiscountCode.terms = s.discountCodes.map DiscountCode.terms
      ∧ s'.group = s.group := by
  cases hmove with
  | movePurchase _ _ _ _ | endCheckout _ _ _ _ _ _ _ =>
    exact ⟨releaseIf_ticketTypes _ _ _, map_terms_releaseIf _ _ _, releaseIf_group _ _ _⟩
  | openDirect _ _ _ _ _ hreserve | openByOffer _ _ _ _ _ _ _ _ _ _ _ hreserve =>
    rw [(reserveEventDiscountCodeAvailability_eq_ok.1 hreserve).2]
    exact ⟨rfl, map_terms_updateCode _ _ _, rfl⟩
  | issueUuid _ | setPublished _ | setCanceled _ _ | complete _ _ _ _ _ _ _ _ _ _ | endOffer _ _ _
  | returnOffer _ _ _ | issueOffer _ _ _ _ _ _ | leaveQueue _ | joinQueue _ _ _ _ _ _
  | addRequest _ _ _ | dropRequests _ | reviewRequests _ | holdAnswers _ _ _ _ _
  | reviveAnswers _ _ _ _ _ _ _ _ | editAnswers _ _ _ _ | cancelAttendance _ _
  | dropAttendees _ _ => exact ⟨rfl, rfl, rfl⟩

/-! ## Priced offers -/

/-- Every offer that has a price was claimed by some purchase. -/
def Enrollment.SnapshotsClaimed (s : Enrollment) : Prop :=
  ∀ ao ∈ s.admissionOffers, ao.snapshot ≠ none →
    ∃ ep ∈ s.purchases, ep.admissionOfferId = some ao.admissionOfferId

theorem EnrollmentMove.snapshotsClaimed {mode : MoveMode} {now : Timestamp} {effect : Effect}
    {s s' : Enrollment} (hmove : EnrollmentMove mode now effect s s') (hwf : s.WellFormed)
    (h : s.SnapshotsClaimed) : s'.SnapshotsClaimed := by
  -- an offer that was priced before the move keeps its purchase
  have hkept : ∀ ao : AdmissionOffer, (∃ old ∈ s.admissionOffers,
      old.admissionOfferId = ao.admissionOfferId ∧ old.snapshot = ao.snapshot) →
      ao.snapshot ≠ none →
      ∃ ep ∈ s'.purchases, ep.admissionOfferId = some ao.admissionOfferId := by
    rintro ao ⟨old, hold, hid, hsnapshot⟩ hpriced
    obtain ⟨ep, hep, hlinked⟩ := h old hold (hsnapshot ▸ hpriced)
    obtain ⟨new, hnew, hcontinues⟩ := hmove.purchase_stays hwf hep
    exact ⟨new, hnew, by rw [hcontinues.offer, hlinked, hid]⟩
  have hreplace : ∀ {ao new row : AdmissionOffer}, ao ∈ s.admissionOffers →
      new.admissionOfferId = ao.admissionOfferId → new.snapshot = ao.snapshot →
      row ∈ replaceRow AdmissionOffer.admissionOfferId new s.admissionOffers →
      ∃ old ∈ s.admissionOffers, old.admissionOfferId = row.admissionOfferId
        ∧ old.snapshot = row.snapshot := by
    intro ao new row hao hid hsnapshot hrow
    rcases mem_replaceRow hrow with rfl | ⟨hrow, -⟩
    · exact ⟨ao, hao, hid.symm, hsnapshot.symm⟩
    · exact ⟨row, hrow, rfl, rfl⟩
  cases hmove with
  | movePurchase _ _ _ _ | endCheckout _ _ _ _ _ _ _ =>
    intro row hrow
    rw [releaseIf_admissionOffers] at hrow
    exact hkept row ⟨row, hrow, rfl, rfl⟩
  | openDirect _ _ _ _ _ hreserve => exact fun row hrow ↦ hkept row ⟨row, by
      rw [(reserveEventDiscountCodeAvailability_eq_ok.1 hreserve).2] at hrow
      exact hrow, rfl, rfl⟩
  | @openByOffer _ _ ep ao new hopens hao _ hfollows _ _ hlinked _ _ _ _ hreserve =>
    intro row hrow hpriced
    rcases mem_replaceRow hrow with rfl | ⟨hrow, -⟩
    · exact ⟨ep, List.mem_append_right _ (by simp), by rw [hlinked, hfollows.id]⟩
    · exact hkept row ⟨row, hrow, rfl, rfl⟩ hpriced
  | complete _ _ _ _ _ _ hoffers _ _ _ =>
    intro row hrow
    rcases hoffers with ⟨-, rfl⟩ | ⟨ao, hao, -, -, rfl⟩
    · exact hkept row ⟨row, hrow, rfl, rfl⟩
    · exact hkept row (hreplace hao (by rfl) (by rfl) hrow)
  | endOffer hao _ _ => exact fun row hrow ↦ hkept row (hreplace hao (by rfl) (by rfl) hrow)
  | returnOffer hao _ _ => exact fun row hrow ↦ hkept row (hreplace hao (by rfl) (by rfl) hrow)
  | issueOffer _ _ hsnapshot _ _ _ =>
    intro row hrow hpriced
    rcases List.mem_append.1 hrow with hrow | hrow
    · exact hkept row ⟨row, hrow, rfl, rfl⟩ hpriced
    · exact absurd (List.mem_singleton.1 hrow ▸ hsnapshot) hpriced
  | issueUuid _ | setPublished _ | setCanceled _ _ | leaveQueue _ | joinQueue _ _ _ _ _ _
  | addRequest _ _ _ | dropRequests _ | reviewRequests _ | holdAnswers _ _ _ _ _
  | reviveAnswers _ _ _ _ _ _ _ _ | editAnswers _ _ _ _ | cancelAttendance _ _
  | dropAttendees _ _ => exact fun row hrow ↦ hkept row ⟨row, hrow, rfl, rfl⟩

/-! ## The bounded redemptions -/

/-- A purchase that claims an offer which an earlier purchase already claimed. -/
def Enrollment.IsReclaim (s : Enrollment) (ep : Purchase) : Prop :=
  ∃ earlier ∈ s.purchases, earlier.eventPurchaseId < ep.eventPurchaseId
    ∧ ep.admissionOfferId ≠ none ∧ earlier.admissionOfferId = ep.admissionOfferId

instance (s : Enrollment) (ep : Purchase) : Decidable (s.IsReclaim ep) :=
  inferInstanceAs (Decidable (∃ earlier ∈ s.purchases, _))

/-- The active redemptions of a code that are not repeated claims. -/
def Enrollment.pricedRedemptions (s : Enrollment) (now : Timestamp) (code : Uuid) : Finset Uuid :=
  ((s.purchases.filter fun ep ↦ ep.Redeems now code ∧ ¬ s.IsReclaim ep).map
    Purchase.eventPurchaseId).toFinset

namespace Enrollment

variable {s : Enrollment} {now : Timestamp} {code : Uuid}

theorem mem_pricedRedemptions {k : Uuid} : k ∈ s.pricedRedemptions now code ↔
    ∃ ep ∈ s.purchases, ep.eventDiscountCodeId = some code ∧ ep.Claims now
      ∧ ¬ s.IsReclaim ep ∧ ep.eventPurchaseId = k := by
  simp only [pricedRedemptions, List.mem_toFinset, List.mem_map, List.mem_filter,
    decide_eq_true_eq, Purchase.Redeems, Purchase.Claims, and_assoc]

theorem pricedRedemptions_antitone {later : Timestamp} (hle : now ≤ later) :
    s.pricedRedemptions later code ⊆ s.pricedRedemptions now code := by
  intro k hk
  obtain ⟨ep, hep, hcode, hc, hrest⟩ := mem_pricedRedemptions.1 hk
  exact mem_pricedRedemptions.2 ⟨ep, hep, hcode, hc.antitone hle, hrest⟩

theorem card_pricedRedemptions_le :
    (s.pricedRedemptions now code).card ≤ redemptionCount now code s := by
  -- the count that pricing compares with the cap covers the bounded redemptions
  calc (s.pricedRedemptions now code).card
      ≤ (s.purchases.filter fun ep ↦ ep.Redeems now code ∧ ¬ s.IsReclaim ep).length :=
        (List.toFinset_card_le _).trans (List.length_map _).le
    _ = s.purchases.countP fun ep ↦ ep.Redeems now code ∧ ¬ s.IsReclaim ep :=
        List.countP_eq_length_filter.symm
    _ ≤ redemptionCount now code s := List.countP_mono_left fun ep _ h ↦ by
        have h := of_decide_eq_true h
        exact decide_eq_true h.1

@[simp] theorem pricedRedemptions_releaseIf (released : Bool) (edc : Option Uuid) :
    (releaseIf released edc s).pricedRedemptions now code = s.pricedRedemptions now code := by
  unfold releaseIf
  split <;> rfl

/-- Redemptions that go back to old purchases are old redemptions: repeated claims stay repeated. -/
theorem pricedRedemptions_subset {s' : Enrollment}
    (hstays : ∀ ep ∈ s.purchases, ∃ new ∈ s'.purchases, new.Continues ep)
    (hpurchases : ∀ ep ∈ s'.purchases, ep.Claims now → ¬ s'.IsReclaim ep →
      ∃ old ∈ s.purchases, old.eventPurchaseId = ep.eventPurchaseId
        ∧ old.eventDiscountCodeId = ep.eventDiscountCodeId
        ∧ old.admissionOfferId = ep.admissionOfferId ∧ old.Claims now) :
    s'.pricedRedemptions now code ⊆ s.pricedRedemptions now code := by
  intro k hk
  obtain ⟨ep, hep, hcode, hc, hfirst, rfl⟩ := mem_pricedRedemptions.1 hk
  obtain ⟨old, hold, hid, hold_code, hoffer, hold_claims⟩ := hpurchases ep hep hc hfirst
  refine mem_pricedRedemptions.2 ⟨old, hold, hold_code.trans hcode, hold_claims, ?_, hid⟩
  rintro ⟨earlier, hearlier, hlt, hne, hsame⟩
  obtain ⟨new, hnew, hcontinues⟩ := hstays earlier hearlier
  exact hfirst ⟨new, hnew, by rw [hcontinues.id, ← hid]; exact hlt, hoffer ▸ hne,
    by rw [hcontinues.offer, hsame, hoffer]⟩

theorem pricedRedemptions_add {s' : Enrollment} {ep : Purchase}
    (hpurchases : s'.purchases = s.purchases ++ [ep]) :
    s'.pricedRedemptions now code ⊆ insert ep.eventPurchaseId (s.pricedRedemptions now code) := by
  -- a new pending purchase adds at most its own redemption
  intro k hk
  obtain ⟨row, hrow, hcode, hc, hfirst, rfl⟩ := mem_pricedRedemptions.1 hk
  rw [hpurchases] at hrow
  rcases List.mem_append.1 hrow with hrow | hrow
  · refine Finset.mem_insert_of_mem
      (mem_pricedRedemptions.2 ⟨row, hrow, hcode, hc, ?_, rfl⟩)
    rintro ⟨earlier, hearlier, hrest⟩
    exact hfirst ⟨earlier, hpurchases ▸ List.mem_append_left _ hearlier, hrest⟩
  · rw [List.mem_singleton.1 hrow]
    exact Finset.mem_insert_self _ _

theorem pricedRedemptions_add_subset {s' : Enrollment} {ep : Purchase}
    (hpurchases : s'.purchases = s.purchases ++ [ep])
    (hep : ep.eventDiscountCodeId ≠ some code ∨ s'.IsReclaim ep) :
    s'.pricedRedemptions now code ⊆ s.pricedRedemptions now code := by
  -- a new purchase of another code, or a repeated claim, adds nothing
  intro k hk
  obtain ⟨row, hrow, hcode, hc, hfirst, rfl⟩ := mem_pricedRedemptions.1 hk
  rw [hpurchases] at hrow
  rcases List.mem_append.1 hrow with hrow | hrow
  · refine mem_pricedRedemptions.2 ⟨row, hrow, hcode, hc, ?_, rfl⟩
    rintro ⟨earlier, hearlier, hrest⟩
    exact hfirst ⟨earlier, hpurchases ▸ List.mem_append_left _ hearlier, hrest⟩
  · rw [List.mem_singleton.1 hrow] at hcode hfirst
    exact absurd hep (not_or.2 ⟨not_not.2 hcode, hfirst⟩)

end Enrollment

open Enrollment in
/-- **A move adds at most one bounded redemption of a code, and only below the cap.** -/
theorem EnrollmentMove.pricedRedemptions {mode : MoveMode} {now : Timestamp} {effect : Effect}
    {s s' : Enrollment} (hmove : EnrollmentMove mode now effect s s') (hwf : s.WellFormed)
    (hclaimed : s.SnapshotsClaimed) (code : Uuid) :
    s'.pricedRedemptions now code ⊆ s.pricedRedemptions now code
      ∨ ∃ k, s'.pricedRedemptions now code ⊆ insert k (s.pricedRedemptions now code)
        ∧ s.HasRedemptionsLeft now (some code) := by
  have hstays := fun ep (hep : ep ∈ s.purchases) ↦ hmove.purchase_stays hwf hep
  have hreplace : ∀ {ep new row : Purchase}, ep ∈ s.purchases → new.Continues ep →
      (new.Claims now → ep.Claims now) →
      row ∈ replaceRow Purchase.eventPurchaseId new s.purchases → row.Claims now →
      ∃ old ∈ s.purchases, old.eventPurchaseId = row.eventPurchaseId
        ∧ old.eventDiscountCodeId = row.eventDiscountCodeId
        ∧ old.admissionOfferId = row.admissionOfferId ∧ old.Claims now := by
    intro ep new row hep hcontinues hnew hrow hc
    rcases mem_replaceRow hrow with rfl | ⟨hrow, -⟩
    · exact ⟨ep, hep, hcontinues.id.symm, hcontinues.code.symm, hcontinues.offer.symm, hnew hc⟩
    · exact ⟨row, hrow, rfl, rfl, rfl, hc⟩
  cases hmove with
  | movePurchase hep hcontinues _ hstep =>
    refine .inl (pricedRedemptions_subset hstays fun row hrow hc _ ↦ ?_)
    rw [releaseIf_purchases] at hrow
    exact hreplace hep hcontinues hstep.claims hrow hc
  | endCheckout keep hep hcontinues _ hend _ _ =>
    refine .inl (pricedRedemptions_subset hstays fun row hrow hc _ ↦ ?_)
    rw [releaseIf_purchases] at hrow
    exact hreplace hep hcontinues (fun hnew ↦ absurd hnew hend.not_claims) hrow hc
  | complete hep hcontinues _ hlive _ _ _ _ _ _ =>
    exact .inl (pricedRedemptions_subset hstays fun row hrow hc _ ↦
      hreplace hep hcontinues (fun _ ↦ .inr hlive) hrow hc)
  | @openDirect _ s₁ ep _ _ _ _ hcap hreserve =>
    by_cases hcode : ep.eventDiscountCodeId = some code
    · exact .inr ⟨ep.eventPurchaseId, pricedRedemptions_add rfl, hcode ▸ hcap⟩
    · exact .inl (pricedRedemptions_add_subset rfl (.inl hcode))
  | @openByOffer _ s₁ ep ao new hopens hao _ _ _ _ hlinked _ _ _ hcap hreserve =>
    by_cases hcode : ep.eventDiscountCodeId = some code
    · by_cases hsnapshot : ao.snapshot = none
      · exact .inr ⟨ep.eventPurchaseId, pricedRedemptions_add rfl, hcode ▸ hcap hsnapshot⟩
      · -- the price was fixed by an earlier purchase of the offer
        obtain ⟨earlier, hearlier, hearlier_offer⟩ := hclaimed ao hao hsnapshot
        refine .inl (pricedRedemptions_add_subset rfl (.inr ⟨earlier,
          List.mem_append_left _ hearlier, ?_, by simp [hlinked],
            hearlier_offer.trans hlinked.symm⟩))
        rw [hopens.id]
        exact hwf.purchaseIssued earlier hearlier
    · exact .inl (pricedRedemptions_add_subset rfl (.inl hcode))
  | issueUuid _ | setPublished _ | setCanceled _ _ | endOffer _ _ _ | returnOffer _ _ _
  | issueOffer _ _ _ _ _ _ | leaveQueue _ | joinQueue _ _ _ _ _ _ | addRequest _ _ _
  | dropRequests _ | reviewRequests _ | holdAnswers _ _ _ _ _ | reviveAnswers _ _ _ _ _ _ _ _
  | editAnswers _ _ _ _ | cancelAttendance _ _ | dropAttendees _ _ =>
    exact .inl (pricedRedemptions_subset hstays
      fun row hrow hc _ ↦ ⟨row, hrow, rfl, rfl, rfl, hc⟩)

end Ocg
