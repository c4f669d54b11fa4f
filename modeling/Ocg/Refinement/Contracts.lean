import Ocg.System

/-!
# The contract of a purchase

A checkout fixes what a purchase costs and the share that the platform takes; a provider's report
later adds the amounts that were paid and the payment itself. No other operation writes these
columns. The lemmas follow
the code statement by statement: each says that a function keeps the contracts of the purchases it
finds, and that a purchase it adds has a contract as a checkout opens it.
-/

namespace Ocg

open Relational

/-- The columns that price a purchase. -/
structure Contract where
  eventPurchaseId : Uuid
  amountMinor : ℤ
  connectedSellerId : Option String
  platformFeeBps : ℤ
  provisionalPlatformFeeAmountMinor : ℤ
  financialAmounts : Option FinancialAmounts
  providerApplicationFeeId : Option String
  providerPaymentReference : Option String

def Purchase.contract (ep : Purchase) : Contract where
  eventPurchaseId := ep.eventPurchaseId
  amountMinor := ep.amountMinor
  connectedSellerId := ep.connectedSellerId
  platformFeeBps := ep.platformFeeBps
  provisionalPlatformFeeAmountMinor := ep.provisionalPlatformFeeAmountMinor
  financialAmounts := ep.financialAmounts
  providerApplicationFeeId := ep.providerApplicationFeeId
  providerPaymentReference := ep.providerPaymentReference

/-- A contract that no report has added to. -/
structure Contract.IsOpened (c : Contract) : Prop where
  bps : 0 ≤ c.platformFeeBps ∧ c.platformFeeBps < 10000
  fee : c.provisionalPlatformFeeAmountMinor = (c.amountMinor * c.platformFeeBps).tdiv 10000
  seller : ∀ seller ∈ c.connectedSellerId, nullIfBlank (some seller) ≠ none
  financial : c.financialAmounts = none
  feeId : c.providerApplicationFeeId = none
  reference : c.providerPaymentReference = none

/-- Every purchase keeps its contract, and a new one is opened under a fresh identifier. -/
structure Enrollment.KeepsContracts (s s' : Enrollment) : Prop where
  issued : s.nextUuid ≤ s'.nextUuid
  rows : ∀ row ∈ s'.purchases, (∃ ep ∈ s.purchases, row.contract = ep.contract)
    ∨ (s.nextUuid ≤ row.eventPurchaseId ∧ row.contract.IsOpened)

namespace Enrollment.KeepsContracts

variable {s t u : Enrollment}

theorem of_purchases_eq (h : t.purchases = s.purchases) (hissued : s.nextUuid ≤ t.nextUuid) :
    s.KeepsContracts t :=
  ⟨hissued, fun row hrow ↦ .inl ⟨row, h ▸ hrow, rfl⟩⟩

theorem refl (s : Enrollment) : s.KeepsContracts s := of_purchases_eq rfl le_rfl

theorem trans (h : s.KeepsContracts t) (h' : t.KeepsContracts u) : s.KeepsContracts u := by
  refine ⟨h.issued.trans h'.issued, fun row hrow ↦ ?_⟩
  obtain ⟨ep, hep, heq⟩ | ⟨hnew, hopened⟩ := h'.rows row hrow
  · obtain ⟨old, hold, heq'⟩ | ⟨hnew, hopened⟩ := h.rows ep hep
    · exact .inl ⟨old, hold, heq.trans heq'⟩
    · refine .inr ⟨?_, heq ▸ hopened⟩
      rw [show row.eventPurchaseId = ep.eventPurchaseId from congrArg Contract.eventPurchaseId heq]
      exact hnew
  · exact .inr ⟨h.issued.trans hnew, hopened⟩

theorem store {new ep : Purchase} (h : s.KeepsContracts t) (hep : ep ∈ s.purchases)
    (hnew : new.contract = ep.contract) (hstore : storePurchase new t = .ok u) :
    s.KeepsContracts u := by
  obtain ⟨-, rfl⟩ := storePurchase_eq_ok.1 hstore
  refine ⟨h.issued, fun row hrow ↦ ?_⟩
  obtain rfl | ⟨hrow, -⟩ := mem_replaceRow hrow
  · exact .inl ⟨ep, hep, hnew⟩
  · exact h.rows row hrow

theorem write {old new ep : Purchase} (h : s.KeepsContracts t) (hep : ep ∈ s.purchases)
    (hnew : new.contract = ep.contract) (hwrite : writePurchase old new t = .ok u) :
    s.KeepsContracts u := by
  rw [writePurchase, bind_eq_ok] at hwrite
  obtain ⟨-, -, hstore⟩ := hwrite
  exact h.store hep hnew hstore

theorem writeAll {f : Purchase → Purchase} (hf : ∀ ep, (f ep).contract = ep.contract)
    {rows : List Purchase} (hrows : ∀ ep ∈ rows, ep ∈ s.purchases)
    (h : rows.foldlM (fun s ep ↦ writePurchase ep (f ep) s) s = .ok t) : s.KeepsContracts t :=
  foldlM_invariant (P := s.KeepsContracts)
    (fun _ ep _ hep hkept hwrite ↦ hkept.write (hrows ep hep) (hf ep) hwrite) (refl s) h

end Enrollment.KeepsContracts

section

variable {now : Timestamp} {s s' : Enrollment} {db db' : Database}

/-! ## Rows of other tables -/

theorem updateAdmissionOffer_keeps {id : Uuid} {selected : OfferStatus → Prop}
    [DecidablePred selected] {f : AdmissionOffer → AdmissionOffer} {updated : Option Enrollment}
    (h : updateAdmissionOffer id selected f s = .ok updated) :
    s.KeepsContracts (updated.getD s) := by
  rw [updateAdmissionOffer] at h
  split at h
  · obtain rfl := Except.ok.inj h
    exact .refl s
  · next ao _ =>
    simp only [bind_eq_ok, writeAdmissionOffer, Except.ok.injEq] at h
    obtain ⟨_, ⟨-, -, -, -, -, -, -, -, rfl⟩, rfl⟩ := h
    exact .of_purchases_eq rfl le_rfl

theorem updateAttendees_keeps {selected : Attendee → Prop} [DecidablePred selected]
    {f : Attendee → Attendee} {found : Bool}
    (h : updateAttendees selected f s = .ok (found, s')) : s.KeepsContracts s' := by
  simp only [updateAttendees, bind_eq_ok, Except.ok.injEq, Prod.mk.injEq] at h
  obtain ⟨t, hloop, -, rfl⟩ := h
  refine foldlM_invariant (P := s.KeepsContracts) (fun u ea _ _ hkept hwrite ↦ ?_) (.refl s) hloop
  obtain ⟨-, rfl⟩ := writeAttendee_eq_ok.1 hwrite
  exact hkept.trans (.of_purchases_eq rfl le_rfl)

theorem upsertAttendee_keeps {proposed : Attendee} {revivable : AttendeeStatus → Prop}
    [DecidablePred revivable] {f : Attendee → Attendee} {found : Bool}
    (h : upsertAttendee proposed revivable f s = .ok (found, s')) : s.KeepsContracts s' := by
  obtain ⟨-, ⟨-, -, rfl⟩ | ⟨_, -, -, ⟨-, -, -, rfl⟩ | ⟨-, -, rfl⟩⟩⟩ := upsertAttendee_eq_ok h
  · exact .of_purchases_eq rfl le_rfl
  · exact .of_purchases_eq rfl le_rfl
  · exact .refl _

theorem issueOffer_keeps {tier user : Uuid} {deadline : Timestamp} {source : OfferSource}
    {organizer : Option Uuid} (h : issueOffer now tier user deadline source organizer s = .ok s') :
    s.KeepsContracts s' := by
  obtain ⟨-, rfl⟩ := insertAdmissionOffer_eq_ok.1 h
  exact .of_purchases_eq rfl (Nat.le_succ _)

/-! ## Reconciliation -/

theorem expireHold_keeps {hold : Timestamp} {ep : Purchase} (hep : ep ∈ s.purchases)
    (h : expireHold now hold ep s = .ok s') : s.KeepsContracts s' := by
  simp only [expireHold, bind_eq_ok, Except.ok.injEq] at h
  obtain ⟨t, hwrite, rfl⟩ := h
  have hkept : s.KeepsContracts t := by
    refine .write (.refl s) hep ?_ hwrite
    rfl
  exact hkept.trans (.of_purchases_eq rfl le_rfl)

theorem expireDueHolds_keeps (h : expireDueHolds now s = .ok s') : s.KeepsContracts s' := by
  refine foldlM_invariant (P := s.KeepsContracts) (fun u due u' _ hkept hexpire ↦ ?_) (.refl s) h
  rw [expireDueHold] at hexpire
  split at hexpire
  · exact Except.ok.inj hexpire ▸ hkept
  · next ep hfind =>
    exact hkept.trans (expireHold_keeps (List.mem_of_find?_eq_some hfind) hexpire)

theorem settleOffers_keeps (h : settleOffers now s = .ok s') : s.KeepsContracts s' := by
  refine foldlM_invariant (P := s.KeepsContracts) (fun u ao u' _ hkept hsettle ↦ ?_) (.refl s) h
  refine hkept.trans ?_
  rw [settleOffer] at hsettle
  split_ifs at hsettle
  · obtain ⟨updated, hupdate, heq⟩ := bind_eq_ok.1 hsettle
    exact Except.ok.inj heq ▸ updateAdmissionOffer_keeps hupdate
  · obtain ⟨updated, hupdate, heq⟩ := bind_eq_ok.1 hsettle
    exact Except.ok.inj heq ▸ updateAdmissionOffer_keeps hupdate
  · exact Except.ok.inj hsettle ▸ .refl u

theorem promote_keeps {ett : TicketType} {head : WaitlistEntry}
    (h : promote now ett head s = .ok s') : s.KeepsContracts s' := by
  obtain ⟨-, rfl⟩ := insertAdmissionOffer_eq_ok.1 h
  exact .of_purchases_eq rfl (Nat.le_succ _)

theorem fillTier_keeps {provider : Option String} {ett : TicketType} {fuel : ℕ}
    {st st' : List Uuid × Enrollment} (h : fillTier now provider ett fuel st = .ok st') :
    st.2.KeepsContracts st'.2 := by
  induction fuel generalizing st with
  | zero => exact Except.ok.inj h ▸ .refl _
  | succ fuel ih =>
    rw [fillTier] at h
    split at h
    · exact Except.ok.inj h ▸ .refl _
    · next head _ =>
      obtain ⟨t, hpromote, hrest⟩ := bind_eq_ok.1 h
      exact (promote_keeps hpromote).trans (ih hrest)

theorem reconcileEventEnrollment_keeps {tier : Option Uuid} {provider : Option String}
    {promoted : List Uuid}
    (h : reconcileEventEnrollment now tier provider s = .ok (promoted, s')) :
    s.KeepsContracts s' := by
  rw [reconcileEventEnrollment, bind_eq_ok] at h
  obtain ⟨-, -, h⟩ := h
  obtain ⟨t, hexpire, h⟩ := bind_eq_ok.1 h
  obtain ⟨u, hsettle, h⟩ := bind_eq_ok.1 h
  refine ((expireDueHolds_keeps hexpire).trans (settleOffers_keeps hsettle)).trans ?_
  split_ifs at h
  · refine foldlM_invariant (P := fun st : List Uuid × Enrollment ↦ u.KeepsContracts st.2)
      (fun st ett st' _ hkept hfill ↦ hkept.trans (fillTier_keeps hfill)) (.refl u) h
  · obtain ⟨-, rfl⟩ := Prod.mk.inj (Except.ok.inj h)
    exact .refl u

/-! ## Closing -/

theorem releaseExpired_foldl_keeps (rest : List Purchase) :
    s.KeepsContracts (rest.foldl (releaseExpired now) s) := by
  induction rest generalizing s with
  | nil => exact .refl s
  | cons ep rest ih =>
    have hreleased : s.KeepsContracts (releaseExpired now s ep) := .of_purchases_eq rfl le_rfl
    exact hreleased.trans ih

theorem returnCheckoutOffers_keeps (h : returnCheckoutOffers s = .ok s') :
    s.KeepsContracts s' := by
  refine foldlM_invariant (P := s.KeepsContracts) (fun t ao t' _ hkept hwrite ↦ ?_) (.refl s) h
  simp only [writeAdmissionOffer, bind_eq_ok, Except.ok.injEq] at hwrite
  obtain ⟨-, -, -, -, -, -, -, -, rfl⟩ := hwrite
  exact hkept.trans (.of_purchases_eq rfl le_rfl)

theorem cancelPendingOffers_keeps (h : cancelPendingOffers s = .ok s') : s.KeepsContracts s' := by
  refine foldlM_invariant (P := s.KeepsContracts) (fun t ao t' _ hkept hcancel ↦ ?_) (.refl s) h
  obtain ⟨updated, hupdate, heq⟩ := bind_eq_ok.1 hcancel
  exact hkept.trans (Except.ok.inj heq ▸ updateAdmissionOffer_keeps hupdate)

theorem closeEventEnrollment_keeps (h : closeEventEnrollment now s = .ok s') :
    s.KeepsContracts s' := by
  simp only [closeEventEnrollment, expirePendingCheckouts, bind_eq_ok, Except.ok.injEq] at h
  obtain ⟨t, ⟨t₀, hexpire, rfl⟩, u, hreturn, v, hcancel, rfl⟩ := h
  have hexpired : s.KeepsContracts t₀ :=
    .writeAll (fun _ ↦ by rfl) (fun ep hep ↦ (List.mem_filter.1 hep).1) hexpire
  have hreturned := (releaseExpired_foldl_keeps _).trans (returnCheckoutOffers_keeps hreturn)
  have hcanceled := (hexpired.trans hreturned).trans (cancelPendingOffers_keeps hcancel)
  exact hcanceled.trans (.of_purchases_eq rfl le_rfl)

theorem unpublishEvent_keeps {groupId : Uuid} (h : unpublishEvent now groupId s = .ok s') :
    s.KeepsContracts s' := by
  rw [unpublishEvent, bind_eq_ok] at h
  obtain ⟨-, -, h⟩ := h
  split_ifs at h
  · exact Except.ok.inj h ▸ .refl s
  · obtain ⟨t, hclose, heq⟩ := bind_eq_ok.1 h
    exact Except.ok.inj heq ▸ (closeEventEnrollment_keeps hclose).trans
      (.of_purchases_eq rfl le_rfl)

/-! ## Checkouts -/

theorem upsertPendingRegistrationAnswers_keeps {env : Env} {user : Uuid} {answers : Option Answers}
    (h : upsertPendingRegistrationAnswers env user answers s = .ok s') : s.KeepsContracts s' := by
  obtain ⟨attendees, rfl, -⟩ := upsertPendingRegistrationAnswers_spec .any 0 h
  exact .of_purchases_eq rfl le_rfl

/-- A paid checkout pays a seller that is not blank. -/
def CheckoutTerms.NamesSeller (terms : CheckoutTerms) : Prop :=
  0 < terms.price.finalAmountMinor →
    ∀ seller ∈ terms.recipient.bind (·.recipientId), nullIfBlank (some seller) ≠ none

theorem settleCheckoutPayment_namesSeller {req : CheckoutRequest} {price : ResolvedPrice}
    {currencyCode : Option String} {terms : CheckoutTerms}
    (h : settleCheckoutPayment req price currencyCode s = .ok (.ok terms)) :
    terms.NamesSeller := by
  rw [settleCheckoutPayment] at h
  split_ifs at h with hpaid
  · split at h
    · cases h
    · cases h
    · next hready =>
      simp only [bind_eq_ok, Except.ok.injEq] at h
      obtain ⟨-, -, rfl⟩ := h
      simp only [validateEventTicketingPaymentReadiness, Bool.true_eq_false, if_false, bind_eq_ok,
        require_eq_ok] at hready
      obtain ⟨-, -, -, -, -, -, -, -, -, -, -, ⟨recipient, hrecipient, hblank⟩, -⟩ := hready
      intro _ seller hseller
      rw [Option.mem_def.1 hrecipient, Option.bind_some] at hseller
      rwa [Option.mem_def.1 hseller] at hblank
  all_goals intro hpositive
  · cases h
  · split at h
    · cases h
    · cases h
    · obtain rfl := Except.ok.inj (Except.ok.inj h)
      exact absurd hpositive hpaid
  · obtain rfl := Except.ok.inj (Except.ok.inj h)
    exact absurd hpositive hpaid

theorem openHold_keeps {env : Env} {req : CheckoutRequest} {offer : Option AdmissionOffer}
    {code : Option String} {terms : CheckoutTerms} {outcome : CheckoutOutcome}
    (hbps : ∃ bps ∈ req.platformFeeBps, 0 ≤ bps ∧ bps < 10000) (hseller : terms.NamesSeller)
    (h : openHold env now req offer code terms s = .ok (outcome, s')) : s.KeepsContracts s' := by
  simp only [openHold, bind_eq_ok, Except.ok.injEq, Prod.mk.injEq] at h
  obtain ⟨t, hanswers, u, hreserve, v, hinsert, -, rfl⟩ := h
  obtain ⟨-, rfl⟩ := reserveEventDiscountCodeAvailability_eq_ok.1 hreserve
  obtain ⟨-, -, rfl⟩ := insertPurchase_eq_ok.1 hinsert
  refine (upsertPendingRegistrationAnswers_keeps hanswers).trans ⟨Nat.le_succ _, fun row hrow ↦ ?_⟩
  obtain hrow | hrow := List.mem_append.1 hrow
  · exact .inl ⟨row, hrow, rfl⟩
  · obtain ⟨bps, hreq, hbps⟩ := hbps
    rw [List.mem_singleton.1 hrow]
    refine .inr ⟨le_rfl, ⟨?_, rfl, fun seller hpaid ↦ ?_, rfl, rfl, rfl⟩⟩
    · change 0 ≤ req.platformFeeBps.getD 0 ∧ req.platformFeeBps.getD 0 < 10000
      rwa [show req.platformFeeBps = some bps from hreq]
    · change seller ∈ ite (0 < terms.price.finalAmountMinor) _ none at hpaid
      split_ifs at hpaid with hpositive
      · exact hseller hpositive seller hpaid
      · cases hpaid

theorem claimOffer_keeps {offer : Option AdmissionOffer} {code : Option String}
    {terms : CheckoutTerms} (h : claimOffer offer code terms s = .ok (some s')) :
    s.KeepsContracts s' := by
  cases offer with
  | none => exact Option.some.inj (Except.ok.inj h) ▸ .refl s
  | some ao => exact updateAdmissionOffer_keeps h

theorem reserveCheckout_keeps {env : Env} {req : CheckoutRequest} {offer : Option AdmissionOffer}
    {code : Option String} {replaced : Option Purchase} {terms : CheckoutTerms}
    {outcome : CheckoutOutcome} (hbps : ∃ bps ∈ req.platformFeeBps, 0 ≤ bps ∧ bps < 10000)
    (hseller : terms.NamesSeller) (hreplaced : ∀ ep ∈ replaced, ep ∈ s.purchases)
    (h : reserveCheckout env now req offer code replaced terms s = .ok (outcome, s')) :
    s.KeepsContracts s' := by
  obtain ⟨t, hended, hclaimed⟩ := reserveCheckout_eq_ok h
  have ht : s.KeepsContracts t := by
    obtain ⟨-, rfl⟩ | ⟨ep, hep, hexpire⟩ := hended
    · exact .refl t
    · exact expireHold_keeps (hreplaced ep hep) hexpire
  obtain ⟨-, -, rfl⟩ | ⟨u, hclaim, hopen⟩ := hclaimed
  · exact ht
  · exact (ht.trans (claimOffer_keeps hclaim)).trans (openHold_keeps hbps hseller hopen)

theorem openCheckout_keeps {env : Env} {req : CheckoutRequest} {offer : Option AdmissionOffer}
    {code : Option String} {replaced : Option Purchase} {outcome : CheckoutOutcome}
    (hbps : ∃ bps ∈ req.platformFeeBps, 0 ≤ bps ∧ bps < 10000)
    (hreplaced : ∀ ep ∈ replaced, ep ∈ s.purchases)
    (h : openCheckout env now req offer code replaced s = .ok (outcome, s')) :
    s.KeepsContracts s' := by
  rw [openCheckout, bind_eq_ok] at h
  obtain ⟨-, -, h⟩ := h
  obtain ⟨resolved, -, h⟩ := bind_eq_ok.1 h
  split at h
  · exact (Prod.mk.inj (Except.ok.inj h)).2 ▸ .refl s
  obtain ⟨settled, hsettled, h⟩ := bind_eq_ok.1 h
  split at h
  · exact (Prod.mk.inj (Except.ok.inj h)).2 ▸ .refl s
  · exact reserveCheckout_keeps hbps (settleCheckoutPayment_namesSeller hsettled) hreplaced h

theorem resumeCheckout_keeps {env : Env} {req : CheckoutRequest} {offer : Option AdmissionOffer}
    {code : Option String} {outcome : CheckoutOutcome}
    (hbps : ∃ bps ∈ req.platformFeeBps, 0 ≤ bps ∧ bps < 10000)
    (h : resumeCheckout env now req offer code s = .ok (outcome, s')) : s.KeepsContracts s' := by
  rw [resumeCheckout] at h
  split at h
  · exact openCheckout_keeps hbps (by simp) h
  · next ep hfind =>
    split_ifs at h
    · exact (Prod.mk.inj (Except.ok.inj h)).2 ▸ .refl s
    · obtain ⟨-, -, h⟩ := bind_eq_ok.1 h
      obtain ⟨t, hanswers, h⟩ := bind_eq_ok.1 h
      exact (Prod.mk.inj (Except.ok.inj h)).2 ▸ upsertPendingRegistrationAnswers_keeps hanswers
    · refine openCheckout_keeps hbps ?_ h
      intro row hrow
      obtain rfl := Option.some.inj hrow
      exact (List.mem_filter.1 (firstBy_mem hfind)).1

theorem prepareEventCheckoutPurchase_keeps {env : Env} {req : CheckoutRequest}
    {outcome : CheckoutOutcome}
    (h : prepareEventCheckoutPurchase env now req s = .ok (outcome, s')) : s.KeepsContracts s' := by
  simp only [prepareEventCheckoutPurchase, bind_eq_ok, require_eq_ok, Prod.exists] at h
  obtain ⟨-, hbps, -, -, promoted, t, hreconcile, h⟩ := h
  refine (reconcileEventEnrollment_keeps hreconcile).trans ?_
  split at h
  · split_ifs at h
    · exact (Prod.mk.inj (Except.ok.inj h)).2 ▸ .refl t
    · exact resumeCheckout_keeps hbps h
  · split at h
    · exact (Prod.mk.inj (Except.ok.inj h)).2 ▸ .refl t
    · split_ifs at h
      · obtain ⟨code, -, h⟩ := bind_eq_ok.1 h
        exact resumeCheckout_keeps hbps h
      · exact (Prod.mk.inj (Except.ok.inj h)).2 ▸ .refl t

theorem endHold_keeps {t u : Enrollment} {hold : Timestamp} {ep : Purchase} {tier : Option Uuid}
    {provider : Option String} {promoted : List Uuid} (hst : s.KeepsContracts t)
    (hep : ep ∈ t.purchases) (hexpire : expireHold now hold ep t = .ok u)
    (hreconcile : reconcileEventEnrollment now tier provider u = .ok (promoted, s')) :
    s.KeepsContracts s' :=
  (hst.trans (expireHold_keeps hep hexpire)).trans (reconcileEventEnrollment_keeps hreconcile)

theorem cancelEventCheckout_keeps {communityId user : Uuid} {provider : Option String}
    (h : cancelEventCheckout now communityId user provider s = .ok s') : s.KeepsContracts s' := by
  rw [cancelEventCheckout] at h
  split at h
  · exact Except.ok.inj h ▸ .refl s
  · simp only [bind_eq_ok, Prod.exists] at h
    obtain ⟨promoted, t, hreconcile, h⟩ := h
    have hkept := reconcileEventEnrollment_keeps hreconcile
    split at h
    · exact Except.ok.inj h ▸ hkept
    · next ep hfind =>
      simp only [bind_eq_ok, Prod.exists, Except.ok.injEq] at h
      obtain ⟨u, hexpire, _, v, hreconcile', rfl⟩ := h
      exact endHold_keeps hkept (List.mem_of_find?_eq_some hfind) hexpire hreconcile'

theorem expireEventPurchaseForCheckoutSession_keeps {ref : SessionRef}
    (h : expireEventPurchaseForCheckoutSession now ref s = .ok s') : s.KeepsContracts s' := by
  rw [expireEventPurchaseForCheckoutSession] at h
  split at h
  · exact Except.ok.inj h ▸ .refl s
  · simp only [bind_eq_ok, Prod.exists] at h
    obtain ⟨promoted, t, hreconcile, h⟩ := h
    have hkept := reconcileEventEnrollment_keeps hreconcile
    split at h
    · exact Except.ok.inj h ▸ hkept
    · next ep hfind =>
      simp only [bind_eq_ok, Prod.exists, Except.ok.injEq] at h
      obtain ⟨u, hexpire, _, v, hreconcile', rfl⟩ := h
      exact endHold_keeps hkept (List.mem_of_find?_eq_some hfind) hexpire hreconcile'

theorem attachCheckoutSessionToEventPurchase_keeps {purchase : Uuid} {ref : SessionRef}
    {url : Option String} {hasTaxResources : Bool}
    (h : attachCheckoutSessionToEventPurchase purchase ref url hasTaxResources s = .ok s') :
    s.KeepsContracts s' := by
  rw [attachCheckoutSessionToEventPurchase] at h
  split at h
  · cases h
  · next ep hfind =>
    split_ifs at h
    · exact Except.ok.inj h ▸ .refl s
    · simp only [bind_eq_ok] at h
      obtain ⟨-, -, -, -, h⟩ := h
      exact Except.ok.inj h ▸ .refl s
    · simp only [bind_eq_ok] at h
      obtain ⟨-, -, -, -, h⟩ := h
      refine .store (.refl s) (List.mem_of_find?_eq_some hfind) ?_ h
      rfl

/-! ## Completing and refunding -/

theorem updatePurchase_keeps {purchase : Uuid} {f : Purchase → Purchase}
    (hf : ∀ ep, (f ep).contract = ep.contract) (h : updatePurchase purchase f s = .ok s') :
    s.KeepsContracts s' := by
  rw [updatePurchase] at h
  split at h
  · exact Except.ok.inj h ▸ .refl s
  · next ep hfind => exact .write (.refl s) (List.mem_of_find?_eq_some hfind) (hf ep) h

theorem completeOffer_keeps {offer : Option Uuid} (h : completeOffer offer s = .ok s') :
    s.KeepsContracts s' := by
  obtain ⟨offers, rfl, -⟩ := completeOffer_spec h
  exact .of_purchases_eq rfl le_rfl

theorem completeFreeEventPurchase_keeps {purchase : Uuid}
    (h : completeFreeEventPurchase now purchase s = .ok s') : s.KeepsContracts s' := by
  rw [completeFreeEventPurchase] at h
  split at h
  · cases h
  · simp only [bind_eq_ok, Prod.exists] at h
    obtain ⟨-, -, promoted, t, hreconcile, h⟩ := h
    refine (reconcileEventEnrollment_keeps hreconcile).trans ?_
    split at h
    · cases h
    · simp only [bind_eq_ok, Prod.exists] at h
      obtain ⟨-, -, -, -, -, -, -, -, -, -, u, hoffer, found, v, hattendee, -, -, h⟩ := h
      exact ((completeOffer_keeps hoffer).trans (upsertAttendee_keeps hattendee)).trans
        (updatePurchase_keeps (fun _ ↦ by rfl) h)

theorem refundFreeEventPurchase_keeps {purchase : Uuid}
    (h : refundFreeEventPurchase purchase s = .ok s') : s.KeepsContracts s' := by
  rw [refundFreeEventPurchase] at h
  split at h
  · cases h
  · next ep hfind =>
    obtain ⟨t, hwrite, heq⟩ := bind_eq_ok.1 h
    obtain rfl := Except.ok.inj heq
    have hkept : s.KeepsContracts t := by
      refine .write (.refl s) (List.mem_of_find?_eq_some hfind) ?_ hwrite
      rfl
    exact hkept.trans (.of_purchases_eq rfl le_rfl)

/-! ## Attending and leaving -/

theorem enterTier_keeps {user : Uuid} {tier : Option Uuid} {outcome : AttendOutcome}
    (h : enterTier now user tier s = .ok (outcome, s')) : s.KeepsContracts s' := by
  rw [enterTier] at h
  split at h
  · cases h
  · obtain ⟨-, -, h⟩ := bind_eq_ok.1 h
    split_ifs at h
    iterate 4 exact (Prod.mk.inj (Except.ok.inj h)).2 ▸ .refl s
    obtain ⟨t, hjoin, heq⟩ := bind_eq_ok.1 h
    obtain ⟨-, -, -, rfl⟩ := insertWaitlistEntry_eq_ok.1 hjoin
    exact (Prod.mk.inj (Except.ok.inj heq)).2 ▸ .of_purchases_eq rfl le_rfl

theorem attendEvent_keeps {env : Env} {communityId user : Uuid} {answers : Option Answers}
    {tier : Option Uuid} {outcome : AttendOutcome}
    (h : attendEvent env now communityId user answers tier s = .ok (outcome, s')) :
    s.KeepsContracts s' := by
  simp only [attendEvent, bind_eq_ok, Prod.exists] at h
  obtain ⟨-, -, promoted, t, hreconcile, -, -, -, -, -, -, -, -, selected, -, h⟩ := h
  refine (reconcileEventEnrollment_keeps hreconcile).trans ?_
  split_ifs at h
  · obtain ⟨eir, -, rfl⟩ := requestInvitation_eq_ok h
    exact .of_purchases_eq rfl le_rfl
  · exact enterTier_keeps h

theorem releaseFreeAttendance_keeps {purchase : Option Purchase} {provider : Option String}
    (h : releaseFreeAttendance now purchase provider s = .ok s') : s.KeepsContracts s' := by
  cases purchase with
  | none =>
    simp only [releaseFreeAttendance, bind_eq_ok, Prod.exists, Except.ok.injEq] at h
    obtain ⟨t, rfl, promoted, u, hreconcile, rfl⟩ := h
    exact reconcileEventEnrollment_keeps hreconcile
  | some ep =>
    simp only [releaseFreeAttendance, bind_eq_ok, Prod.exists, Except.ok.injEq] at h
    obtain ⟨t, hrefund, promoted, u, hreconcile, rfl⟩ := h
    exact (refundFreeEventPurchase_keeps hrefund).trans (reconcileEventEnrollment_keeps hreconcile)

theorem leaveEvent_keeps {communityId user : Uuid} {provider : Option String}
    {outcome : LeaveOutcome} (h : leaveEvent now communityId user provider s = .ok (outcome, s')) :
    s.KeepsContracts s' := by
  simp only [leaveEvent, bind_eq_ok, Prod.exists] at h
  obtain ⟨-, -, -, -, found, t, hcancel, h⟩ := h
  refine (updateAttendees_keeps hcancel).trans ?_
  split_ifs at h
  · obtain ⟨u, hrelease, heq⟩ := bind_eq_ok.1 h
    exact (Prod.mk.inj (Except.ok.inj heq)).2 ▸ releaseFreeAttendance_keeps hrelease
  · exact (Prod.mk.inj (Except.ok.inj h)).2 ▸ .of_purchases_eq rfl le_rfl
  · exact (Prod.mk.inj (Except.ok.inj h)).2 ▸ .of_purchases_eq rfl le_rfl

theorem submitEventRegistrationAnswers_keeps {env : Env} {communityId user : Uuid}
    {answers : Option Answers}
    (h : submitEventRegistrationAnswers env now communityId user answers s = .ok s') :
    s.KeepsContracts s' := by
  simp only [submitEventRegistrationAnswers, bind_eq_ok] at h
  obtain ⟨-, -, -, -, -, -, -, -, h⟩ := h
  split at h
  · cases h
  · simp only [bind_eq_ok, Except.ok.injEq] at h
    obtain ⟨-, -, rfl⟩ := h
    exact .of_purchases_eq rfl le_rfl

/-! ## Offers -/

theorem acceptEventInvitationRequest_keeps {actor groupId user : Uuid} {tier : Option Uuid}
    {provider : Option String} {outcome : OfferOutcome}
    (h : acceptEventInvitationRequest now actor groupId user tier provider s = .ok (outcome, s')) :
    s.KeepsContracts s' := by
  simp only [acceptEventInvitationRequest, bind_eq_ok] at h
  obtain ⟨-, -, -, -, h⟩ := h
  split at h
  · cases h
  · simp only [bind_eq_ok] at h
    obtain ⟨selected, -, h⟩ := h
    split at h
    · cases h
    · split at h
      · cases h
      · simp only [bind_eq_ok, Prod.exists] at h
        obtain ⟨-, -, -, -, promoted, t, hreconcile, -, -, h⟩ := h
        refine (reconcileEventEnrollment_keeps hreconcile).trans ?_
        split at h
        · exact (Prod.mk.inj (Except.ok.inj h)).2 ▸ .refl t
        · simp only [bind_eq_ok, Except.ok.injEq, Prod.mk.injEq] at h
          obtain ⟨-, -, -, -, u, hissue, -, rfl⟩ := h
          refine Enrollment.KeepsContracts.trans (.of_purchases_eq ?_ ?_) (issueOffer_keeps hissue)
          · split_ifs
            · rfl
            · rfl
          · split_ifs
            · exact le_rfl
            · exact le_rfl

theorem rejectEventInvitationRequest_keeps {groupId user : Uuid}
    (h : rejectEventInvitationRequest groupId user s = .ok s') : s.KeepsContracts s' := by
  simp only [rejectEventInvitationRequest, bind_eq_ok, Except.ok.injEq] at h
  obtain ⟨-, -, -, -, rfl⟩ := h
  exact .of_purchases_eq rfl le_rfl

theorem inviteUser_keeps {actor user : Uuid} {tier : Option Uuid} {provider : Option String}
    {outcome : OfferOutcome} (h : inviteUser now actor user tier provider s = .ok (outcome, s')) :
    s.KeepsContracts s' := by
  simp only [inviteUser, bind_eq_ok] at h
  obtain ⟨selected, -, h⟩ := h
  split at h
  · cases h
  · split at h
    · cases h
    · simp only [bind_eq_ok, Prod.exists] at h
      obtain ⟨promoted, t, hreconcile, h⟩ := h
      refine (reconcileEventEnrollment_keeps hreconcile).trans ?_
      split_ifs at h
      · exact (Prod.mk.inj (Except.ok.inj h)).2 ▸ .refl t
      · exact (Prod.mk.inj (Except.ok.inj h)).2 ▸ .refl t
      · simp only [bind_eq_ok, Except.ok.injEq, Prod.mk.injEq] at h
        obtain ⟨-, -, -, -, -, -, u, hissue, -, rfl⟩ := h
        refine Enrollment.KeepsContracts.trans ?_ (issueOffer_keeps hissue)
        exact .of_purchases_eq rfl le_rfl

theorem inviteEventAttendee_keeps {actor groupId : Uuid} {user : Option Uuid}
    {email : Option String} {tier : Option Uuid} {provider : Option String}
    {outcome : OfferOutcome}
    (h : inviteEventAttendee now actor groupId user email tier provider db = .ok (outcome, db')) :
    db.KeepsContracts db'.toEnrollment := by
  simp only [inviteEventAttendee, bind_eq_ok, Prod.exists, Except.ok.injEq, Prod.mk.injEq] at h
  obtain ⟨-, -, -, -, target, -, _, s, hinvite, -, rfl⟩ := h
  have hkept := inviteUser_keeps hinvite
  refine Enrollment.KeepsContracts.trans (.of_purchases_eq ?_ ?_) hkept
  · rfl
  change db.nextUuid ≤ if target.preRegistered = none then db.nextUuid else db.nextUuid + 1
  split_ifs
  · exact le_rfl
  · exact Nat.le_succ _

theorem releaseAdmissionOffer_keeps {offer : AdmissionOffer} {status : OfferStatus}
    {provider : Option String}
    (h : releaseAdmissionOffer now offer status provider s = .ok s') : s.KeepsContracts s' := by
  obtain ⟨promoted, t, u, v, promoted', ht, hhold, hupdated, hrest⟩ :=
    releaseAdmissionOffer_eq_ok h
  have hended : s.KeepsContracts u := by
    obtain rfl | ⟨ep, hep, -, hexpire⟩ := hhold
    · exact reconcileEventEnrollment_keeps ht
    · exact (reconcileEventEnrollment_keeps ht).trans (expireHold_keeps hep hexpire)
  exact (hended.trans (updateAdmissionOffer_keeps hupdated)).trans
    (reconcileEventEnrollment_keeps hrest)

theorem cancelEventAdmissionOffer_keeps {groupId offer : Uuid} {provider : Option String}
    (h : cancelEventAdmissionOffer now groupId offer provider s = .ok s') :
    s.KeepsContracts s' := by
  rw [cancelEventAdmissionOffer] at h
  split at h
  · cases h
  · obtain ⟨-, -, h⟩ := bind_eq_ok.1 h
    exact releaseAdmissionOffer_keeps h

theorem declineEventAdmissionOffer_keeps {actor offer : Uuid} {provider : Option String}
    (h : declineEventAdmissionOffer now actor offer provider s = .ok s') :
    s.KeepsContracts s' := by
  rw [declineEventAdmissionOffer] at h
  split at h
  · cases h
  · exact releaseAdmissionOffer_keeps h

/-! ## Refunds -/

theorem onEnrollment_keeps {f : Enrollment → Except DbError Enrollment}
    (h : onEnrollment f db = .ok db')
    (hf : ∀ s, f db.toEnrollment = .ok s → db.KeepsContracts s) :
    db.KeepsContracts db'.toEnrollment := by
  obtain ⟨s, hs, rfl⟩ := onEnrollment_eq_ok h
  exact hf s hs

theorem onEnrollment_stateOf_keeps {α : Type} {f : Enrollment → Except DbError (α × Enrollment)}
    (h : onEnrollment (fun s ↦ stateOf (f s)) db = .ok db')
    (hf : ∀ a s, f db.toEnrollment = .ok (a, s) → db.KeepsContracts s) :
    db.KeepsContracts db'.toEnrollment :=
  onEnrollment_keeps h fun s hs ↦ (stateOf_eq_ok.1 hs).elim fun a ha ↦ hf a s ha

theorem reconcile_keeps {tier : Option Uuid} {provider : Option String}
    (h : reconcile now tier provider db = .ok db') : db.KeepsContracts db'.toEnrollment := by
  refine onEnrollment_keeps h fun s hs ↦ ?_
  simp only [bind_eq_ok, Prod.exists, Except.ok.injEq] at hs
  obtain ⟨promoted, t, hreconcile, rfl⟩ := hs
  exact reconcileEventEnrollment_keeps hreconcile

theorem setPurchaseStatus_keeps {purchase : Uuid} {status : PurchaseStatus}
    (h : setPurchaseStatus purchase status db = .ok db') :
    db.KeepsContracts db'.toEnrollment := by
  simp only [setPurchaseStatus, bind_eq_ok, Except.ok.injEq] at h
  obtain ⟨s, hupdate, rfl⟩ := h
  exact updatePurchase_keeps (fun _ ↦ by rfl) hupdate

theorem ensureRefund_enrollment {ep : Purchase} {amount : Option ℤ} {provider : Option String}
    {kind : RefundKind} {request initiatedBy : Option Uuid} {note : Option String}
    (h : ensureRefund now ep amount provider kind request initiatedBy note db = .ok db') :
    db'.toEnrollment = db.toEnrollment := by
  unfold ensureRefund at h
  split at h
  · split_ifs at h
    · exact Except.ok.inj h ▸ rfl
    · simp only [bind_eq_ok, Except.ok.injEq] at h
      obtain ⟨-, -, -, -, rfl⟩ := h
      rfl
  · cases h

theorem writeRefund_enrollment {new : Refund} (h : writeRefund new db = .ok db') :
    db'.toEnrollment = db.toEnrollment := by
  obtain ⟨-, -, rfl⟩ := writeRefund_eq_ok.1 h
  rfl

theorem requestEventRefund_keeps {env : Env} {communityId user : Uuid} {reason : Option String}
    (h : requestEventRefund env now communityId user reason db = .ok db') :
    db.KeepsContracts db'.toEnrollment := by
  rw [requestEventRefund, bind_eq_ok] at h
  obtain ⟨-, -, h⟩ := h
  split at h
  · cases h
  · simp only [bind_eq_ok, Except.ok.injEq] at h
    obtain ⟨-, -, -, -, t, hset, -, -, rfl⟩ := h
    have hkept := setPurchaseStatus_keeps hset
    exact hkept

theorem rejectEventRefundRequest_keeps {actor groupId purchase : Uuid} {note : Option String}
    (h : rejectEventRefundRequest now actor groupId purchase note db = .ok db') :
    db.KeepsContracts db'.toEnrollment := by
  simp only [rejectEventRefundRequest, bind_eq_ok, Except.ok.injEq] at h
  obtain ⟨-, -, -, -, t, hset, rfl⟩ := h
  have hkept := setPurchaseStatus_keeps hset
  exact hkept

theorem queueEventRefundRequestApproval_keeps {actor groupId purchase : Uuid}
    {note : Option String}
    (h : queueEventRefundRequestApproval now actor groupId purchase note db = .ok db') :
    db.KeepsContracts db'.toEnrollment := by
  rw [queueEventRefundRequestApproval, bind_eq_ok] at h
  obtain ⟨-, -, h⟩ := h
  split at h
  · split at h
    · obtain ⟨-, -, heq⟩ := bind_eq_ok.1 h
      exact Except.ok.inj heq ▸ .refl _
    · obtain ⟨-, -, hensure⟩ := bind_eq_ok.1 h
      rw [ensureRefund_enrollment hensure]
      exact .refl _
  · cases h

theorem queueAttendanceRefund_keeps {actor : Uuid} {ep : Purchase}
    (h : queueAttendanceRefund now actor ep db = .ok db') :
    db.KeepsContracts db'.toEnrollment := by
  rw [queueAttendanceRefund] at h
  split at h
  · obtain ⟨-, -, heq⟩ := bind_eq_ok.1 h
    exact Except.ok.inj heq ▸ .refl _
  · simp only [bind_eq_ok, Prod.exists] at h
    obtain ⟨-, -, request, db₁, hdecision, db₂, hensure, hset⟩ := h
    have hsame : db₁.toEnrollment = db.toEnrollment := by
      rw [attachOrganizerDecision] at hdecision
      split at hdecision
      · exact (Prod.mk.inj (Except.ok.inj hdecision)).2 ▸ rfl
      · obtain ⟨-, -, heq⟩ := bind_eq_ok.1 hdecision
        exact (Prod.mk.inj (Except.ok.inj heq)).2 ▸ rfl
    rw [← hsame, ← ensureRefund_enrollment hensure]
    exact setPurchaseStatus_keeps hset

theorem cancelEventAttendeeAttendance_keeps {actor groupId user : Uuid} {provider : Option String}
    {outcome : CancellationOutcome}
    (h : cancelEventAttendeeAttendance now actor groupId user provider db = .ok (outcome, db')) :
    db.KeepsContracts db'.toEnrollment := by
  simp only [cancelEventAttendeeAttendance, bind_eq_ok] at h
  obtain ⟨-, -, -, -, h⟩ := h
  split at h
  · simp only [bind_eq_ok, Except.ok.injEq, Prod.mk.injEq] at h
    obtain ⟨t, hqueue, -, rfl⟩ := h
    exact queueAttendanceRefund_keeps hqueue
  · simp only [bind_eq_ok, Prod.exists, Except.ok.injEq, Prod.mk.injEq] at h
    obtain ⟨found, t, hcancel, u, hrelease, -, rfl⟩ := h
    exact (updateAttendees_keeps hcancel).trans (releaseFreeAttendance_keeps hrelease)

theorem cancelAllAttendance_keeps (h : cancelAllAttendance s = .ok s') : s.KeepsContracts s' := by
  simp only [cancelAllAttendance, bind_eq_ok, Prod.exists, Except.ok.injEq] at h
  obtain ⟨_, t, hactive, _, u, hinvited, rfl⟩ := h
  exact (updateAttendees_keeps hactive).trans (updateAttendees_keeps hinvited)

theorem refundFreePurchases_keeps (h : refundFreePurchases s = .ok s') : s.KeepsContracts s' := by
  simp only [refundFreePurchases, bind_eq_ok, Except.ok.injEq] at h
  obtain ⟨t, hloop, rfl⟩ := h
  have hkept : s.KeepsContracts t :=
    .writeAll (fun _ ↦ by rfl) (fun ep hep ↦ (List.mem_filter.1 hep).1) hloop
  rw [releaseAll_eq]
  exact hkept.trans (.of_purchases_eq rfl le_rfl)

theorem handOverPaidPurchases_keeps (h : handOverPaidPurchases s = .ok s') :
    s.KeepsContracts s' :=
  .writeAll (fun _ ↦ by rfl) (fun ep hep ↦ (List.mem_filter.1 hep).1) h

theorem queuePaidRefunds_enrollment {actor : Uuid} (h : queuePaidRefunds now actor db = .ok db') :
    db'.toEnrollment = db.toEnrollment :=
  foldlM_invariant (P := fun t : Database ↦ t.toEnrollment = db.toEnrollment)
    (fun _ _ _ _ hsame hensure ↦ (ensureRefund_enrollment hensure).trans hsame) rfl h

theorem cancelEvent_keeps {actor groupId : Uuid} (h : cancelEvent now actor groupId db = .ok db') :
    db.KeepsContracts db'.toEnrollment := by
  simp only [cancelEvent, bind_eq_ok, Except.ok.injEq] at h
  obtain ⟨-, -, db₁, h₁, -, -, db₂, h₂, db₃, h₃, db₄, h₄, db₅, h₅, rfl⟩ := h
  have hclosed := onEnrollment_keeps h₁ fun _ ↦ closeEventEnrollment_keeps
  have hattendance := onEnrollment_keeps h₂ fun _ ↦ cancelAllAttendance_keeps
  have hfree := onEnrollment_keeps h₃ fun _ ↦ refundFreePurchases_keeps
  have hpaid := onEnrollment_keeps h₅ fun _ ↦ handOverPaidPurchases_keeps
  have hqueued := queuePaidRefunds_enrollment h₄
  have hqueue : db₃.KeepsContracts db₄.toEnrollment := by
    rw [hqueued]
    exact .refl _
  have hpaid := onEnrollment_keeps h₅ fun _ ↦ handOverPaidPurchases_keeps
  have hcanceled : db₅.KeepsContracts
      { db₅.toEnrollment with event := { db₅.event with canceled := true } } :=
    .of_purchases_eq rfl le_rfl
  exact ((((hclosed.trans hattendance).trans hfree).trans hqueue).trans (by exact hpaid)).trans
    hcanceled

theorem claimEventPurchaseRefund_keeps {locked : Uuid → Bool} {provider : String}
    {claimed : Option Refund}
    (h : claimEventPurchaseRefund locked now provider db = .ok (claimed, db')) :
    db.KeepsContracts db'.toEnrollment := by
  rw [claimEventPurchaseRefund] at h
  split at h
  · exact (Prod.mk.inj (Except.ok.inj h)).2 ▸ .refl _
  · simp only [bind_eq_ok, Except.ok.injEq, Prod.mk.injEq] at h
    obtain ⟨t, hwrite, -, -, -, -, -, rfl⟩ := h
    rw [writeRefund_enrollment hwrite]
    exact .refl _

theorem recordEventPurchaseRefundPending_keeps {result : RefundResult}
    (h : recordEventPurchaseRefundPending now result db = .ok db') :
    db.KeepsContracts db'.toEnrollment := by
  simp only [recordEventPurchaseRefundPending, bind_eq_ok, Prod.exists] at h
  obtain ⟨r, key, id, -, h⟩ := h
  split_ifs at h
  · exact Except.ok.inj h ▸ .refl _
  · obtain ⟨-, -, h⟩ := bind_eq_ok.1 h
    exact Except.ok.inj h ▸ .refl _
  · obtain ⟨-, -, h⟩ := bind_eq_ok.1 h
    rw [writeRefund_enrollment h]
    exact .refl _

theorem recordEventPurchaseRefundRetryableFailure_keeps {refund claim : Uuid}
    {message : Option String}
    (h : recordEventPurchaseRefundRetryableFailure now refund claim message db = .ok db') :
    db.KeepsContracts db'.toEnrollment := by
  rw [recordEventPurchaseRefundRetryableFailure] at h
  split at h
  · cases h
  · rw [writeRefund_enrollment h]
    exact .refl _

theorem recordEventPurchaseRefundSucceeded_keeps {result : RefundResult}
    (h : recordEventPurchaseRefundSucceeded now result db = .ok db') :
    db.KeepsContracts db'.toEnrollment := by
  obtain ⟨r, key, id, -, ⟨-, rfl⟩ | ⟨-, -, db₁, hwritten, hsettled⟩⟩ :=
    recordEventPurchaseRefundSucceeded_eq_ok h
  · exact .refl _
  have hsame : db₁.toEnrollment = db.toEnrollment := by
    obtain ⟨-, rfl⟩ | ⟨-, hwrite⟩ := hwritten
    · rfl
    · exact writeRefund_enrollment hwrite
  rw [← hsame]
  obtain rfl | ⟨ep, -, -, -, hset⟩ := hsettled
  · exact .refl _
  · exact setPurchaseStatus_keeps hset

theorem recordEventPurchaseRefundTerminalFailed_keeps {result : RefundResult}
    {message : Option String}
    (h : recordEventPurchaseRefundTerminalFailed result message db = .ok db') :
    db.KeepsContracts db'.toEnrollment := by
  simp only [recordEventPurchaseRefundTerminalFailed, bind_eq_ok, Prod.exists] at h
  obtain ⟨r, key, id, -, h⟩ := h
  split at h
  · exact Except.ok.inj h ▸ .refl _
  · obtain ⟨-, -, h⟩ := bind_eq_ok.1 h
    split at h
    · exact Except.ok.inj h ▸ .refl _
    · obtain ⟨db₁, hwrite, h⟩ := bind_eq_ok.1 h
      rw [← writeRefund_enrollment hwrite]
      split at h
      · exact Except.ok.inj h ▸ .refl _
      · split at h
        · cases h
        · exact setPurchaseStatus_keeps h

theorem endAttendance_keeps {ep : Purchase} (h : endAttendance ep s = .ok s') :
    s.KeepsContracts s' := by
  rw [endAttendance] at h
  split_ifs at h
  · exact Except.ok.inj h ▸ .refl s
  · simp only [bind_eq_ok, Prod.exists, Except.ok.injEq] at h
    obtain ⟨found, t, hcancel, rfl⟩ := h
    exact updateAttendees_keeps hcancel

theorem releaseUnlessAutomatic_keeps (kind : RefundKind) (code : Option Uuid) (s : Enrollment) :
    s.KeepsContracts (if kind = .automaticUnfulfillableCheckout then s
      else releaseEventDiscountCodeAvailability code s) := by
  split_ifs
  · exact .refl s
  · exact .of_purchases_eq rfl le_rfl

theorem finalizeEnrollment_keeps {kind : RefundKind} {ep : Purchase}
    (h : finalizeEnrollment kind ep s = .ok s') : s.KeepsContracts s' := by
  simp only [finalizeEnrollment, bind_eq_ok, Except.ok.injEq] at h
  obtain ⟨t, hend, u, hrefund, rfl⟩ := h
  exact ((endAttendance_keeps hend).trans (updatePurchase_keeps (fun _ ↦ by rfl) hrefund)).trans
    (releaseUnlessAutomatic_keeps kind ep.eventDiscountCodeId u)

theorem settleRefund_keeps {claim : Option Uuid} {r : Refund} {ep : Purchase}
    {provider : Option String} (h : settleRefund now claim r ep provider db = .ok db') :
    db.KeepsContracts db'.toEnrollment := by
  simp only [settleRefund, bind_eq_ok] at h
  obtain ⟨db₁, hfinish, -, -, db₂, hwrite, hrest⟩ := h
  have hfinished := onEnrollment_keeps hfinish fun _ ↦ finalizeEnrollment_keeps
  have hreconciled := reconcile_keeps hrest
  rw [writeRefund_enrollment hwrite] at hreconciled
  exact hfinished.trans hreconciled

theorem finalizeEventPurchaseRefund_keeps {refund : Uuid} {claim : Option Uuid}
    {hasNotification : Bool} {provider : Option String}
    (h : finalizeEventPurchaseRefund now refund claim hasNotification provider db = .ok db') :
    db.KeepsContracts db'.toEnrollment := by
  rw [finalizeEventPurchaseRefund, bind_eq_ok] at h
  obtain ⟨-, -, h⟩ := h
  split at h
  · cases h
  · split at h
    · cases h
    · obtain ⟨db₁, hreconcile, h⟩ := bind_eq_ok.1 h
      refine (reconcile_keeps hreconcile).trans ?_
      split at h
      · exact Except.ok.inj h ▸ .refl _
      · simp only [bind_eq_ok] at h
        obtain ⟨-, -, hsettle⟩ := h
        exact settleRefund_keeps hsettle

theorem recoverEnrollment_keeps {kind : RefundKind} {ep : Purchase}
    (h : recoverEnrollment kind ep s = .ok s') : s.KeepsContracts s' := by
  unfold recoverEnrollment at h
  by_cases hends : kind ∈ [RefundKind.attendanceCancellation, .refundRequestApproval]
  · simp only [if_pos hends, bind_eq_ok, Except.ok.injEq] at h
    obtain ⟨t, hend, rfl⟩ := h
    exact (endAttendance_keeps hend).trans
      (releaseUnlessAutomatic_keeps kind ep.eventDiscountCodeId t)
  · simp only [if_neg hends, ok_bind, Except.ok.injEq] at h
    exact h ▸ releaseUnlessAutomatic_keeps kind ep.eventDiscountCodeId s

theorem completeEventPurchaseRefundRecovery_keeps {env : Env} {refund : Uuid}
    {evidence : RecoveryEvidence} {provider : Option String} {completed : Bool}
    (h : completeEventPurchaseRefundRecovery env now refund evidence provider db
      = .ok (completed, db')) : db.KeepsContracts db'.toEnrollment := by
  rw [completeEventPurchaseRefundRecovery] at h
  split at h
  · cases h
  · simp only [bind_eq_ok] at h
    obtain ⟨-, -, -, -, -, -, h⟩ := h
    split at h
    · cases h
    · simp only [bind_eq_ok] at h
      obtain ⟨-, -, db₁, hreconcile, h⟩ := h
      refine (reconcile_keeps hreconcile).trans ?_
      split at h
      · cases h
      · obtain ⟨-, -, h⟩ := bind_eq_ok.1 h
        split at h
        · simp only [bind_eq_ok, Except.ok.injEq, Prod.mk.injEq] at h
          obtain ⟨-, -, -, rfl⟩ := h
          exact .refl _
        · simp only [bind_eq_ok] at h
          obtain ⟨-, -, -, -, -, -, h⟩ := h
          -- both branches end with the same two writes and a reconciliation
          have hrest {db₂ db₃ db₄ : Database} {r : Refund} {purchase : Uuid} {tier : Option Uuid}
              (hlocal : db₁.KeepsContracts db₂.toEnrollment) (hwrite : writeRefund r db₂ = .ok db₃)
              (hset : setPurchaseStatus purchase .refunded db₃ = .ok db₄)
              (hrest : reconcile now tier provider db₄ = .ok db') :
              db₁.KeepsContracts db'.toEnrollment := by
            rw [← writeRefund_enrollment hwrite] at hlocal
            exact (hlocal.trans (setPurchaseStatus_keeps hset)).trans (reconcile_keeps hrest)
          split at h
          · simp only [bind_eq_ok, Except.ok.injEq, Prod.mk.injEq] at h
            obtain ⟨db₂, hlocal, db₃, rfl, db₄, hwrite, db₅, hset, db₆, hlast, -, rfl⟩ := h
            have hkept := onEnrollment_keeps hlocal fun _ ↦ recoverEnrollment_keeps
            exact hrest (by exact hkept) hwrite hset hlast
          · simp only [bind_eq_ok, Except.ok.injEq, Prod.mk.injEq] at h
            obtain ⟨db₃, rfl, db₄, hwrite, db₅, hset, db₆, hlast, -, rfl⟩ := h
            exact hrest (.refl _) hwrite hset hlast

theorem requeueEventPurchaseRefund_keeps {groupId purchase : Uuid}
    (h : requeueEventPurchaseRefund now groupId purchase db = .ok db') :
    db.KeepsContracts db'.toEnrollment := by
  rw [requeueEventPurchaseRefund] at h
  split at h
  · cases h
  · rw [writeRefund_enrollment h]
    exact .refl _

theorem requeueStaleEventPurchaseRefundClaims_keeps
    (h : requeueStaleEventPurchaseRefundClaims now db = .ok db') :
    db.KeepsContracts db'.toEnrollment := by
  have hsame := foldlM_invariant (P := fun t : Database ↦ t.toEnrollment = db.toEnrollment)
    (fun _ _ _ _ hsame hwrite ↦ (writeRefund_enrollment hwrite).trans hsame) rfl h
  rw [hsame]
  exact .refl _

/-! ## The provider's report -/

/-- What the provider's report checks before it writes: the purchase it is about, when that purchase
awaits it, with the amounts that it derives. -/
def checkReport (now : Timestamp) (report : CompletedSession) (s : Enrollment) :
    Except DbError (Option (Purchase × FinancialAmounts)) := do
  require (nullIfBlank report.ref.providerObjectAccountId ≠ none)
    (.raised "connected seller account is required")
  require (nullIfBlank report.providerPaymentReference ≠ none
      ∧ nullIfBlank report.providerChargeId ≠ none)
    (.raised "direct-charge payment references are required")
  match s.purchases.find? fun ep ↦ ep.HasSession report.ref with
  | none => .ok none
  | some ep =>
    if ¬ ep.AwaitsReport now then .ok none else do
      let amounts ← authoritativeAmounts report ep
      require (∀ known ∈ ep.providerApplicationFeeId,
          ∀ reported ∈ report.providerApplicationFeeId, known = reported)
        (.raised "provider application fee does not match the purchase")
      .ok (some (ep, amounts))

/-- Reserves the refund of a paid checkout that does not wait for one yet. -/
def reserveReported (now : Timestamp) (requiresRefund : Bool) (reference : Option String)
    (paid : Purchase) (s : Enrollment) : Except DbError Enrollment :=
  if requiresRefund = true ∧ paid.status ≠ .refundPending then reserveRefund now reference paid s
  else .ok s

/-- What the provider's report writes once its checks have passed. -/
def settleReport (now : Timestamp) (report : CompletedSession) (ep : Purchase)
    (amounts : FinancialAmounts) (s : Enrollment) :
    Except DbError (SettledCheckout × Enrollment) := do
  let paid := ep.recordReport report amounts
  let recorded ← storePurchase paid s
  let reserved ← reserveReported now (decide (s.RequiresRefund now ep))
    report.providerPaymentReference paid recorded
  let (_, settled) ← reconcileEventEnrollment now (some ep.eventTicketTypeId)
    (some report.ref.provider) reserved
  if s.RequiresRefund now ep then .ok (.refundQueued paid amounts.providerTotalMinor, settled)
  else
    fulfillCheckout now report.providerPaymentReference (decide (s.IsManualInvitation ep)) amounts
      paid settled

/-- **The report is its checks, and then its writes.** -/
theorem settleCheckoutSession_eq (now : Timestamp) (report : CompletedSession) (s : Enrollment) :
    settleCheckoutSession now report s = (checkReport now report s >>= fun
      | none => .ok (.noop, s)
      | some (ep, amounts) => settleReport now report ep amounts s) := by
  unfold settleCheckoutSession checkReport settleReport
  simp only [bind_assoc]
  congr 1
  funext _
  congr 1
  funext _
  cases s.purchases.find? fun ep ↦ ep.HasSession report.ref with
  | none => rfl
  | some ep =>
    by_cases hawaits : ep.AwaitsReport now
    · simp only [hawaits, not_true_eq_false, if_false, bind_assoc, ok_bind]
      congr 1
      funext amounts
      congr 1
      funext _
      congr 1
      funext recorded
      by_cases hreserve : s.RequiresRefund now ep ∧ ep.status ≠ .refundPending
      · simp [reserveReported, hreserve, Purchase.recordReport]
      · simp [reserveReported, hreserve, Purchase.recordReport]
    · simp only [hawaits, not_false_eq_true, if_true, ok_bind]

theorem checkReport_eq_some {report : CompletedSession} {ep : Purchase}
    {amounts : FinancialAmounts} (h : checkReport now report s = .ok (some (ep, amounts))) :
    ep ∈ s.purchases ∧ ep.HasSession report.ref ∧ ep.AwaitsReport now
      ∧ authoritativeAmounts report ep = .ok amounts
      ∧ nullIfBlank report.providerPaymentReference ≠ none
      ∧ nullIfBlank report.providerChargeId ≠ none := by
  simp only [checkReport, bind_eq_ok, require_eq_ok] at h
  obtain ⟨-, -, -, ⟨hreference, hcharge⟩, h⟩ := h
  split at h
  · cases h
  · next row hfind =>
    split at h
    · cases h
    · next hawaits =>
      simp only [bind_eq_ok, require_eq_ok, Except.ok.injEq, Option.some.injEq,
        Prod.mk.injEq] at h
      obtain ⟨_, hamounts, -, -, rfl, rfl⟩ := h
      have hsession := List.find?_some hfind
      simp only [decide_eq_true_eq] at hsession
      exact ⟨List.mem_of_find?_eq_some hfind, hsession, not_not.1 hawaits, hamounts, hreference,
        hcharge⟩

/-- The state right after one purchase row is stored. -/
def Enrollment.withPurchase (paid : Purchase) (s : Enrollment) : Enrollment :=
  { s with purchases := replaceRow Purchase.eventPurchaseId paid s.purchases }

/-- The purchase with the payment that it is for. -/
def Purchase.withReference (reference : Option String) (ep : Purchase) : Purchase :=
  { ep with providerPaymentReference := reference }

theorem Enrollment.contract_withPurchase {paid row ep : Purchase}
    (hep : ep ∈ (s.withPurchase paid).purchases) (heq : row.contract = ep.contract) :
    (row.eventPurchaseId = paid.eventPurchaseId ∧ ep = paid)
      ∨ (row.eventPurchaseId ≠ paid.eventPurchaseId ∧ ep ∈ s.purchases) := by
  have hid : row.eventPurchaseId = ep.eventPurchaseId := congrArg Contract.eventPurchaseId heq
  obtain rfl | ⟨hep, hne⟩ := mem_replaceRow hep
  · exact .inl ⟨hid, rfl⟩
  · exact .inr ⟨hid ▸ hne, hep⟩

theorem Enrollment.KeepsContracts.row_of_ne {paid paid' row : Purchase} {t : Enrollment}
    (h : (s.withPurchase paid).KeepsContracts t) (hrow : row ∈ t.purchases)
    (hsame : paid'.eventPurchaseId = paid.eventPurchaseId)
    (hne : row.eventPurchaseId ≠ paid.eventPurchaseId) :
    (∃ ep ∈ (s.withPurchase paid').purchases, row.contract = ep.contract)
      ∨ (s.nextUuid ≤ row.eventPurchaseId ∧ row.contract.IsOpened) := by
  -- rows other than the stored purchase do not depend on what was stored
  obtain ⟨ep, hep, heq⟩ | hnew := h.rows row hrow
  · obtain ⟨hid, -⟩ | ⟨-, hep⟩ := Enrollment.contract_withPurchase hep heq
    · exact absurd hid hne
    · refine .inl ⟨ep, mem_replaceRow_of_ne hep ?_, heq⟩
      rw [hsame, ← show row.eventPurchaseId = ep.eventPurchaseId from
        congrArg Contract.eventPurchaseId heq]
      exact hne
  · exact .inr hnew

/-- A later write of the payment reference is as good as one right at the start. -/
theorem Enrollment.KeepsContracts.writeReference {paid old new : Purchase} {t u : Enrollment}
    {reference : Option String} (h : (s.withPurchase paid).KeepsContracts t)
    (hpaid : paid ∈ (s.withPurchase paid).purchases) (hissued : paid.eventPurchaseId < s.nextUuid)
    (hold : old ∈ t.purchases) (hid : old.eventPurchaseId = paid.eventPurchaseId)
    (hnew : new.contract = (old.withReference reference).contract)
    (hwrite : writePurchase old new t = .ok u) :
    (s.withPurchase (paid.withReference reference)).KeepsContracts u := by
  rw [writePurchase, bind_eq_ok] at hwrite
  obtain ⟨-, -, hstore⟩ := hwrite
  obtain ⟨-, rfl⟩ := storePurchase_eq_ok.1 hstore
  refine ⟨h.issued, fun row hrow ↦ ?_⟩
  obtain rfl | ⟨hrow, hne⟩ := mem_replaceRow hrow
  · obtain ⟨ep, hep, heq⟩ | ⟨hfresh, -⟩ := h.rows old hold
    · obtain ⟨-, rfl⟩ | ⟨hne, -⟩ := Enrollment.contract_withPurchase hep heq
      · refine .inl ⟨ep.withReference reference, ?_, ?_⟩
        · obtain ⟨first, hfirst, hsame⟩ := List.mem_map.1 hpaid
          by_cases hkey : first.eventPurchaseId = ep.eventPurchaseId
          · exact new_mem_replaceRow hfirst hkey
          · rw [if_neg hkey] at hsame
            exact absurd (congrArg _ hsame) hkey
        · rw [hnew]
          simp only [Purchase.withReference, Purchase.contract, Contract.mk.injEq] at heq ⊢
          exact ⟨heq.1, heq.2.1, heq.2.2.1, heq.2.2.2.1, heq.2.2.2.2.1, heq.2.2.2.2.2.1,
            heq.2.2.2.2.2.2.1, trivial⟩
      · exact absurd hid hne
    · exact absurd (hid ▸ hfresh) (Nat.not_le.2 hissued)
  · have hrowId : new.eventPurchaseId = paid.eventPurchaseId :=
      (congrArg Contract.eventPurchaseId hnew).trans hid
    exact h.row_of_ne hrow rfl (hrowId ▸ hne)

theorem Enrollment.KeepsContracts.updateReference {paid : Purchase} {f : Purchase → Purchase}
    {t u : Enrollment} {reference : Option String} (h : (s.withPurchase paid).KeepsContracts t)
    (hpaid : paid ∈ (s.withPurchase paid).purchases) (hissued : paid.eventPurchaseId < s.nextUuid)
    (hf : ∀ row, (f row).contract = (row.withReference reference).contract)
    (hupdate : updatePurchase paid.eventPurchaseId f t = .ok u) :
    (s.withPurchase (paid.withReference reference)).KeepsContracts u := by
  rw [updatePurchase] at hupdate
  split at hupdate
  · next hnone =>
    obtain rfl := Except.ok.inj hupdate
    refine ⟨h.issued, fun row hrow ↦ h.row_of_ne hrow rfl ?_⟩
    have hne := List.find?_eq_none.1 hnone row hrow
    rwa [decide_eq_true_eq] at hne
  · next row hfind =>
    have hid := List.find?_some hfind
    rw [decide_eq_true_eq] at hid
    exact h.writeReference hpaid hissued (List.mem_of_find?_eq_some hfind) hid (hf row) hupdate

theorem reserveRefund_keeps {reference : Option String} {paid : Purchase}
    (hpaid : paid ∈ (s.withPurchase paid).purchases) (hissued : paid.eventPurchaseId < s.nextUuid)
    (h : reserveRefund now reference paid (s.withPurchase paid) = .ok s') :
    (s.withPurchase (paid.withReference reference)).KeepsContracts s' := by
  simp only [reserveRefund, bind_eq_ok, Except.ok.injEq] at h
  obtain ⟨t, hwrite, rfl⟩ := h
  have hwritten : (s.withPurchase (paid.withReference reference)).KeepsContracts t :=
    Enrollment.KeepsContracts.writeReference (.refl _) hpaid hissued hpaid rfl (by rfl) hwrite
  refine hwritten.trans ?_
  split_ifs
  · exact .of_purchases_eq rfl le_rfl
  · exact .of_purchases_eq rfl le_rfl

theorem fulfillCheckout_keeps {reference : Option String} {manuallyInvited : Bool}
    {amounts : FinancialAmounts} {paid : Purchase} {settled : SettledCheckout} {t : Enrollment}
    (hkept : (s.withPurchase paid).KeepsContracts t)
    (hpaid : paid ∈ (s.withPurchase paid).purchases) (hissued : paid.eventPurchaseId < s.nextUuid)
    (h : fulfillCheckout now reference manuallyInvited amounts paid t = .ok (settled, s')) :
    (s.withPurchase (paid.withReference reference)).KeepsContracts s' := by
  simp only [fulfillCheckout, bind_eq_ok, Prod.exists] at h
  obtain ⟨u, hoffer, found, v, hattendee, h⟩ := h
  have hconfirmed := (hkept.trans (completeOffer_keeps hoffer)).trans
    (upsertAttendee_keeps hattendee)
  split_ifs at h
  · simp only [bind_eq_ok, Except.ok.injEq, Prod.mk.injEq] at h
    obtain ⟨w, hupdate, -, rfl⟩ := h
    exact hconfirmed.updateReference hpaid hissued (fun _ ↦ by rfl) hupdate
  · simp only [bind_eq_ok, Except.ok.injEq, Prod.mk.injEq] at h
    obtain ⟨w, hupdate, -, rfl⟩ := h
    have hawaits := hconfirmed.updateReference hpaid hissued (fun _ ↦ by rfl) hupdate
    exact hawaits.trans (.of_purchases_eq rfl le_rfl)

/-- The row of a reported payment. -/
def Purchase.recordPayment (report : CompletedSession) (amounts : FinancialAmounts)
    (reference : Option String) (ep : Purchase) : Purchase :=
  (ep.recordReport report amounts).withReference reference

/-- **Past the reported payment, the report keeps every contract.** A purchase that already waits
for its refund keeps the payment that it was for. -/
theorem settleReport_keeps {report : CompletedSession} {ep : Purchase} {amounts : FinancialAmounts}
    {settled : SettledCheckout} (hep : ep ∈ s.purchases) (hissued : ep.eventPurchaseId < s.nextUuid)
    (h : settleReport now report ep amounts s = .ok (settled, s')) :
    ∃ reference, (ep.status = .refundPending → reference = ep.providerPaymentReference)
      ∧ (s.withPurchase (ep.recordPayment report amounts reference)).KeepsContracts s' := by
  simp only [settleReport, bind_eq_ok, Prod.exists] at h
  obtain ⟨recorded, hstore, reserved, hreserve, promoted, t, hreconcile, h⟩ := h
  obtain ⟨-, rfl⟩ := storePurchase_eq_ok.1 hstore
  change reserveReported now _ _ _ (s.withPurchase (ep.recordReport report amounts)) = _ at hreserve
  have hpaid : ep.recordReport report amounts
      ∈ (s.withPurchase (ep.recordReport report amounts)).purchases := new_mem_replaceRow hep rfl
  have hreconciled := reconcileEventEnrollment_keeps hreconcile
  by_cases hrefund : s.RequiresRefund now ep
  · rw [if_pos hrefund] at h
    obtain ⟨-, rfl⟩ := Prod.mk.inj (Except.ok.inj h)
    by_cases hstatus : ep.status = .refundPending
    · rw [reserveReported, if_neg fun hboth ↦ hboth.2 hstatus] at hreserve
      obtain rfl := Except.ok.inj hreserve
      exact ⟨ep.providerPaymentReference, fun _ ↦ rfl, hreconciled⟩
    · rw [reserveReported, if_pos ⟨decide_eq_true hrefund, hstatus⟩] at hreserve
      exact ⟨report.providerPaymentReference, fun hpending ↦ absurd hpending hstatus,
        (reserveRefund_keeps hpaid hissued hreserve).trans hreconciled⟩
  · rw [if_neg hrefund] at h
    rw [reserveReported, if_neg fun hboth ↦ hrefund (of_decide_eq_true hboth.1)] at hreserve
    obtain rfl := Except.ok.inj hreserve
    exact ⟨report.providerPaymentReference, fun hpending ↦ absurd (.inl hpending) hrefund,
      fulfillCheckout_keeps hreconciled hpaid hissued h⟩

/-- A report that awaits no purchase changes nothing; any other is checked, and from the recorded
amounts on it keeps every contract. -/
theorem reconcileEventPurchaseForCheckoutSession_keeps {report : CompletedSession}
    {outcome : WebhookOutcome}
    (hissued : ∀ ep ∈ db.purchases, ep.eventPurchaseId < db.nextUuid)
    (h : reconcileEventPurchaseForCheckoutSession now report db = .ok (outcome, db')) :
    (checkReport now report db.toEnrollment = .ok none ∧ db' = db)
      ∨ ∃ ep amounts, checkReport now report db.toEnrollment = .ok (some (ep, amounts))
        ∧ ∃ reference, (ep.status = .refundPending → reference = ep.providerPaymentReference)
          ∧ (db.withPurchase (ep.recordPayment report amounts reference)).KeepsContracts
            db'.toEnrollment := by
  rw [reconcileEventPurchaseForCheckoutSession, settleCheckoutSession_eq] at h
  obtain ⟨⟨settled, s⟩, hsettle, h⟩ := bind_eq_ok.1 h
  obtain ⟨checked, hchecked, hsettle⟩ := bind_eq_ok.1 hsettle
  cases checked with
  | none =>
    simp only [Except.ok.injEq, Prod.mk.injEq] at hsettle
    obtain ⟨rfl, rfl⟩ := hsettle
    exact .inl ⟨hchecked, ((Prod.mk.inj (Except.ok.inj h)).2).symm⟩
  | some found =>
    obtain ⟨ep, amounts⟩ := found
    have hep := (checkReport_eq_some hchecked).1
    obtain ⟨reference, hreference, hkept⟩ := settleReport_keeps hep (hissued ep hep) hsettle
    refine .inr ⟨ep, amounts, hchecked, reference, hreference, ?_⟩
    cases settled with
    | noop | completed =>
      obtain rfl := (Prod.mk.inj (Except.ok.inj h)).2
      exact hkept
    | refundQueued =>
      simp only [bind_eq_ok, Except.ok.injEq, Prod.mk.injEq] at h
      obtain ⟨t, hensure, -, rfl⟩ := h
      rw [ensureRefund_enrollment hensure]
      exact hkept

/-! ## Every operation -/

/-- **Every operation but the provider's report keeps the contracts.** -/
theorem Operation.keepsContracts {env : Env} {op : Operation}
    (hreport : ∀ report, op ≠ .reconcileEventPurchaseForCheckoutSession report)
    (h : op.run env now db = .ok db') : db.KeepsContracts db'.toEnrollment := by
  cases op with
  | attendEvent => exact onEnrollment_stateOf_keeps h fun _ _ hs ↦ attendEvent_keeps hs
  | leaveEvent => exact onEnrollment_stateOf_keeps h fun _ _ hs ↦ leaveEvent_keeps hs
  | submitEventRegistrationAnswers =>
    exact onEnrollment_keeps h fun _ hs ↦ submitEventRegistrationAnswers_keeps hs
  | acceptEventInvitationRequest =>
    exact onEnrollment_stateOf_keeps h fun _ _ hs ↦ acceptEventInvitationRequest_keeps hs
  | rejectEventInvitationRequest =>
    exact onEnrollment_keeps h fun _ hs ↦ rejectEventInvitationRequest_keeps hs
  | inviteEventAttendee =>
    obtain ⟨_, h⟩ := stateOf_eq_ok.1 h
    exact inviteEventAttendee_keeps h
  | cancelEventAdmissionOffer =>
    exact onEnrollment_keeps h fun _ hs ↦ cancelEventAdmissionOffer_keeps hs
  | declineEventAdmissionOffer =>
    exact onEnrollment_keeps h fun _ hs ↦ declineEventAdmissionOffer_keeps hs
  | reconcileEventEnrollment =>
    exact onEnrollment_stateOf_keeps h fun _ _ hs ↦ reconcileEventEnrollment_keeps hs
  | prepareEventCheckoutPurchase =>
    exact onEnrollment_stateOf_keeps h fun _ _ hs ↦ prepareEventCheckoutPurchase_keeps hs
  | cancelEventCheckout => exact onEnrollment_keeps h fun _ hs ↦ cancelEventCheckout_keeps hs
  | attachCheckoutSessionToEventPurchase =>
    exact onEnrollment_keeps h fun _ hs ↦ attachCheckoutSessionToEventPurchase_keeps hs
  | expireEventPurchaseForCheckoutSession =>
    exact onEnrollment_keeps h fun _ hs ↦ expireEventPurchaseForCheckoutSession_keeps hs
  | completeFreeEventPurchase =>
    exact onEnrollment_keeps h fun _ hs ↦ completeFreeEventPurchase_keeps hs
  | reconcileEventPurchaseForCheckoutSession report => exact absurd rfl (hreport report)
  | unpublishEvent => exact onEnrollment_keeps h fun _ hs ↦ unpublishEvent_keeps hs
  | cancelEvent => exact cancelEvent_keeps h
  | requestEventRefund => exact requestEventRefund_keeps h
  | rejectEventRefundRequest => exact rejectEventRefundRequest_keeps h
  | queueEventRefundRequestApproval => exact queueEventRefundRequestApproval_keeps h
  | cancelEventAttendeeAttendance =>
    obtain ⟨_, h⟩ := stateOf_eq_ok.1 h
    exact cancelEventAttendeeAttendance_keeps h
  | claimEventPurchaseRefund =>
    obtain ⟨_, h⟩ := stateOf_eq_ok.1 h
    exact claimEventPurchaseRefund_keeps h
  | recordEventPurchaseRefundPending => exact recordEventPurchaseRefundPending_keeps h
  | recordEventPurchaseRefundRetryableFailure =>
    exact recordEventPurchaseRefundRetryableFailure_keeps h
  | recordEventPurchaseRefundSucceeded => exact recordEventPurchaseRefundSucceeded_keeps h
  | recordEventPurchaseRefundTerminalFailed =>
    exact recordEventPurchaseRefundTerminalFailed_keeps h
  | finalizeEventPurchaseRefund => exact finalizeEventPurchaseRefund_keeps h
  | requeueEventPurchaseRefund => exact requeueEventPurchaseRefund_keeps h
  | requeueStaleEventPurchaseRefundClaims => exact requeueStaleEventPurchaseRefundClaims_keeps h
  | completeEventPurchaseRefundRecovery =>
    obtain ⟨_, h⟩ := stateOf_eq_ok.1 h
    exact completeEventPurchaseRefundRecovery_keeps h

end

end Ocg
