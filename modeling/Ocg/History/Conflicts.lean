import Ocg.System

/-!
# Checkout conflicts

Checkout preparation answers a conflict by an ordinary return, so what was written before it is
committed. Every exit comes before the first write after the initial reconciliation, but one: the
claim of the offer, after the replaced hold is expired. Expiring a hold leaves the offers alone, so
the offer that was found active is still there to be claimed.
-/

namespace Ocg

open Relational

variable {env : Env} {now : Timestamp} {req : CheckoutRequest} {offer : Option AdmissionOffer}
  {code : Option String} {reason : String} {s s' : Enrollment}

theorem expireHold_admissionOffers {hold : Timestamp} {ep : Purchase}
    (h : expireHold now hold ep s = .ok s') : s'.admissionOffers = s.admissionOffers := by
  simp only [expireHold, bind_eq_ok, writePurchase_eq_ok, Except.ok.injEq] at h
  obtain ⟨t, ⟨-, -, rfl⟩, rfl⟩ := h
  rfl

/-- The offer that the request claims is stored, and active. -/
def Enrollment.Offers (s : Enrollment) (offer : Option AdmissionOffer) : Prop :=
  ∀ ao ∈ offer, ao ∈ s.admissionOffers ∧ ao.status.IsActive

theorem claimOffer_ne_none {terms : CheckoutTerms} (hoffer : s.Offers offer) :
    claimOffer offer code terms s ≠ .ok none := by
  -- a stored active offer is claimed, or the claim raises
  intro h
  cases offer with
  | none => simp [claimOffer] at h
  | some ao =>
    obtain ⟨hao, hactive⟩ := hoffer ao rfl
    obtain ⟨-, hnone⟩ | ⟨_, _, _, _, _, _, ⟨⟩, _⟩ := updateAdmissionOffer_eq_ok h fun _ ↦ rfl
    exact hnone ao hao rfl hactive

theorem openHold_checkout {terms : CheckoutTerms} :
    openHold env now req offer code terms s ≠ .ok (.conflict reason, s') := by
  intro h
  simp [openHold] at h

/-! ## The conflict exits -/

/-- A checkout that replaces a hold either raises or opens the new one. -/
theorem reserveCheckout_ne_conflict {replaced : Option Purchase} {terms : CheckoutTerms}
    (hoffer : s.Offers offer) :
    reserveCheckout env now req offer code replaced terms s ≠ .ok (.conflict reason, s') := by
  intro h
  obtain ⟨t, hended, hclaimed⟩ := reserveCheckout_eq_ok h
  have hkept : t.admissionOffers = s.admissionOffers := by
    obtain ⟨-, rfl⟩ | ⟨ep, -, hexpire⟩ := hended
    · rfl
    · exact expireHold_admissionOffers hexpire
  have hoffer' : t.Offers offer := fun ao hao ↦ hkept ▸ hoffer ao hao
  obtain ⟨hclaim, -⟩ | ⟨u, -, hopen⟩ := hclaimed
  · exact claimOffer_ne_none hoffer' hclaim
  · exact openHold_checkout hopen

theorem openCheckout_conflict {replaced : Option Purchase} (hoffer : s.Offers offer)
    (h : openCheckout env now req offer code replaced s = .ok (.conflict reason, s')) :
    s' = s := by
  rw [openCheckout, bind_eq_ok] at h
  obtain ⟨-, -, h⟩ := h
  rw [bind_eq_ok] at h
  obtain ⟨priced, -, h⟩ := h
  cases priced with
  | error reason' => exact (congrArg Prod.snd (Except.ok.inj h)).symm
  | ok priced =>
    obtain ⟨price, currencyCode⟩ := priced
    rw [bind_eq_ok] at h
    obtain ⟨settled, -, h⟩ := h
    cases settled with
    | error reason' => exact (congrArg Prod.snd (Except.ok.inj h)).symm
    | ok terms => exact absurd h (reserveCheckout_ne_conflict hoffer)

theorem resumeCheckout_conflict (hoffer : s.Offers offer)
    (h : resumeCheckout env now req offer code s = .ok (.conflict reason, s')) : s' = s := by
  rw [resumeCheckout] at h
  split at h
  · exact openCheckout_conflict hoffer h
  · split_ifs at h with hterminal hselection
    · simp only [Except.ok.injEq, Prod.mk.injEq, reduceCtorEq, false_and] at h
    · simp only [bind_eq_ok, Except.ok.injEq, Prod.mk.injEq, reduceCtorEq, false_and, and_false,
        exists_false] at h
    · exact openCheckout_conflict hoffer h

/-- **A conflict keeps exactly what the initial reconciliation left.** -/
theorem checkout_conflict
    (h : prepareEventCheckoutPurchase env now req s = .ok (.conflict reason, s')) :
    ∃ promoted, reconcileEventEnrollment now (some req.eventTicketTypeId) req.configuredProvider s
      = .ok (promoted, s') := by
  simp only [prepareEventCheckoutPurchase, bind_eq_ok, Prod.exists] at h
  obtain ⟨-, -, -, -, promoted, t, ht, h⟩ := h
  suffices hsame : s' = t from ⟨promoted, hsame ▸ ht⟩
  split at h
  · split_ifs at h with hreserving
    · exact (congrArg Prod.snd (Except.ok.inj h)).symm
    · exact resumeCheckout_conflict (by simp [Enrollment.Offers]) h
  · split at h
    · exact (congrArg Prod.snd (Except.ok.inj h)).symm
    · next ao hfind =>
      split_ifs at h with hreserving
      · rw [bind_eq_ok] at h
        obtain ⟨code, -, h⟩ := h
        refine resumeCheckout_conflict ?_ h
        rintro _ ⟨⟩
        exact ⟨List.mem_of_find?_eq_some hfind, hreserving.1⟩
      · exact (congrArg Prod.snd (Except.ok.inj h)).symm

/-- A sample event with a second public tier that has no seats. -/
def Database.sampleWithSoldOutTier : Database :=
  { Database.sample 1 [] with
    ticketTypes := (Database.sample 1 []).ticketTypes
      ++ [⟨2, true, .publicTier, 1, [⟨2, 1000, none, none⟩], 0, "Sold out"⟩] }

/-- A request for the sold-out tier leaves the hold on the other tier. -/
theorem checkout_conflict_sample :
    ∃ (s s' : Enrollment) (promoted : List Uuid),
      prepareEventCheckoutPurchase sampleEnv 1
        ⟨1, 2, 7, none, some "stripe", none, none, some 100⟩ s
          = .ok (.conflict "ticket-type-sold-out", s')
        ∧ reconcileEventEnrollment 1 (some 2) (some "stripe") s = .ok (promoted, s')
        ∧ ∃ ep ∈ s'.purchases, ep.userId = 7 ∧ ep.HasLiveHold 1 := by
  obtain ⟨db, -, hconflict⟩ := exists_of_replays
    (show Replays (Operation.run sampleEnv) [((0 : Timestamp), sampleCheckout 7 none none)]
      .sampleWithSoldOutTier (fun db ↦ Ensures
        (prepareEventCheckoutPurchase sampleEnv 1
          ⟨1, 2, 7, none, some "stripe", none, none, some 100⟩ db.toEnrollment)
        (fun result ↦ result.1 = .conflict "ticket-type-sold-out"
          ∧ ∃ ep ∈ result.2.purchases, ep.userId = 7 ∧ ep.HasLiveHold 1)
        (fun _ ↦ False)) by decide +kernel)
  obtain ⟨⟨outcome, s'⟩, hprepare, rfl, hhold⟩ := hconflict.exists_ok
  obtain ⟨promoted, hreconcile⟩ := checkout_conflict hprepare
  exact ⟨db.toEnrollment, s', promoted, hprepare, hreconcile, hhold⟩

end Ocg
