import Ocg.Cancellation
import Ocg.Refinement.Enrollment

/-!
# Closing and canceling as runs of moves

Closing expires all holds in one statement and releases what they held in a second pass. As moves
each hold ends on its own, with the second pass's view of the purchases deciding which questionnaire
rows go: a row that the second pass keeps for an entitled purchase, the move may keep for it too,
since expiring holds leaves entitled purchases alone.
-/

namespace Ocg

open Relational

section

variable (mode : MoveMode) {now : Timestamp} {s s' : Enrollment} {db db' : Database}

/-! ## Statements over several purchases -/

/-- `UPDATE event_purchase … WHERE`, on the rows of `rest`. -/
def writeAll (f : Purchase → Purchase) (rest : List Purchase) (s : Enrollment) :
    Except DbError Enrollment :=
  rest.foldlM (fun s ep ↦ writePurchase ep (f ep) s) s

/-- Rows that a statement selected, none of them rewritten yet. -/
structure Enrollment.Selected (s : Enrollment) (rest : List Purchase) : Prop where
  keys : (s.purchases.map Purchase.eventPurchaseId).Nodup
  restKeys : (rest.map Purchase.eventPurchaseId).Nodup
  subset : ∀ ep ∈ rest, ep ∈ s.purchases

theorem Enrollment.Selected.filter (hkeys : (s.purchases.map Purchase.eventPurchaseId).Nodup)
    (selected : Purchase → Bool) : s.Selected (s.purchases.filter selected) :=
  ⟨hkeys, nodup_keys_filter hkeys _, fun _ hep ↦ (List.mem_filter.1 hep).1⟩

theorem Enrollment.Selected.next {ep : Purchase} (new : Purchase) {rest : List Purchase}
    (h : s.Selected (ep :: rest)) (hid : new.eventPurchaseId = ep.eventPurchaseId) :
    ({ s with
      purchases := replaceRow Purchase.eventPurchaseId new s.purchases } : Enrollment).Selected
        rest := by
  have hkeys := h.restKeys
  rw [List.map_cons, List.nodup_cons] at hkeys
  refine ⟨?_, hkeys.2, fun row hrow ↦ ?_⟩
  · rw [map_key_replaceRow]
    exact h.keys
  · refine mem_replaceRow_of_ne (h.subset row (List.mem_cons_of_mem _ hrow)) fun hsame ↦ hkeys.1 ?_
    rw [← hid, ← hsame]
    exact List.mem_map_of_mem hrow

theorem Enrollment.Selected.ne {ep row : Purchase} {rest : List Purchase}
    (h : s.Selected rest) (hep : ep ∈ rest) (hrow : row ∈ s.purchases) (hnot : row ∉ rest) :
    row.eventPurchaseId ≠ ep.eventPurchaseId := fun hid ↦
  hnot (eq_of_key_eq h.keys hrow (h.subset ep hep) hid ▸ hep)

/-- Afterwards the selected rows are rewritten and the others are untouched. -/
theorem writeAll_spec {f : Purchase → Purchase} {rest : List Purchase}
    (hid : ∀ ep, (f ep).eventPurchaseId = ep.eventPurchaseId) (hrest : s.Selected rest)
    (h : writeAll f rest s = .ok s') :
    (∃ purchases, s' = { s with purchases := purchases })
      ∧ ∀ row, row ∈ s'.purchases ↔ (∃ ep ∈ rest, row = f ep)
        ∨ (row ∈ s.purchases ∧ row ∉ rest) := by
  induction rest generalizing s with
  | nil =>
    simp only [writeAll, List.foldlM_nil, pure_eq_ok] at h
    subst h
    exact ⟨⟨_, rfl⟩, by simp⟩
  | cons ep rest ih =>
    simp only [writeAll, List.foldlM_cons, bind_eq_ok] at h
    obtain ⟨s₁, hwrite, hloop⟩ := h
    obtain ⟨-, -, rfl⟩ := writePurchase_eq_ok.1 hwrite
    obtain ⟨⟨purchases, rfl⟩, hrows⟩ := ih (hrest.next (f ep) (hid ep)) hloop
    have hep := hrest.subset ep (by simp)
    have hnodup := hrest.restKeys
    rw [List.map_cons, List.nodup_cons] at hnodup
    have hfresh : f ep ∉ rest := fun hmem ↦ hnodup.1 (hid ep ▸ List.mem_map_of_mem hmem)
    refine ⟨⟨_, rfl⟩, fun row ↦ (hrows row).trans ?_⟩
    rw [mem_replaceRow_iff hep (hid ep).symm]
    constructor
    · rintro (⟨other, hother, rfl⟩ | ⟨rfl | ⟨hrow, hne⟩, hnot⟩)
      · exact .inl ⟨other, List.mem_cons_of_mem _ hother, rfl⟩
      · exact .inl ⟨ep, by simp, rfl⟩
      · refine .inr ⟨hrow, fun hmem ↦ ?_⟩
        rcases List.mem_cons.1 hmem with rfl | hmem
        · exact hne (hid row).symm
        · exact hnot hmem
    · rintro (⟨other, hother, rfl⟩ | ⟨hrow, hnot⟩)
      · rcases List.mem_cons.1 hother with rfl | hother
        · exact .inr ⟨.inl rfl, hfresh⟩
        · exact .inl ⟨other, hother, rfl⟩
      · exact .inr ⟨.inr ⟨hrow, hid ep ▸ hrest.ne (by simp) hrow hnot⟩,
          fun hmem ↦ hnot (List.mem_cons_of_mem _ hmem)⟩

/-! ## Expiring every hold -/

theorem expireAll_moves {rest : List Purchase} {u : Enrollment} (hrest : s.Selected rest)
    (hpending : ∀ ep ∈ rest, ep.status = .pending)
    (h : writeAll (fun ep ↦ ep.expire (ep.holdEndedBy now)) rest s = .ok s')
    (hu : u.purchases = s.purchases) :
    Moves mode now u (rest.foldl (releaseExpired now) { u with purchases := s'.purchases }) := by
  -- both passes over the holds in `rest`, one hold at a time: the second pass runs on the purchases
  -- that the first pass ends with
  induction rest generalizing s u with
  | nil =>
    simp only [writeAll, List.foldlM_nil, pure_eq_ok] at h
    subst h
    rw [← hu]
    exact .refl
  | cons ep rest ih =>
    obtain ⟨-, hrows⟩ := writeAll_spec (fun _ ↦ by rfl) hrest h
    simp only [writeAll, List.foldlM_cons, bind_eq_ok] at h
    obtain ⟨s₁, hwrite, hloop⟩ := h
    obtain ⟨-, haccepted, rfl⟩ := writePurchase_eq_ok.1 hwrite
    have hep := hrest.subset ep (by simp)
    have hmove : EnrollmentMove mode now .plain u _ := .expire mode
      (keepsHold now ep.userId s'.purchases) (hu ▸ hep) (hpending ep (by simp)) (haccepted.congr hu)
      (fun _ _ ↦ keepsHold_dropped) fun ea _ hkeep huser hstatus hmanual ↦ by
        -- what the second pass keeps the row for is no hold of this loop
        obtain ⟨other, hother, hother_user, hother_status⟩ :=
          keepsHold_kept hkeep huser hstatus hmanual
        refine ⟨other, ?_, hother_user, hother_status⟩
        rcases (hrows other).1 hother with ⟨row, -, rfl⟩ | ⟨hold, hnot⟩
        · simp [Purchase.expire] at hother_status
        · rw [hu]
          have hne : other.eventPurchaseId ≠ ep.eventPurchaseId :=
            hrest.ne List.mem_cons_self hold hnot
          exact mem_replaceRow_of_ne hold hne
    rw [hu] at hmove
    exact (Relation.ReflTransGen.single hmove).trans
      (ih (hrest.next (ep.expire (ep.holdEndedBy now)) rfl)
        (fun row hrow ↦ hpending row (List.mem_cons_of_mem _ hrow)) hloop rfl)

theorem releaseExpired_foldl (now : Timestamp) (s : Enrollment) (rest : List Purchase) :
    ∃ codes attendees, rest.foldl (releaseExpired now) s
      = { s with discountCodes := codes, attendees := attendees }
      ∧ ∀ ea ∈ s.attendees, ea.status ≠ .registrationQuestionsPending → ea ∈ attendees := by
  induction rest generalizing s with
  | nil => exact ⟨s.discountCodes, s.attendees, rfl, fun ea hea _ ↦ hea⟩
  | cons ep rest ih =>
    obtain ⟨codes, attendees, hstate, hkept⟩ := ih (releaseExpired now s ep)
    refine ⟨codes, attendees, hstate, fun ea hea hstatus ↦ hkept ea ?_ hstatus⟩
    exact List.mem_filter.2 ⟨hea, by simp [hstatus]⟩

/-- What expiring every hold leaves. -/
structure Enrollment.Drained (s s' : Enrollment) : Prop where
  event : s'.event = s.event
  group : s'.group = s.group
  admissionOffers : s'.admissionOffers = s.admissionOffers
  waitlist : s'.waitlist = s.waitlist
  invitationRequests : s'.invitationRequests = s.invitationRequests
  purchases : ∀ row, row ∈ s'.purchases →
    row.status = .expired ∨ (row ∈ s.purchases ∧ row.status ≠ .pending)
  kept : ∀ row ∈ s.purchases, row.status ≠ .pending → row ∈ s'.purchases
  confirmed : ∀ ea ∈ s.attendees, ea.status ≠ .registrationQuestionsPending → ea ∈ s'.attendees

theorem expirePendingCheckouts_spec (hwf : s.WellFormed)
    (h : expirePendingCheckouts now s = .ok s') : Moves mode now s s' ∧ s.Drained s' := by
  unfold expirePendingCheckouts at h
  simp only [bind_eq_ok, Except.ok.injEq] at h
  obtain ⟨t, ht, rfl⟩ := h
  set pending := s.purchases.filter fun ep ↦ ep.status = .pending with hdef
  have hselected : s.Selected pending := .filter hwf.purchaseKeys _
  have hpending : ∀ ep ∈ pending, ep.status = .pending := fun ep hep ↦ by
    simpa using (List.mem_filter.1 hep).2
  have hall : writeAll (fun ep ↦ ep.expire (ep.holdEndedBy now)) pending s = .ok t := ht
  obtain ⟨⟨purchases, rfl⟩, hrows⟩ := writeAll_spec (fun _ ↦ by rfl) hselected hall
  refine ⟨expireAll_moves mode hselected hpending ht rfl, ?_⟩
  obtain ⟨codes, attendees, hstate, hkept⟩ :=
    releaseExpired_foldl now { s with purchases := purchases } pending
  rw [hstate]
  refine ⟨rfl, rfl, rfl, rfl, rfl, fun row hrow ↦ ?_, fun row hrow hnot ↦ ?_, hkept⟩
  · rcases (hrows row).1 hrow with ⟨ep, -, rfl⟩ | ⟨hold, hnot⟩
    · exact .inl rfl
    · exact .inr ⟨hold, fun hstatus ↦ hnot (List.mem_filter.2 ⟨hold, by simpa using hstatus⟩)⟩
  · exact (hrows row).2 (.inr ⟨hrow, fun hmem ↦ hnot (hpending row hmem)⟩)

/-! ## Withdrawing every offer -/

/-- The state of a loop that ends the statuses in `todo`, while `rest` is still to come. -/
structure Offering (now : Timestamp) (s : Enrollment) (todo : OfferStatus → Prop)
    (rest : List AdmissionOffer) (t : Enrollment) : Prop where
  moves : Moves mode now s t
  state : t = { s with admissionOffers := t.admissionOffers }
  keys : (rest.map AdmissionOffer.admissionOfferId).Nodup
  selected : ∀ ao ∈ rest, ao ∈ s.admissionOffers ∧ todo ao.status
  untouched : ∀ ao ∈ rest, ao ∈ t.admissionOffers
  done : ∀ ao ∈ t.admissionOffers, todo ao.status → ao ∈ rest

variable {mode} in
theorem Offering.next {todo : OfferStatus → Prop} {ao : AdmissionOffer} {status : OfferStatus}
    {rest : List AdmissionOffer} {t : Enrollment} (h : Offering mode now s todo (ao :: rest) t)
    (hstatus : ¬ todo status)
    (hmove : EnrollmentMove mode now .plain t { t with
      admissionOffers := replaceRow AdmissionOffer.admissionOfferId { ao with status := status }
        t.admissionOffers }) :
    Offering mode now s todo rest { t with
      admissionOffers := replaceRow AdmissionOffer.admissionOfferId { ao with status := status }
        t.admissionOffers } := by
  have hkeys := h.keys
  rw [List.map_cons, List.nodup_cons] at hkeys
  refine ⟨h.moves.tail hmove, by rw [h.state], hkeys.2,
    fun row hrow ↦ h.selected row (List.mem_cons_of_mem _ hrow), fun row hrow ↦ ?_,
    fun row hrow htodo ↦ ?_⟩
  · refine mem_replaceRow_of_ne (h.untouched row (List.mem_cons_of_mem _ hrow)) fun hid ↦ hkeys.1 ?_
    rw [← show row.admissionOfferId = ao.admissionOfferId from hid]
    exact List.mem_map_of_mem hrow
  · rcases mem_replaceRow hrow with rfl | ⟨hrow, hne⟩
    · exact absurd htodo hstatus
    · exact (List.mem_cons.1 (h.done row hrow htodo)).resolve_left fun heq ↦ hne (heq ▸ rfl)

theorem Offering.start {todo : OfferStatus → Prop} {rest : List AdmissionOffer}
    (hkeys : (rest.map AdmissionOffer.admissionOfferId).Nodup)
    (hrest : ∀ ao, ao ∈ rest ↔ ao ∈ s.admissionOffers ∧ todo ao.status) :
    Offering mode now s todo rest s :=
  ⟨.refl, rfl, hkeys, fun ao hao ↦ (hrest ao).1 hao, fun ao hao ↦ ((hrest ao).1 hao).1,
    fun ao hao htodo ↦ (hrest ao).2 ⟨hao, htodo⟩⟩

theorem returnCheckoutOffers_spec (now : Timestamp) (hwf : s.WellFormed)
    (h : returnCheckoutOffers s = .ok s') :
    Offering mode now s (· = .checkoutPending) [] s' := by
  refine foldlM_suffix (P := Offering mode now s (· = .checkoutPending)) ?_
    (.start mode (nodup_keys_filter hwf.offerKeys _) fun ao ↦ by simp) h
  intro ao rest t t' ht hwrite
  obtain ⟨-, haccepts, rfl⟩ := (writeAdmissionOffer_eq_ok (by rfl)).1 hwrite
  exact ht.next (by simp) (.returnOffer (ht.untouched ao (by simp)) (ht.selected ao (by simp)).2
    haccepts)

theorem cancelPendingOffers_spec (now : Timestamp) (hwf : s.WellFormed)
    (hreturned : ∀ ao ∈ s.admissionOffers, ao.status ≠ .checkoutPending)
    (h : cancelPendingOffers s = .ok s') : Offering mode now s OfferStatus.IsActive [] s' := by
  refine foldlM_suffix (P := Offering mode now s OfferStatus.IsActive) ?_
    (.start mode (nodup_keys_filter hwf.offerKeys _) fun ao ↦ ?_) h
  · intro ao rest t t' ht hstep
    simp only [bind_eq_ok, Except.ok.injEq] at hstep
    obtain ⟨updated, hupdated, rfl⟩ := hstep
    have hao := ht.untouched ao (by simp)
    obtain ⟨hao_old, hactive⟩ := ht.selected ao (by simp)
    rcases updateAdmissionOffer_eq_ok hupdated fun _ ↦ rfl with
      ⟨-, hnone⟩ | ⟨row, hrow, hid, -, hfollows, -, rfl⟩
    · exact absurd ((OfferStatus.isActive_iff.1 hactive).resolve_left (hreturned ao hao_old))
        (hnone ao hao rfl)
    · obtain rfl : row = ao := eq_of_key_eq (ht.moves.wellFormed hwf).offerKeys hrow hao hid
      exact ht.next (by simp) (.endOffer hao (by simp) hfollows.status)
  · simp only [List.mem_filter, decide_eq_true_eq, OfferStatus.isActive_iff]
    exact and_congr_right fun hao ↦ ⟨.inr, fun hactive ↦ hactive.resolve_left (hreturned ao hao)⟩

/-! ## Closing -/

/-- What closing enrollment leaves. -/
structure Enrollment.Closed (s s' : Enrollment) : Prop where
  event : s'.event = s.event
  group : s'.group = s.group
  waitlist : s'.waitlist = []
  admissionOffers : ∀ ao ∈ s'.admissionOffers, ¬ ao.status.IsActive
  invitationRequests : ∀ eir ∈ s'.invitationRequests, eir.status ≠ .pending
  purchases : ∀ row ∈ s'.purchases,
    row.status = .expired ∨ (row ∈ s.purchases ∧ row.status ≠ .pending)
  kept : ∀ row ∈ s.purchases, row.status ≠ .pending → row ∈ s'.purchases

/-- **Closing is a run of moves** that leaves nothing to be enrolled by. -/
theorem closeEventEnrollment_spec (hwf : s.WellFormed) (h : closeEventEnrollment now s = .ok s') :
    Moves mode now s s' ∧ s.Closed s' := by
  unfold closeEventEnrollment at h
  simp only [bind_eq_ok, Except.ok.injEq] at h
  obtain ⟨t, ht, u, hu, v, hv, rfl⟩ := h
  obtain ⟨hexpired, hdrained⟩ := expirePendingCheckouts_spec mode hwf ht
  have hreturn := returnCheckoutOffers_spec mode now (hexpired.wellFormed hwf) hu
  have hreach : Moves mode now s u := hexpired.trans hreturn.moves
  have hcancel := cancelPendingOffers_spec mode now (hreach.wellFormed hwf)
    (fun ao hao hstatus ↦ by simpa using hreturn.done ao hao hstatus) hv
  have hpurchases : v.purchases = t.purchases := by rw [hcancel.state, hreturn.state]
  refine ⟨((hreach.trans hcancel.moves).tail (.dropRequests fun eir ↦ eir.status ≠ .pending)).tail
    ?_,
    ?_⟩
  · have hleave : EnrollmentMove mode now .plain { v with
        invitationRequests := v.invitationRequests.filter fun eir ↦ eir.status ≠ .pending } _ :=
      .leaveQueue fun _ ↦ false
    simpa using hleave
  · refine ⟨?_, ?_, rfl, fun ao hao hactive ↦ by simpa using hcancel.done ao hao hactive,
      fun eir heir ↦ by simpa using (List.mem_filter.1 heir).2, fun row hrow ↦ ?_,
        fun row hrow hnot ↦ ?_⟩
    · exact (show v.event = _ by rw [hcancel.state, hreturn.state]).trans hdrained.event
    · exact (show v.group = _ by rw [hcancel.state, hreturn.state]).trans hdrained.group
    · exact hdrained.purchases row (hpurchases ▸ hrow)
    · exact hpurchases ▸ hdrained.kept row hrow hnot

/-- **Unpublishing is a run of moves.** -/
theorem unpublishEvent_moves {groupId : Uuid} (hwf : s.WellFormed)
    (h : unpublishEvent now groupId s = .ok s') : Moves mode now s s' := by
  unfold unpublishEvent at h
  simp only [bind_eq_ok, require_eq_ok] at h
  obtain ⟨-, -, h⟩ := h
  split at h
  · obtain rfl := Except.ok.inj h
    exact .refl
  · simp only [bind_eq_ok, Except.ok.injEq] at h
    obtain ⟨t, ht, rfl⟩ := h
    exact (closeEventEnrollment_spec mode hwf ht).1.tail (.setPublished false)

end

end Ocg
