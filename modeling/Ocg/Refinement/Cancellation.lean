import Ocg.Refinement.Close

/-!
# Canceling an event as a run of moves

`cancel_event` ends attendance before it settles the purchases behind it. As moves the purchases are
settled first: free ones are refunded, paid ones start their refund row and are handed over; then
attendance ends, and the event is canceled last. Each statement is therefore described by the tables
it rewrites, and by the moves that rewrite them in any state that agrees on what it reads.
-/

namespace Ocg

open Relational

section

variable (mode : MoveMode) {now : Timestamp} {s s' : Enrollment} {db db' : Database}

/-! ## Free purchases -/

/-- The inventory after the discounts of `rest` are given back. -/
def releaseCodes (rest : List Purchase) (codes : List DiscountCode) : List DiscountCode :=
  rest.foldl (fun codes ep ↦ codes.map fun edc ↦
    if some edc.eventDiscountCodeId = ep.eventDiscountCodeId then edc.addAvailable 1 else edc) codes

theorem releaseAll_eq (rest : List Purchase) :
    rest.foldl (fun s ep ↦ releaseEventDiscountCodeAvailability ep.eventDiscountCodeId s) s
      = { s with discountCodes := releaseCodes rest s.discountCodes } := by
  induction rest generalizing s with
  | nil => rfl
  | cons ep rest ih => exact ih

theorem refundFreeAll_moves {rest : List Purchase} {u : Enrollment} (hrest : s.Selected rest)
    (hfree : ∀ ep ∈ rest, ep.amountMinor = 0 ∧ ep.status.IsEntitled)
    (h : writeAll (fun ep ↦ { ep with status := .refunded }) rest s = .ok s')
    (hu : u.purchases = s.purchases) :
    Moves mode now u { u with
      purchases := s'.purchases
      discountCodes := releaseCodes rest u.discountCodes } := by
  -- refunding the free purchases in `rest`, one at a time
  induction rest generalizing s u with
  | nil =>
    simp only [writeAll, List.foldlM_nil, pure_eq_ok] at h
    subst h
    rw [← hu]
    exact .refl
  | cons ep rest ih =>
    simp only [writeAll, List.foldlM_cons, bind_eq_ok] at h
    obtain ⟨s₁, hwrite, hloop⟩ := h
    obtain ⟨-, haccepted, rfl⟩ := writePurchase_eq_ok.1 hwrite
    obtain ⟨hamount, hentitled⟩ := hfree ep (by simp)
    have haccepted' : u.AcceptsPurchase { ep with status := .refunded } := haccepted.congr hu
    have hmove : EnrollmentMove mode now .plain u _ := .setStatus mode
      (hu ▸ hrest.subset ep (by simp)) haccepted' (.refundFree hentitled hamount rfl)
    rw [hu] at hmove
    exact (Relation.ReflTransGen.single hmove).trans
      (ih (hrest.next { ep with status := .refunded } rfl)
        (fun row hrow ↦ hfree row (List.mem_cons_of_mem _ hrow)) hloop rfl)

/-- The purchases that canceling refunds in place. -/
def Purchase.IsFreeEntitled (ep : Purchase) : Prop := ep.amountMinor = 0 ∧ ep.status.IsEntitled

theorem refundFreePurchases_spec (now : Timestamp)
    (hkeys : (s.purchases.map Purchase.eventPurchaseId).Nodup)
    (h : refundFreePurchases s = .ok s') :
    (∃ purchases codes, s' = { s with purchases := purchases, discountCodes := codes })
      ∧ (∀ row, row ∈ s'.purchases ↔ (∃ ep ∈ s.purchases, ep.IsFreeEntitled
          ∧ row = { ep with status := .refunded }) ∨ (row ∈ s.purchases ∧ ¬ row.IsFreeEntitled))
      ∧ ∀ u : Enrollment, u.purchases = s.purchases → u.discountCodes = s.discountCodes →
        Moves mode now u { u with
          purchases := s'.purchases
          discountCodes := s'.discountCodes } := by
  unfold refundFreePurchases at h
  simp only [bind_eq_ok, Except.ok.injEq] at h
  obtain ⟨t, ht, rfl⟩ := h
  rw [releaseAll_eq]
  set free := s.purchases.filter fun ep ↦ ep.amountMinor = 0 ∧ ep.status.IsEntitled with hdef
  have hmem : ∀ ep, ep ∈ free ↔ ep ∈ s.purchases ∧ ep.IsFreeEntitled := fun ep ↦ by
    rw [hdef, List.mem_filter, decide_eq_true_eq]
    rfl
  have hselected : s.Selected free := .filter hkeys _
  have hall : writeAll (fun ep ↦ { ep with status := .refunded }) free s = .ok t := ht
  obtain ⟨⟨purchases, rfl⟩, hrows⟩ := writeAll_spec (fun _ ↦ by rfl) hselected hall
  refine ⟨⟨_, _, rfl⟩, fun row ↦ (hrows row).trans ?_, fun u hu hcodes ↦ ?_⟩
  · simp only [hmem, not_and]
    refine or_congr ?_ (and_congr_right fun hrow ↦ ⟨fun hnot ↦ hnot hrow, fun hnot _ ↦ hnot⟩)
    simp only [and_assoc]
  · have hmoves : Moves mode now u _ :=
      refundFreeAll_moves mode hselected (fun ep hep ↦ ((hmem ep).1 hep).2) hall hu
    rw [hcodes] at hmoves
    exact hmoves

/-! ## Paid purchases -/

/-- The paid purchases in `rest` each start a refund row, or have one. -/
theorem queuePaidRefunds_spec {actor : Uuid}
    (h : queuePaidRefunds now actor db = .ok db') :
    (∃ n refunds, db' = { db with nextRefundUuid := n, refunds := refunds })
      ∧ (∀ ep ∈ paidEntitled db.toEnrollment, db'.HasRefund ep.eventPurchaseId)
      ∧ ∀ u : Database, u.purchases = db.purchases → u.refunds = db.refunds →
        u.nextRefundUuid = db.nextRefundUuid →
        PartitionMoves mode now u { u with
          nextRefundUuid := db'.nextRefundUuid
          refunds := db'.refunds } := by
  have hinv := foldlM_suffix (P := fun rest t ↦
    (∀ ep ∈ rest, ep ∈ paidEntitled db.toEnrollment)
      ∧ (∃ n refunds, t = { db with nextRefundUuid := n, refunds := refunds })
      ∧ (∀ ep ∈ paidEntitled db.toEnrollment, t.HasRefund ep.eventPurchaseId ∨ ep ∈ rest)
      ∧ ∀ u : Database, u.purchases = db.purchases → u.refunds = db.refunds →
        u.nextRefundUuid = db.nextRefundUuid →
        PartitionMoves mode now u { u with
          nextRefundUuid := t.nextRefundUuid
          refunds := t.refunds })
    ?_ ⟨fun ep hep ↦ hep, ⟨_, _, rfl⟩, fun ep hep ↦ .inr hep, fun u _ hrefunds hn ↦ ?_⟩ h
  · obtain ⟨-, hstate, hhas, hmoves⟩ := hinv
    exact ⟨hstate, fun ep hep ↦ (hhas ep hep).resolve_right (by simp), hmoves⟩
  · rintro ep rest t t' ⟨hsub, ⟨n, refunds, rfl⟩, hhas, hmoves⟩ hensure
    have hep := hsub ep (by simp)
    obtain ⟨hmem, hselected⟩ := List.mem_filter.1 hep
    obtain ⟨hpaid, hentitled⟩ := of_decide_eq_true hselected
    rcases ensureRefund_spec hensure with ⟨hrefund, rfl⟩ | ⟨row, hstarts, hkind, hamount, rfl⟩
    · refine ⟨fun other hother ↦ hsub other (List.mem_cons_of_mem _ hother), ⟨_, _, rfl⟩,
        fun other hother ↦ ?_, hmoves⟩
      rcases hhas other hother with hdone | hrest
      · exact .inl hdone
      · rcases List.mem_cons.1 hrest with rfl | hrest
        · exact .inl hrefund
        · exact .inr hrest
    · refine ⟨fun other hother ↦ hsub other (List.mem_cons_of_mem _ hother), ⟨_, _, rfl⟩,
        fun other hother ↦ ?_, fun u hu hrefunds hn ↦ ?_⟩
      · rcases hhas other hother with ⟨r, hr, hlink⟩ | hrest
        · exact .inl ⟨r, List.mem_append_left _ hr, hlink⟩
        · rcases List.mem_cons.1 hrest with rfl | hrest
          · exact .inl ⟨row, by simp, hstarts.purchase⟩
          · exact .inr hrest
      · refine (hmoves u hu hrefunds hn).tail (.startRefund (hu ▸ hmem) hentitled hpaid
          ⟨hstarts.id, hstarts.purchase, hstarts.key, hstarts.status, hstarts.finalizedAt,
            hstarts.recoveryCompletedAt, hstarts.valid, hstarts.first⟩ ?_ hamount)
        rw [hkind]
        simp
  · rw [← hrefunds, ← hn]

/-- The row of a purchase handed to its refund job. -/
def Purchase.handOver (ep : Purchase) : Purchase :=
  { ep with holdExpiresAt := none, status := .refundPending }

theorem handOverAll_moves {rest : List Purchase} {u : Database} (hrest : s.Selected rest)
    (hentitled : ∀ ep ∈ rest, ep.status.IsEntitled) (h : writeAll Purchase.handOver rest s = .ok s')
    (hu : u.purchases = s.purchases) (hrefund : ∀ ep ∈ rest, u.HasRefund ep.eventPurchaseId) :
    PartitionMoves mode now u { u with
      toEnrollment := { u.toEnrollment with purchases := s'.purchases } } := by
  induction rest generalizing s u with
  | nil =>
    simp only [writeAll, List.foldlM_nil, pure_eq_ok] at h
    subst h
    rw [← hu]
  | cons ep rest ih =>
    simp only [writeAll, List.foldlM_cons, bind_eq_ok] at h
    obtain ⟨s₁, hwrite, hloop⟩ := h
    obtain ⟨-, haccepted, rfl⟩ := writePurchase_eq_ok.1 hwrite
    have hcontinues : ep.handOver.Continues ep :=
      ⟨rfl, rfl, rfl, rfl, rfl, rfl, .inl rfl, .inl rfl, rfl, rfl, rfl⟩
    have hmove : EnrollmentMove mode now (.handOver ep) u.toEnrollment _ :=
      .movePurchase (hu ▸ hrest.subset ep (by simp)) hcontinues (haccepted.congr hu)
        (.handOver (hentitled ep (by simp)) rfl)
    rw [hu] at hmove
    have hfirst : PartitionMoves mode now u { u with
        toEnrollment := { u.toEnrollment with
          purchases := replaceRow Purchase.eventPurchaseId ep.handOver s.purchases } } :=
      .single (.handOver hmove (hrefund ep (by simp)))
    exact hfirst.trans
      (ih (hrest.next ep.handOver rfl) (fun row hrow ↦ hentitled row (List.mem_cons_of_mem _ hrow))
        hloop rfl fun row hrow ↦ hrefund row (List.mem_cons_of_mem _ hrow))

/-! ## Attendance -/

theorem cancelAllAttendance_spec (now : Timestamp) (hwf : s.WellFormed)
    (h : cancelAllAttendance s = .ok s') :
    ∃ attendees, s' = { s with attendees := attendees }
      ∧ (∀ ea ∈ attendees, ea.status = .attendanceCanceled)
      ∧ ∀ u : Enrollment, u.attendees = s.attendees →
        (∀ ep ∈ u.purchases, ¬ ep.status.IsEntitled) →
        Moves mode now u { u with attendees := attendees } := by
  unfold cancelAllAttendance at h
  simp only [bind_eq_ok, Except.ok.injEq, Prod.exists] at h
  obtain ⟨found, t, ht, found', t', ht', rfl⟩ := h
  obtain ⟨-, attendees, rfl, hrows, hmoves⟩ :=
    updateAttendees_cancel_spec mode now hwf.attendeeKeys ht
  have hcanceled : ∀ ea ∈ attendees, ea.status = .attendanceCanceled := by
    intro ea hea
    rcases hrows ea hea with hdone | ⟨hold, hnot⟩
    · exact hdone
    · have hstatus := hwf.attendeeStatus ea hold
      simp only [List.mem_cons, List.not_mem_nil, or_false] at hstatus hnot
      exact hstatus.resolve_right hnot
  -- no row is left for the statement over open invitations
  have hnone : (attendees.filter fun ea ↦ ea.status = .invitationPending) = [] := by
    refine List.filter_eq_nil_iff.2 fun ea hea ↦ ?_
    simp [hcanceled ea hea]
  unfold updateAttendees at ht'
  simp only [hnone, List.foldlM_nil, pure_bind, Except.ok.injEq, Prod.mk.injEq] at ht'
  obtain ⟨-, rfl⟩ := ht'
  exact ⟨attendees, rfl, hcanceled, fun u hu hfree ↦
    hmoves u hu fun ea _ _ ep hep _ ↦ hfree ep hep⟩

theorem onEnrollment_eq_ok {f : Enrollment → Except DbError Enrollment}
    (h : onEnrollment f db = .ok db') :
    ∃ s, f db.toEnrollment = .ok s ∧ db' = { db with toEnrollment := s } := by
  unfold onEnrollment at h
  simp only [bind_eq_ok, Except.ok.injEq] at h
  obtain ⟨s, hs, rfl⟩ := h
  exact ⟨s, hs, rfl⟩

/-! ## The whole -/

/-- What canceling leaves: nobody is enrolled or may enroll, free purchases are refunded, and paid
ones wait for a refund of what the provider was paid. -/
structure Database.CanceledBy (db db' : Database) : Prop where
  canceled : db'.event.canceled = true
  inactive : ∀ ep ∈ db'.purchases, ¬ ep.status.IsActive
  free : ∀ ep ∈ db.purchases, ep.IsFreeEntitled →
    { ep with status := .refunded } ∈ db'.purchases
  paid : ∀ ep ∈ db.purchases, 0 < ep.amountMinor → ep.status.IsEntitled →
    ep.handOver ∈ db'.purchases ∧ ∃ r ∈ db'.refunds, r.eventPurchaseId = ep.eventPurchaseId
      ∧ ep.financialAmounts.map (·.providerTotalMinor) = some r.amountMinor
  admissionOffers : ∀ ao ∈ db'.admissionOffers, ¬ ao.status.IsActive
  waitlist : db'.waitlist = []
  invitationRequests : ∀ eir ∈ db'.invitationRequests, eir.status ≠ .pending
  attendees : ∀ ea ∈ db'.attendees, ea.status = .attendanceCanceled

/-- **Canceling an event is a run of moves** that leaves it empty. -/
theorem cancelEvent_spec {actor groupId : Uuid} (hwf : db.toEnrollment.WellFormed)
    (hrefunds : db.RefundsConsistent) (h : cancelEvent now actor groupId db = .ok db') :
    PartitionMoves mode now db db' ∧ db.CanceledBy db' := by
  unfold cancelEvent at h
  simp only [bind_eq_ok, require_eq_ok, Except.ok.injEq] at h
  obtain ⟨-, -, db₁, h₁, -, -, db₂, h₂, db₃, h₃, db₄, h₄, db₅, h₅, rfl⟩ := h
  obtain ⟨s₁, hclose, rfl⟩ := onEnrollment_eq_ok h₁
  obtain ⟨s₂, hattendance, rfl⟩ := onEnrollment_eq_ok h₂
  obtain ⟨s₃, hfree, rfl⟩ := onEnrollment_eq_ok h₃
  obtain ⟨s₅, hhand, rfl⟩ := onEnrollment_eq_ok h₅
  obtain ⟨hclosing, hclosed⟩ := closeEventEnrollment_spec mode hwf hclose
  have hwf₁ : s₁.WellFormed := hclosing.wellFormed hwf
  obtain ⟨attendees, rfl, hcanceled, hattendance_moves⟩ :=
    cancelAllAttendance_spec mode now hwf₁ hattendance
  obtain ⟨⟨purchases, codes, rfl⟩, hfree_rows, hfree_moves⟩ :=
    refundFreePurchases_spec mode now (by exact hwf₁.purchaseKeys) hfree
  obtain ⟨⟨n, refunds, rfl⟩, hhas, hqueue⟩ := queuePaidRefunds_spec mode h₄
  -- the same statements without the attendance update, which comes last
  set u₁ : Database := { db with
    toEnrollment := { s₁ with purchases := purchases, discountCodes := codes } } with hu₁
  have hmoves₁ : PartitionMoves mode now db u₁ :=
    Moves.lift mode (hclosing.trans (hfree_moves s₁ rfl rfl))
  have hmoves₂ : PartitionMoves mode now u₁
      { u₁ with nextRefundUuid := n, refunds := refunds } := hqueue u₁ rfl rfl rfl
  obtain ⟨hwf₂, hrefunds₂⟩ := PartitionMoves.consistent mode (hmoves₁.trans hmoves₂) hwf hrefunds
  set s₄ : Enrollment := { s₁ with
    attendees := attendees, purchases := purchases, discountCodes := codes } with hs₄
  have hselected : s₄.Selected (paidEntitled s₄) := .filter (by exact hwf₂.purchaseKeys) _
  have hpaid : ∀ ep, ep ∈ paidEntitled s₄ ↔ ep ∈ purchases ∧ 0 < ep.amountMinor
      ∧ ep.status.IsEntitled := fun ep ↦ by
    rw [paidEntitled, List.mem_filter, decide_eq_true_eq]
  have hall : writeAll Purchase.handOver (paidEntitled s₄) s₄ = .ok s₅ := hhand
  obtain ⟨⟨purchases', rfl⟩, hpaid_rows⟩ := writeAll_spec (fun _ ↦ by rfl) hselected hall
  have hmoves₃ : PartitionMoves mode now { u₁ with nextRefundUuid := n, refunds := refunds } _ :=
    handOverAll_moves mode hselected (fun ep hep ↦ ((hpaid ep).1 hep).2.2) hall rfl hhas
  -- what the two statements over purchases leave
  have hinactive : ∀ ep ∈ purchases', ¬ ep.status.IsActive := by
    intro ep hep
    rcases (hpaid_rows ep).1 hep with ⟨row, -, rfl⟩ | ⟨hkept, hnotPaid⟩
    · simp [Purchase.handOver]
    · rcases (hfree_rows ep).1 hkept with ⟨row, -, -, rfl⟩ | ⟨hold, hnotFree⟩
      · simp
      · rcases hclosed.purchases ep hold with hexpired | ⟨-, hnotPending⟩
        · simp [hexpired]
        · intro hactive
          have hentitled : ep.status.IsEntitled := by
            rcases PurchaseStatus.isActive_iff.1 hactive with hs | hs | hs
            · simp [hs]
            · exact absurd hs hnotPending
            · simp [hs]
          rcases (hwf₁.purchaseAccepted ep hold).valid.amount.eq_or_lt with hzero | hpos
          · exact hnotFree ⟨hzero.symm, hentitled⟩
          · exact hnotPaid ((hpaid ep).2 ⟨hkept, hpos, hentitled⟩)
  have hmoves₄ := hattendance_moves { s₁ with purchases := purchases', discountCodes := codes } rfl
    fun ep hep hentitled ↦ hinactive ep hep hentitled.isActive
  have hcancel : EnrollmentMove mode now .plain { s₁ with
      attendees := attendees, purchases := purchases', discountCodes := codes } _ :=
    .setCanceled hinactive hcanceled
  refine ⟨((hmoves₁.trans hmoves₂).trans hmoves₃).trans
    ((Moves.lift mode (hmoves₄.tail hcancel)).tail (.bookkeeping le_rfl)), ?_⟩
  have hentitled_kept : ∀ ep ∈ db.purchases, ep.status.IsEntitled → ep ∈ s₁.purchases :=
    fun ep hep hentitled ↦ hclosed.kept ep hep fun hpending ↦ by simp [hpending] at hentitled
  refine ⟨rfl, hinactive, fun ep hep hfree ↦ ?_, fun ep hep hpos hentitled ↦ ?_,
    hclosed.admissionOffers, hclosed.waitlist, hclosed.invitationRequests, hcanceled⟩
  · refine (hpaid_rows _).2 (.inr ⟨(hfree_rows _).2 (.inl ⟨ep, hentitled_kept ep hep hfree.2, hfree,
      rfl⟩), fun hmem ↦ ?_⟩)
    have := ((hpaid _).1 hmem).2.2
    simp at this
  · have hmem : ep ∈ purchases := (hfree_rows ep).2 (.inr ⟨hentitled_kept ep hep hentitled,
      fun hfree ↦ hpos.ne' hfree.1⟩)
    have hqueued := (hpaid ep).2 ⟨hmem, hpos, hentitled⟩
    obtain ⟨r, hr, hlink⟩ := hhas ep hqueued
    exact ⟨(hpaid_rows _).2 (.inl ⟨ep, hqueued, rfl⟩), r, hr, hlink,
      (hrefunds₂.matches_of_link hwf₂ hr hmem hlink.symm).amount hentitled⟩

end

end Ocg
