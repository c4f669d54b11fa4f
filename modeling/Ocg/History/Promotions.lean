import Ocg.History.Worker
import Ocg.Relational.Queue

/-!
# Promotion takes the queues in order

`reconcile_event_enrollment` counts the allocated seats again after every promotion. Each promotion
allocates one seat of its own tier and none of another, so the loop over a tier takes the first
entries of its queue, as many as there were free seats when the sweep was done.
-/

namespace Ocg

open Relational

variable {now : Timestamp} {provider : Option String} {s s' : Enrollment}

/-! ## Queues and promotions -/

/-- `(created_at, user_id)`. -/
def WaitlistEntry.rank (ew : WaitlistEntry) : Timestamp ×ₗ Uuid := toLex (ew.createdAt, ew.userId)

/-- The queue of a tier, in its order. -/
def queue (tier : Uuid) (s : Enrollment) : List WaitlistEntry :=
  inOrder WaitlistEntry.rank (s.waitlist.filter fun ew ↦ ew.eventTicketTypeId = tier)

/-- The tier has an active price window that is free, or payments are ready. -/
def TicketType.IsPayable (now : Timestamp) (provider : Option String) (s : Enrollment)
    (ett : TicketType) : Prop :=
  ∃ price ∈ ett.currentPrice now, 0 < price → PaymentReady provider s

instance TicketType.decidableIsPayable (now : Timestamp) (provider : Option String) (s : Enrollment)
    (ett : TicketType) : Decidable (ett.IsPayable now provider s) :=
  inferInstanceAs (Decidable (∃ price ∈ ett.currentPrice now, _))

/-- The seats of a tier that are not allocated. -/
def freeSeats (now : Timestamp) (s : Enrollment) (ett : TicketType) : ℕ :=
  ett.seatsTotal - allocatedSeatCount now ett.eventTicketTypeId s

/-- The entries that are due for promotion from the queue of a tier. -/
def promotions (now : Timestamp) (provider : Option String) (s : Enrollment) (ett : TicketType) :
    List WaitlistEntry :=
  if ett.IsPayable now provider s then
    (queue ett.eventTicketTypeId s).take (freeSeats now s ett)
  else []

/-- The state after an entry has become an offer. -/
def Enrollment.promoteEntry (now : Timestamp) (s : Enrollment) (head : WaitlistEntry) :
    Enrollment :=
  { s with
    admissionOffers := s.admissionOffers ++ [newOffer s.nextUuid now head.eventTicketTypeId
      head.userId (promotionDeadline now s.event) .waitlist none]
    nextUuid := s.nextUuid + 1
    waitlist := s.waitlist.filter fun ew ↦
      ¬ (ew.userId = head.userId ∧ ew.eventTicketTypeId = head.eventTicketTypeId) }

/-- What the promotions of one tier need of the tables. -/
structure Enrollment.Promotable (now : Timestamp) (s : Enrollment) : Prop where
  keyed : s.Keyed
  users : (s.waitlist.map WaitlistEntry.userId).Nodup
  deadline : now < promotionDeadline now s.event

/-! ## The queue of a tier -/

theorem WaitlistEntry.before_iff (ew ew' : WaitlistEntry) :
    ew.before ew' = true ↔ ew.rank < ew'.rank := by
  rw [WaitlistEntry.rank, WaitlistEntry.rank, Prod.Lex.toLex_lt_toLex, WaitlistEntry.before,
    decide_eq_true_eq]

theorem nodup_ranks {rows : List WaitlistEntry} (h : (rows.map WaitlistEntry.userId).Nodup) :
    (rows.map WaitlistEntry.rank).Nodup := by
  refine List.Nodup.of_map (fun rank ↦ (ofLex rank).2) ?_
  rw [List.map_map]
  exact h

namespace Enrollment.Promotable

variable (h : s.Promotable now) {tier other : Uuid}

include h

theorem tierUsers (tier : Uuid) :
    ((s.waitlist.filter fun ew ↦ ew.eventTicketTypeId = tier).map WaitlistEntry.userId).Nodup :=
  nodup_keys_filter h.users _

theorem queueHead_eq (tier : Uuid) : queueHead tier s = (queue tier s).head? :=
  firstBy_eq_head?_inOrder WaitlistEntry.before_iff (nodup_ranks (h.tierUsers tier))

theorem pairwise_queue (tier : Uuid) :
    (queue tier s).Pairwise fun ew ew' ↦ ew.rank < ew'.rank :=
  pairwise_lt_inOrder (nodup_ranks (h.tierUsers tier))

end Enrollment.Promotable

theorem mem_queue {tier : Uuid} {ew : WaitlistEntry} :
    ew ∈ queue tier s ↔ ew ∈ s.waitlist ∧ ew.eventTicketTypeId = tier := by
  rw [queue, mem_inOrder, List.mem_filter, decide_eq_true_eq]

/-! ## One promotion -/

theorem promote_eq_ok {ett : TicketType} {head : WaitlistEntry}
    (htier : head.eventTicketTypeId = ett.eventTicketTypeId)
    (h : promote now ett head s = .ok s') : s' = s.promoteEntry now head := by
  unfold promote issueOffer at h
  rw [insertAdmissionOffer_eq_ok] at h
  rw [h.2, Enrollment.promoteEntry, htier]

namespace Enrollment.Promotable

variable (h : s.Promotable now) (head : WaitlistEntry)

include h

theorem promotes : Promotes now head.eventTicketTypeId head s (s.promoteEntry now head) := by
  refine ⟨rfl, ⟨_, rfl, rfl, fun hdue ↦ absurd hdue.2 (not_le.2 h.deadline), rfl⟩, rfl,
    ⟨rfl, rfl, rfl⟩, ?_, h.keyed.ticketTypes, fun ao hao ↦ ?_, fun ep hep id hid ↦ ?_⟩
  · exact nodup_keys_append h.keyed.offers fun ao hao ↦ (h.keyed.issued ao hao).ne
  · rcases List.mem_append.1 hao with hao | hao
    · exact (h.keyed.issued ao hao).trans (Nat.lt_succ_self _)
    · rw [List.mem_singleton.1 hao]
      exact Nat.lt_succ_self _
  · obtain ⟨ao, hao, heq⟩ := h.keyed.linked ep hep id hid
    exact ⟨ao, List.mem_append_left _ hao, heq⟩

theorem promoteEntry : (s.promoteEntry now head).Promotable now :=
  ⟨(h.promotes head).keyed, nodup_keys_filter h.users _, h.deadline⟩

theorem allocated_promoteEntry :
    allocatedSeatCount now head.eventTicketTypeId (s.promoteEntry now head)
      = allocatedSeatCount now head.eventTicketTypeId s + 1 := by
  -- a promotion allocates one seat of its tier
  have hfilter : ((s.promoteEntry now head).purchases.filter fun ep ↦
        ep.eventTicketTypeId = head.eventTicketTypeId
        ∧ (ep.status.IsSeated ∨ ep.HasLiveHold now)
        ∧ ¬ (s.promoteEntry now head).HasReservingOffer now ep)
      = s.purchases.filter fun ep ↦ ep.eventTicketTypeId = head.eventTicketTypeId
        ∧ (ep.status.IsSeated ∨ ep.HasLiveHold now) ∧ ¬ s.HasReservingOffer now ep :=
    List.filter_congr fun ep hep ↦ by simp only [(h.promotes head).reserving_iff h.keyed hep]
  have hreserving : (newOffer s.nextUuid now head.eventTicketTypeId head.userId
      (promotionDeadline now s.event) .waitlist none).IsReserving now :=
    ⟨by simp [newOffer], h.deadline⟩
  have hcount : ((s.promoteEntry now head).admissionOffers.countP fun ao ↦
        ao.eventTicketTypeId = head.eventTicketTypeId ∧ ao.IsReserving now)
      = (s.admissionOffers.countP fun ao ↦
        ao.eventTicketTypeId = head.eventTicketTypeId ∧ ao.IsReserving now) + 1 := by
    rw [Enrollment.promoteEntry, List.countP_append, List.countP_singleton,
      if_pos (decide_eq_true ⟨rfl, hreserving⟩)]
  rw [allocatedSeatCount, allocatedSeatCount, hfilter, hcount]
  omega

theorem queue_promoteEntry (tier : Uuid) : queue tier (s.promoteEntry now head)
    = (queue tier s).filter fun ew ↦
      ¬ (ew.userId = head.userId ∧ ew.eventTicketTypeId = head.eventTicketTypeId) := by
  rw [queue, queue, ← inOrder_filter (nodup_ranks (h.tierUsers tier)), List.filter_filter,
    Enrollment.promoteEntry, List.filter_filter]
  congr 1
  exact List.filter_congr fun ew _ ↦ Bool.and_comm _ _

theorem queue_promoteEntry_of_ne {tier : Uuid} (hne : tier ≠ head.eventTicketTypeId) :
    queue tier (s.promoteEntry now head) = queue tier s := by
  rw [h.queue_promoteEntry]
  refine List.filter_eq_self.2 fun ew hew ↦ decide_eq_true fun heq ↦ hne ?_
  rw [← heq.2, (mem_queue.1 hew).2]

theorem queue_promoteEntry_head {rest : List WaitlistEntry}
    (hq : queue head.eventTicketTypeId s = head :: rest) :
    queue head.eventTicketTypeId (s.promoteEntry now head) = rest := by
  -- the head of a queue leaves it
  have hrest := inOrder_filter_ne (h.tierUsers _) (nodup_ranks (h.tierUsers _)) hq
  rw [inOrder_filter (nodup_ranks (h.tierUsers _))] at hrest
  rw [h.queue_promoteEntry, ← hrest]
  refine List.filter_congr fun ew hew ↦ ?_
  simp [(mem_queue.1 hew).2]

end Enrollment.Promotable

/-! ## The loop over one tier -/

theorem mem_promotions {ett : TicketType} {ew : WaitlistEntry}
    (h : ew ∈ promotions now provider s ett) :
    ew ∈ s.waitlist ∧ ew.eventTicketTypeId = ett.eventTicketTypeId := by
  unfold promotions at h
  split at h
  · exact mem_queue.1 (List.mem_of_mem_take h)
  · simp at h

theorem length_promotions_le (ett : TicketType) :
    (promotions now provider s ett).length ≤ s.waitlist.length := by
  have hqueue : (queue ett.eventTicketTypeId s).length ≤ s.waitlist.length := by
    rw [queue, (inOrder_perm _ _).length_eq]
    exact List.length_filter_le _ _
  unfold promotions
  split
  · rw [List.length_take]
    omega
  · simp

namespace Enrollment.Promotable

variable (h : s.Promotable now)

include h

/-- The loop takes the first entry that is due. -/
theorem promotable_eq (provider : Option String) (ett : TicketType) :
    promotable now provider ett s = (promotions now provider s ett).head? := by
  rw [promotable, h.queueHead_eq, promotions, freeSeats]
  split
  · next hfull =>
    rw [Nat.sub_eq_zero_of_le hfull, List.take_zero, ite_self]
    rfl
  · next hfree =>
    have hpositive : ett.seatsTotal - allocatedSeatCount now ett.eventTicketTypeId s ≠ 0 := by
      omega
    cases hprice : ett.currentPrice now with
    | none =>
      rw [if_neg fun hpayable ↦ by simp [TicketType.IsPayable, hprice] at hpayable]
      cases (queue ett.eventTicketTypeId s).head? <;> rfl
    | some price =>
      by_cases hpayable : 0 < price → PaymentReady provider s
      · rw [if_pos ⟨price, hprice, hpayable⟩, List.head?_take, if_neg hpositive]
        cases (queue ett.eventTicketTypeId s).head? with
        | none => rfl
        | some head =>
          dsimp only
          rw [if_neg fun hnot ↦ hnot.2 (hpayable hnot.1), if_neg (not_le.2 h.deadline)]
      · rw [if_neg fun ⟨price', hprice', hpayable'⟩ ↦ hpayable <| by
          obtain rfl : price = price' := Option.some.inj (hprice.symm.trans hprice')
          exact hpayable']
        cases (queue ett.eventTicketTypeId s).head? with
        | none => rfl
        | some head =>
          dsimp only
          rw [if_pos (Classical.not_imp.1 hpayable)]
          rfl

/-- The promoted entry was the first one due, and the others are still due. -/
theorem promotions_promoteEntry {ett : TicketType} {head : WaitlistEntry}
    {rest : List WaitlistEntry} (hdue : promotions now provider s ett = head :: rest) :
    promotions now provider (s.promoteEntry now head) ett = rest := by
  have htier := (mem_promotions (hdue ▸ List.mem_cons_self)).2
  unfold promotions at hdue
  split at hdue
  · next hpayable =>
    have hallocated := h.allocated_promoteEntry head
    rw [htier] at hallocated
    cases hq : queue ett.eventTicketTypeId s with
    | nil => simp [hq] at hdue
    | cons first others =>
      rw [hq] at hdue
      cases hfree : freeSeats now s ett with
      | zero => simp [hfree] at hdue
      | succ n =>
        rw [hfree, List.take_succ_cons] at hdue
        obtain ⟨rfl, rfl⟩ := List.cons.inj hdue
        have hfree' : freeSeats now (s.promoteEntry now first) ett = n := by
          unfold freeSeats at hfree ⊢
          omega
        have hpayable' : ett.IsPayable now provider (s.promoteEntry now first) := hpayable
        rw [promotions, if_pos hpayable', hfree', ← htier,
          h.queue_promoteEntry_head first (htier ▸ hq)]
  · simp at hdue

theorem promotions_promoteEntry_of_ne {ett : TicketType} {head : WaitlistEntry}
    (hne : ett.eventTicketTypeId ≠ head.eventTicketTypeId) :
    promotions now provider (s.promoteEntry now head) ett = promotions now provider s ett := by
  rw [promotions, promotions, freeSeats, freeSeats, h.queue_promoteEntry_of_ne head hne,
    (h.promotes head).allocated_eq h.keyed hne]
  rfl

end Enrollment.Promotable

/-- **The loop over one tier** promotes the entries that are due from its queue, one by one. -/
theorem fillTier_eq_ok {ett : TicketType} (fuel : ℕ) {promoted promoted' : List Uuid}
    (hs : s.Promotable now) (hfuel : (promotions now provider s ett).length ≤ fuel)
    (h : fillTier now provider ett fuel (promoted, s) = .ok (promoted', s')) :
    promoted' = promoted ++ (promotions now provider s ett).map WaitlistEntry.userId
      ∧ s' = (promotions now provider s ett).foldl (Enrollment.promoteEntry now) s := by
  induction fuel generalizing promoted s with
  | zero =>
    rw [List.length_eq_zero_iff.1 (Nat.le_zero.1 hfuel)]
    simp only [fillTier, Except.ok.injEq, Prod.mk.injEq] at h
    obtain ⟨rfl, rfl⟩ := h
    simp
  | succ fuel ih =>
    rw [fillTier, hs.promotable_eq] at h
    cases hdue : promotions now provider s ett with
    | nil =>
      simp only [hdue, List.head?_nil, Except.ok.injEq, Prod.mk.injEq] at h
      obtain ⟨rfl, rfl⟩ := h
      simp
    | cons head rest =>
      simp only [hdue, List.head?_cons, bind_eq_ok] at h
      obtain ⟨t, ht, hrest⟩ := h
      have htier := (mem_promotions (hdue ▸ List.mem_cons_self)).2
      obtain rfl := promote_eq_ok htier ht
      have hnext := hs.promotions_promoteEntry hdue
      rw [hdue, List.length_cons] at hfuel
      obtain ⟨rfl, rfl⟩ := ih (hs.promoteEntry head) (by rw [hnext]; omega) hrest
      rw [hnext]
      simp

/-! ## The loop over all tiers -/

section Entries

variable (entries : List WaitlistEntry)

theorem Enrollment.Promotable.foldl (h : s.Promotable now) :
    (entries.foldl (Enrollment.promoteEntry now) s).Promotable now := by
  induction entries generalizing s with
  | nil => exact h
  | cons head rest ih => exact ih (h.promoteEntry head)

theorem promotions_foldl (h : s.Promotable now) {ett : TicketType}
    (hother : ∀ ew ∈ entries, ett.eventTicketTypeId ≠ ew.eventTicketTypeId) :
    promotions now provider (entries.foldl (Enrollment.promoteEntry now) s) ett
      = promotions now provider s ett := by
  induction entries generalizing s with
  | nil => rfl
  | cons head rest ih =>
    rw [List.foldl_cons, ih (h.promoteEntry head) fun ew hew ↦ hother ew (by simp [hew])]
    exact h.promotions_promoteEntry_of_ne (hother head (by simp))

theorem waitlist_foldl : (entries.foldl (Enrollment.promoteEntry now) s).waitlist
    = s.waitlist.filter fun ew ↦ ∀ head ∈ entries,
      ¬ (ew.userId = head.userId ∧ ew.eventTicketTypeId = head.eventTicketTypeId) := by
  induction entries generalizing s with
  | nil => simp
  | cons head rest ih =>
    rw [List.foldl_cons, ih, Enrollment.promoteEntry, List.filter_filter]
    refine List.filter_congr fun ew _ ↦ ?_
    rw [Bool.and_comm]
    simp

theorem admissionOffers_foldl (h : s.Promotable now) :
    ∃ new : List AdmissionOffer,
      (entries.foldl (Enrollment.promoteEntry now) s).admissionOffers = s.admissionOffers ++ new
        ∧ (new.map fun ao ↦ (ao.eventTicketTypeId, ao.userId))
          = entries.map (fun ew ↦ (ew.eventTicketTypeId, ew.userId))
        ∧ ∀ ao ∈ new, ao.status = .pending ∧ ao.source = .waitlist ∧ now < ao.expiresAt := by
  induction entries generalizing s with
  | nil => exact ⟨[], by simp⟩
  | cons head rest ih =>
    obtain ⟨new, hoffers, hentries, hpending⟩ := ih (h.promoteEntry head)
    refine ⟨newOffer s.nextUuid now head.eventTicketTypeId head.userId
      (promotionDeadline now s.event) .waitlist none :: new, ?_, ?_, ?_⟩
    · rw [List.foldl_cons, hoffers, Enrollment.promoteEntry]
      simp
    · rw [List.map_cons, List.map_cons, hentries]
      rfl
    · intro ao hao
      rcases List.mem_cons.1 hao with rfl | hao
      · exact ⟨rfl, rfl, h.deadline⟩
      · exact hpending ao hao

end Entries

/-- **The loop over all tiers** promotes, tier by tier, what was due before the loop. -/
theorem fillTiers_eq_ok {tier : Option Uuid} {promoted : List Uuid} (hs : s.Promotable now)
    (h : fillTiers now tier provider s = .ok (promoted, s')) :
    promoted = ((fillableTiers tier s).flatMap (promotions now provider s)).map
        WaitlistEntry.userId
      ∧ s' = ((fillableTiers tier s).flatMap (promotions now provider s)).foldl
        (Enrollment.promoteEntry now) s := by
  have hkeys : ((fillableTiers tier s).map TicketType.eventTicketTypeId).Nodup :=
    nodup_keys_filter hs.keyed.ticketTypes _
  have hfinal := foldlM_suffix (P := fun rest st ↦ ∃ done : List TicketType,
      done ++ rest = fillableTiers tier s
      ∧ st.1 = (done.flatMap (promotions now provider s)).map WaitlistEntry.userId
      ∧ st.2 = (done.flatMap (promotions now provider s)).foldl (Enrollment.promoteEntry now) s) ?_
    ⟨[], rfl, rfl, rfl⟩ h
  · obtain ⟨done, hdone, husers, hstate⟩ := hfinal
    rw [List.append_nil] at hdone
    rw [← hdone]
    exact ⟨husers, hstate⟩
  · rintro ett rest ⟨promoted, t⟩ ⟨promoted', t'⟩ ⟨done, hdone, husers, hstate⟩ hstep
    dsimp only at husers hstate hstep
    have ht : t.Promotable now := hstate ▸ hs.foldl _
    -- the tiers before this one have other queues
    have hother : ∀ ew ∈ done.flatMap (promotions now provider s),
        ett.eventTicketTypeId ≠ ew.eventTicketTypeId := by
      intro ew hew heq
      obtain ⟨ett', hett', hew⟩ := List.mem_flatMap.1 hew
      rw [← hdone, List.map_append, List.nodup_append, List.map_cons] at hkeys
      refine hkeys.2.2 _ (List.mem_map_of_mem hett') _ List.mem_cons_self ?_
      rw [← (mem_promotions hew).2, heq]
    have hsame : promotions now provider t ett = promotions now provider s ett := by
      rw [hstate]
      exact promotions_foldl _ hs hother
    obtain ⟨husers', hstate'⟩ := fillTier_eq_ok _ ht (length_promotions_le ett) hstep
    refine ⟨done ++ [ett], by simp [← hdone], ?_, ?_⟩
    · rw [husers', husers, hsame]
      simp
    · rw [hstate', hsame, hstate]
      simp

/-! ## Reconciliation -/

theorem expireDueHolds_waitlist (h : expireDueHolds now s = .ok s') : s'.waitlist = s.waitlist := by
  refine foldlM_invariant (P := fun t ↦ t.waitlist = s.waitlist)
    (fun t due t' _ ht hstep ↦ ?_) rfl h
  unfold expireDueHold at hstep
  split at hstep
  · obtain rfl := Except.ok.inj hstep
    exact ht
  · unfold expireHold at hstep
    simp only [bind_eq_ok, writePurchase_eq_ok, Except.ok.injEq] at hstep
    obtain ⟨u, ⟨-, -, rfl⟩, rfl⟩ := hstep
    exact ht

theorem updateAdmissionOffer_waitlist {id : Uuid} {selected : OfferStatus → Prop}
    [DecidablePred selected] {f : AdmissionOffer → AdmissionOffer} {updated : Option Enrollment}
    (h : updateAdmissionOffer id selected f s = .ok updated)
    (hid : ∀ ao, (f ao).admissionOfferId = ao.admissionOfferId) :
    (updated.getD s).waitlist = s.waitlist := by
  rcases updateAdmissionOffer_eq_ok h hid with ⟨rfl, -⟩ | ⟨row, -, -, -, -, -, rfl⟩
  · rfl
  · rfl

theorem settleOffers_waitlist (h : settleOffers now s = .ok s') : s'.waitlist = s.waitlist := by
  refine foldlM_invariant (P := fun t ↦ t.waitlist = s.waitlist) (fun t ao t' _ ht hstep ↦ ?_) rfl h
  rw [← ht]
  unfold settleOffer at hstep
  split at hstep
  · simp only [bind_eq_ok, Except.ok.injEq] at hstep
    obtain ⟨updated, hupdated, rfl⟩ := hstep
    exact updateAdmissionOffer_waitlist hupdated fun _ ↦ rfl
  · split at hstep
    · simp only [bind_eq_ok, Except.ok.injEq] at hstep
      obtain ⟨updated, hupdated, rfl⟩ := hstep
      exact updateAdmissionOffer_waitlist hupdated fun _ ↦ rfl
    · obtain rfl := Except.ok.inj hstep
      rfl

/-- What reconciliation does to the queues of a state whose stale reservations have expired. -/
structure Enrollment.PromotesInOrder (now : Timestamp) (tier : Option Uuid)
    (provider : Option String) (s : Enrollment) (promoted : List Uuid) (s' : Enrollment) :
    Prop where
  users : promoted = ((fillableTiers tier s).flatMap (promotions now provider s)).map
    WaitlistEntry.userId
  distinct : promoted.Nodup
  offers : ∃ new : List AdmissionOffer, s'.admissionOffers = s.admissionOffers ++ new
    ∧ (new.map fun ao ↦ (ao.eventTicketTypeId, ao.userId))
      = ((fillableTiers tier s).flatMap (promotions now provider s)).map
        (fun ew ↦ (ew.eventTicketTypeId, ew.userId))
    ∧ ∀ ao ∈ new, ao.status = .pending ∧ ao.source = .waitlist ∧ now < ao.expiresAt
  waitlist : s'.waitlist = s.waitlist.filter fun ew ↦ ew.userId ∉ promoted
  inOrder : ∀ ew ∈ s.waitlist, ew.userId ∈ promoted → ∀ ew' ∈ s'.waitlist,
    ew'.eventTicketTypeId = ew.eventTicketTypeId → ew.rank < ew'.rank

/-- Entries that stay behind come after those that are due from the same queue. -/
theorem Enrollment.Promotable.lt_of_not_mem (h : s.Promotable now) {ett : TicketType}
    {ew ew' : WaitlistEntry} (hew : ew ∈ promotions now provider s ett) (hew' : ew' ∈ s.waitlist)
    (htier : ew'.eventTicketTypeId = ett.eventTicketTypeId)
    (hnot : ew' ∉ promotions now provider s ett) : ew.rank < ew'.rank := by
  have hsorted := h.pairwise_queue ett.eventTicketTypeId
  unfold promotions at hew hnot
  split at hew
  · next hpayable =>
    rw [if_pos hpayable] at hnot
    have hmem : ew' ∈ queue ett.eventTicketTypeId s := mem_queue.2 ⟨hew', htier⟩
    rw [← List.take_append_drop (freeSeats now s ett) (queue ett.eventTicketTypeId s)]
      at hsorted hmem
    exact (List.pairwise_append.1 hsorted).2.2 ew hew ew'
      ((List.mem_append.1 hmem).resolve_left hnot)
  · simp at hew

theorem fillTiers_promotesInOrder {tier : Option Uuid} {promoted : List Uuid}
    (hs : s.Promotable now) (h : fillTiers now tier provider s = .ok (promoted, s')) :
    s.PromotesInOrder now tier provider promoted s' := by
  obtain ⟨husers, hstate⟩ := fillTiers_eq_ok hs h
  have hkeys : ((fillableTiers tier s).map TicketType.eventTicketTypeId).Nodup :=
    nodup_keys_filter hs.keyed.ticketTypes _
  set entries := (fillableTiers tier s).flatMap (promotions now provider s) with hentries
  have hmem : ∀ ew ∈ entries, ew ∈ s.waitlist := fun ew hew ↦ by
    obtain ⟨ett, -, hew⟩ := List.mem_flatMap.1 hew
    exact (mem_promotions hew).1
  -- a queued user has one entry
  have huser : ∀ ew ∈ s.waitlist, ew.userId ∈ promoted → ew ∈ entries := fun ew hew hin ↦ by
    rw [husers] at hin
    obtain ⟨head, hhead, heq⟩ := List.mem_map.1 hin
    rwa [← eq_of_key_eq hs.users (hmem head hhead) hew heq]
  have hwaitlist : s'.waitlist = s.waitlist.filter fun ew ↦ ew.userId ∉ promoted := by
    rw [hstate, waitlist_foldl]
    refine List.filter_congr fun ew hew ↦ decide_eq_decide.2 ?_
    constructor
    · exact fun hstays hin ↦ hstays ew (huser ew hew hin) ⟨rfl, rfl⟩
    · intro hnot head hhead hsame
      refine hnot ?_
      rw [hsame.1, husers]
      exact List.mem_map_of_mem hhead
  have hdistinct : promoted.Nodup := by
    rw [husers]
    refine List.Nodup.map_on (fun ew hew ew' hew' ↦ eq_of_key_eq hs.users (hmem ew hew)
      (hmem ew' hew')) (List.nodup_flatMap.2 ⟨fun ett _ ↦ ?_, ?_⟩)
    · unfold promotions
      split
      · refine (List.take_sublist _ _).nodup ?_
        exact (hs.pairwise_queue _).imp fun hlt heq ↦ hlt.ne (congrArg WaitlistEntry.rank heq)
      · exact List.nodup_nil
    · refine (List.pairwise_map.1 hkeys).imp fun hne ew hew hew' ↦ hne ?_
      rw [← (mem_promotions hew).2, (mem_promotions hew').2]
  refine ⟨husers, hdistinct, ?_, hwaitlist, fun ew hew hin ew' hew' htier ↦ ?_⟩
  · rw [hstate]
    exact admissionOffers_foldl _ hs
  · rw [hwaitlist] at hew'
    obtain ⟨hew', hnot⟩ := List.mem_filter.1 hew'
    have hnot := of_decide_eq_true hnot
    obtain ⟨ett, hett, hdue⟩ := List.mem_flatMap.1 (huser ew hew hin)
    refine hs.lt_of_not_mem hdue hew' (htier.trans (mem_promotions hdue).2) fun hdue' ↦ hnot ?_
    rw [husers]
    exact List.mem_map_of_mem (List.mem_flatMap.2 ⟨ett, hett, hdue'⟩)

/-- **Promotion is first in, first out.** Reconciliation expires what is stale. Then, if the event
can be joined, it promotes from every public tier that has a price, and payments if it needs them,
the first entries of the queue, one for each seat that is free after the expiry. Nobody else is
promoted and nobody else leaves a queue. -/
theorem promotions_exact (now : Timestamp) (tier : Option Uuid) (provider : Option String)
    {s s' : Enrollment} {promoted : List Uuid} (hkeyed : s.Keyed)
    (husers : (s.waitlist.map WaitlistEntry.userId).Nodup)
    (h : reconcileEventEnrollment now tier provider s = .ok (promoted, s')) :
    ∃ swept settled, expireDueHolds now s = .ok swept ∧ settleOffers now swept = .ok settled
      ∧ settled.waitlist = s.waitlist
      ∧ (s.AcceptsPromotion now → settled.PromotesInOrder now tier provider promoted s')
      ∧ (¬ s.AcceptsPromotion now → promoted = [] ∧ s' = settled) := by
  unfold reconcileEventEnrollment at h
  simp only [bind_eq_ok, require_eq_ok] at h
  obtain ⟨-, -, swept, hswept, settled, hsettled, hfill⟩ := h
  have hholds := expireDueHolds_unexpired hkeyed hswept
  have hoffers := settleOffers_unexpired hholds.keyed hsettled
  have hsame := hholds.same.trans hoffers.same
  have hwaitlist : settled.waitlist = s.waitlist :=
    (settleOffers_waitlist hsettled).trans (expireDueHolds_waitlist hswept)
  have haccepts : settled.AcceptsPromotion now ↔ s.AcceptsPromotion now := by
    unfold Enrollment.AcceptsPromotion
    rw [hsame.event, hsame.group]
  refine ⟨swept, settled, hswept, hsettled, hwaitlist, fun hopen ↦ ?_, fun hclosed ↦ ?_⟩
  · rw [if_pos (haccepts.2 hopen)] at hfill
    refine fillTiers_promotesInOrder ⟨hoffers.keyed, hwaitlist ▸ husers, ?_⟩ hfill
    exact (haccepts.2 hopen).deadline
  · rw [if_neg fun hopen ↦ hclosed (haccepts.1 hopen)] at hfill
    simp only [Except.ok.injEq, Prod.mk.injEq] at hfill
    exact ⟨hfill.1.symm, hfill.2.symm⟩

/-- Two free seats and three users in the queue. -/
def queuedEnrollment : Enrollment :=
  { (Database.sample 2 []).toEnrollment with
    waitlist := [⟨7, 3, 1⟩, ⟨8, 2, 1⟩, ⟨9, 2, 1⟩] }

theorem promotions_exact_sample : ∃ promoted s' swept settled,
    reconcileEventEnrollment 5 none (some "stripe") queuedEnrollment = .ok (promoted, s')
      ∧ promoted = [8, 9] ∧ expireDueHolds 5 queuedEnrollment = .ok swept
      ∧ settleOffers 5 swept = .ok settled ∧ settled.waitlist = queuedEnrollment.waitlist
      ∧ settled.PromotesInOrder 5 none (some "stripe") promoted s' := by
  have hcall : Ensures (reconcileEventEnrollment 5 none (some "stripe") queuedEnrollment)
      (fun call ↦ call.1 = [8, 9]) fun _ ↦ False := by
    decide +kernel
  obtain ⟨⟨promoted, s'⟩, hcall, hpromoted⟩ := hcall.exists_ok
  obtain ⟨swept, settled, hswept, hsettled, hwaitlist, hopen, -⟩ :=
    promotions_exact 5 none (some "stripe")
      ⟨by decide, by decide, by decide, by decide⟩ (by decide) hcall
  exact ⟨promoted, s', swept, settled, hcall, hpromoted, hswept, hsettled, hwaitlist,
    hopen (by decide)⟩

end Ocg
