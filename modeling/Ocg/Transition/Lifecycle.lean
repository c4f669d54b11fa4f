import Ocg.Transition.Exclusive

/-!
# The life of a purchase

Of what a move does, refunds and discount inventory only see one purchase change its status and the
discount given back or not. `StatusStep` is that view of a move: nine kinds of step, each with its
effect on the refund row.
-/

namespace Ocg

open Relational

/-! ## Status steps -/

/-- One purchase row changes, with the refund effect and whether the discount is given back. -/
inductive StatusStep (ep new : Purchase) : Effect → Bool → Prop
  | record (hstatus : new.status = ep.status) : StatusStep ep new .plain false
  | exchange (hfrom : ep.status.IsEntitled) (hto : new.status.IsEntitled) :
    StatusStep ep new .plain false
  | complete (hfrom : ep.status = .pending) (hto : new.status = .completed) :
    StatusStep ep new .plain false
  | expire (hfrom : ep.status = .pending) (hto : new.status = .expired) :
    StatusStep ep new .plain true
  | refundFree (hfrom : ep.status.IsEntitled) (hamount : ep.amountMinor = 0)
      (hto : new.status = .refunded) : StatusStep ep new .plain true
  | reserve (hfrom : ep.status = .pending ∨ ep.status = .expired)
      (hto : new.status = .refundPending) :
    StatusStep ep new (.reserve ep) (ep.status = .pending)
  | handOver (hfrom : ep.status.IsEntitled) (hto : new.status = .refundPending) :
    StatusStep ep new (.handOver ep) false
  | settle (released : Bool)
      (hfrom : ep.status.IsEntitled
        ∨ ep.status ∈ [PurchaseStatus.refundPending, .refundRecoveryPending])
      (hto : new.status = .refunded) : StatusStep ep new (.settle ep released) released
  | reopen (hfrom : ep.status = .refunded) (hto : new.status = .refundRecoveryPending) :
    StatusStep ep new (.reopen ep) false

theorem PurchaseStep.statusStep {mode : MoveMode} {s : Enrollment} {ep new : Purchase}
    {effect : Effect} {released : Bool} (h : PurchaseStep mode s ep new effect released) :
    StatusStep ep new effect released := by
  cases h with
  | record hstatus _ => exact .record hstatus
  | refundFree hfrom hamount hto => exact .refundFree hfrom hamount hto
  | requestRefund hfrom hto | rejectRefund hfrom hto =>
    exact .exchange (by simp [hfrom]) (by simp [hto])
  | handOver hfrom hto => exact .handOver hfrom hto
  | settle released hfrom hto => exact .settle released hfrom hto
  | reopen hfrom hto _ => exact .reopen hfrom hto

theorem CheckoutEnd.statusStep {mode : MoveMode} {s : Enrollment} {ep new : Purchase}
    {effect : Effect} (h : CheckoutEnd mode s ep new effect) :
    StatusStep ep new effect (ep.status = .pending) := by
  cases h with
  | expire hfrom hto =>
    rw [show decide (ep.status = .pending) = true by simp [hfrom]]
    exact .expire hfrom hto
  | reserve hfrom hto => exact .reserve (hfrom.imp_right And.left) hto

/-- What a move does to purchases and discount inventory. -/
inductive PurchaseChange (s s' : Enrollment) : Effect → Prop
  | kept (hpurchases : s'.purchases = s.purchases) (hcodes : s'.discountCodes = s.discountCodes) :
    PurchaseChange s s' .plain
  | opened {s₁ : Enrollment} {ep : Purchase} (hid : ep.eventPurchaseId = s.nextUuid)
      (hstatus : ep.status = .pending)
      (hreserve : reserveEventDiscountCodeAvailability ep.eventDiscountCodeId s = .ok s₁)
      (hnotCanceled : s.event.canceled = false)
      (hpurchases : s'.purchases = s.purchases ++ [ep])
      (hcodes : s'.discountCodes = s₁.discountCodes) : PurchaseChange s s' .plain
  | moved {ep new : Purchase} {effect : Effect} {released : Bool} (hep : ep ∈ s.purchases)
      (hcontinues : new.Continues ep) (hstep : StatusStep ep new effect released)
      (hpurchases : s'.purchases = replaceRow Purchase.eventPurchaseId new s.purchases)
      (hcodes : s'.discountCodes = (releaseIf released ep.eventDiscountCodeId s).discountCodes) :
    PurchaseChange s s' effect

theorem EnrollmentMove.purchaseChange {mode : MoveMode} {now : Timestamp} {effect : Effect}
    {s s' : Enrollment} (hmove : EnrollmentMove mode now effect s s') :
    PurchaseChange s s' effect := by
  cases hmove with
  | movePurchase hep hcontinues _ hstep =>
    exact .moved hep hcontinues hstep.statusStep (releaseIf_purchases _ _ _)
      (releaseIf_discountCodes_congr _ _ rfl)
  | endCheckout _ hep hcontinues _ hend _ _ =>
    exact .moved hep hcontinues hend.statusStep (releaseIf_purchases _ _ _)
      (releaseIf_discountCodes_congr _ _ rfl)
  | complete hep hcontinues _ hlive hstatus _ _ _ _ _ =>
    exact .moved hep hcontinues (.complete hlive.1 hstatus) rfl rfl
  | openDirect hopens _ _ _ _ hreserve =>
    exact .opened hopens.id hopens.status hreserve hopens.notCanceled rfl rfl
  | openByOffer hopens _ _ _ _ _ _ _ _ _ _ hreserve =>
    exact .opened hopens.id hopens.status hreserve hopens.notCanceled rfl rfl
  | issueUuid _ | setPublished _ | setCanceled _ _ | endOffer _ _ _ | returnOffer _ _ _
  | issueOffer _ _ _ _ _ _ | leaveQueue _ | joinQueue _ _ _ _ _ _ | addRequest _ _ _
  | dropRequests _ | reviewRequests _ | holdAnswers _ _ _ _ _ | reviveAnswers _ _ _ _ _ _ _ _
  | editAnswers _ _ _ _ | cancelAttendance _ _ | dropAttendees _ _ => exact .kept rfl rfl

theorem PurchaseChange.cases_of_mem {s s' : Enrollment} {effect : Effect}
    (h : PurchaseChange s s' effect) {row : Purchase} (hrow : row ∈ s'.purchases) :
    row ∈ s.purchases
      ∨ (row.eventPurchaseId = s.nextUuid ∧ row.status = .pending ∧ effect = .plain
        ∧ s.event.canceled = false)
      ∨ ∃ ep ∈ s.purchases, ∃ released, row.Continues ep ∧ StatusStep ep row effect released := by
  cases h with
  | kept hpurchases _ => exact .inl (hpurchases ▸ hrow)
  | opened hid hstatus _ hnotCanceled hpurchases _ =>
    rw [hpurchases] at hrow
    rcases List.mem_append.1 hrow with hrow | hrow
    · exact .inl hrow
    · rw [List.mem_singleton.1 hrow]
      exact .inr (.inl ⟨hid, hstatus, rfl, hnotCanceled⟩)
  | moved hep hcontinues hstep hpurchases _ =>
    rw [hpurchases] at hrow
    rcases mem_replaceRow hrow with rfl | ⟨hrow, -⟩
    · exact .inr (.inr ⟨_, hep, _, hcontinues, hstep⟩)
    · exact .inl hrow

theorem PurchaseChange.stays {s s' : Enrollment} {effect : Effect}
    (h : PurchaseChange s s' effect) (hkeys : (s.purchases.map Purchase.eventPurchaseId).Nodup)
    {row : Purchase} (hrow : row ∈ s.purchases) : ∃ new ∈ s'.purchases,
      new = row ∨ (new.Continues row ∧ ∃ released, StatusStep row new effect released) := by
  cases h with
  | kept hpurchases _ => exact ⟨row, hpurchases ▸ hrow, .inl rfl⟩
  | opened _ _ _ _ hpurchases _ => exact ⟨row, hpurchases ▸ List.mem_append_left _ hrow, .inl rfl⟩
  | @moved ep new _ released hep hcontinues hstep hpurchases _ =>
    rw [hpurchases]
    by_cases hid : row.eventPurchaseId = new.eventPurchaseId
    · have hsame : row = ep := eq_of_key_eq hkeys hrow hep (hid.trans hcontinues.id)
      subst hsame
      exact ⟨new, new_mem_replaceRow hrow hid, .inr ⟨hcontinues, released, hstep⟩⟩
    · exact ⟨row, mem_replaceRow_of_ne hrow hid, .inl rfl⟩

theorem PurchaseChange.moved_of_effect {s s' : Enrollment} {effect : Effect}
    (h : PurchaseChange s s' effect) (ep : Purchase) (hplain : effect ≠ .plain)
    (heffect : ∀ row new released, StatusStep row new effect released → row = ep) :
    ep ∈ s.purchases ∧ ∃ new released, new.Continues ep ∧ StatusStep ep new effect released
      ∧ s'.purchases = replaceRow Purchase.eventPurchaseId new s.purchases
      ∧ s'.discountCodes = (releaseIf released ep.eventDiscountCodeId s).discountCodes := by
  cases h with
  | kept _ _ | opened _ _ _ _ _ _ => exact absurd rfl hplain
  | @moved row new _ released hrow hcontinues hstep hpurchases hcodes =>
    obtain rfl := heffect row new released hstep
    exact ⟨hrow, new, released, hcontinues, hstep, hpurchases, hcodes⟩

/-- Every purchase stays, with the columns that never change. -/
theorem EnrollmentMove.purchase_stays {mode : MoveMode} {now : Timestamp} {effect : Effect}
    {s s' : Enrollment} (hmove : EnrollmentMove mode now effect s s') (hwf : s.WellFormed)
    {ep : Purchase} (hep : ep ∈ s.purchases) : ∃ new ∈ s'.purchases, new.Continues ep := by
  obtain ⟨new, hnew, rfl | ⟨hcontinues, -⟩⟩ := hmove.purchaseChange.stays hwf.purchaseKeys hep
  · exact ⟨new, hnew, .refl new⟩
  · exact ⟨new, hnew, hcontinues⟩

end Ocg
