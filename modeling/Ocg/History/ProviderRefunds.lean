import Ocg.Provider.RefundProcess
import Ocg.Refinement.Charges
import Ocg.Relational.Remote

/-!
# A purchase is refunded once

Many workers may hold the same refund one after another: a claim goes stale while its worker is
still running, and the requeued row is claimed again. Each of them looks at the provider for a
refund of the purchase before it asks for one, and every request for a purchase carries one
idempotency key.

What makes this work is that a purchase has one charge: one row with its terms, one seller, one
payment. So a lookup of the charge sees every refund of the purchase, two requests for a purchase
are the same request, and the provider's objects are those of `Relational.Remote`, with the
purchases as keys and the workers between lookup and creation as its callers.
-/

namespace Ocg

open Relational

variable {parseUuid : String → Option Uuid} {now : Timestamp} {env : Env} {db db' : Database}
  {stripe stripe' : Stripe} {process : RefundProcess} {next : Option RefundProcess}
  {s s' : PaymentSystem}

/-! ## What one call does -/

/-- The row that a worker has claimed. -/
def RefundProcess.claimed : RefundProcess → Option ClaimedRefund
  | .finding claimed | .creating claimed _ | .recordingAttempt claimed _ | .finalizing claimed
  | .releasing claimed _ => some claimed
  | .received _ | .loading _ _ | .refreshing _ _ _ | .recordingEvent _ _ => none

theorem ClaimedRefund.start_claimed (claimed : ClaimedRefund) :
    claimed.start.claimed = some claimed := by
  rw [ClaimedRefund.start]
  split_ifs <;> rfl

theorem ClaimedRefund.afterFind_claimed (claimed : ClaimedRefund) (reference : String)
    (response : Except String (Option RefundPaymentResult)) :
    (claimed.afterFind reference response).claimed = some claimed := by
  unfold ClaimedRefund.afterFind
  split
  · rfl
  · rfl
  · split_ifs <;> rfl

theorem ClaimedRefund.afterCreate_claimed (claimed : ClaimedRefund)
    (response : Except String RefundPaymentResult) :
    (claimed.afterCreate response).claimed = some claimed := by
  unfold ClaimedRefund.afterCreate
  split <;> rfl

theorem ClaimedRefund.afterRecord_eq_some {claimed : ClaimedRefund} {result : RefundPaymentResult}
    (h : claimed.afterRecord result = some process) : process = .finalizing claimed := by
  unfold ClaimedRefund.afterRecord at h
  split_ifs at h
  exact (Option.some.inj h).symm

theorem decideRefundEvent_eq_some {provider : String} {event : RefundUpdatedInput}
    {purchase : Purchase} {refund : Refund}
    (h : decideRefundEvent provider event purchase refund = .ok (some process)) :
    process = .refreshing event purchase refund
      ∨ process = .recordingEvent refund ⟨event.providerRefundId, event.status⟩ := by
  rw [decideRefundEvent, bind_eq_ok] at h
  obtain ⟨isCurrentAttempt, -, h⟩ := h
  split_ifs at h
  · cases h
  · exact .inl (Option.some.inj (Except.ok.inj h)).symm
  · exact .inr (Option.some.inj (Except.ok.inj h)).symm

theorem afterRefresh_eq_some {event : RefundUpdatedInput} {refund : Refund}
    {response : Except String (Option RefundPaymentResult)}
    (h : afterRefresh event refund response = some process) :
    ∃ result, response = .ok (some result) ∧ result.providerRefundId = event.providerRefundId
      ∧ process = .recordingEvent refund result := by
  unfold afterRefresh at h
  split at h
  · next result =>
    split_ifs at h with hne
    rw [not_not] at hne
    refine ⟨result, rfl, hne, ?_⟩
    rw [← Option.some.inj h, ← hne]
  · cases h

theorem RefundProcess.Next.claimed_eq {q : RefundProcess}
    (h : process.Next env now db stripe db' stripe' (some q)) : q.claimed = process.claimed := by
  generalize hq : some q = next at h
  cases h with
  | stop | release _ _ | recordEvent _ _ => cases hq
  | find _ | failToFind _ _ =>
    obtain rfl := Option.some.inj hq
    exact ClaimedRefund.afterFind_claimed _ _ _
  | refuseAmount _ | failToCreate _ | create _ _ _ _ _ | repeatCreate _ _ =>
    obtain rfl := Option.some.inj hq
    exact ClaimedRefund.afterCreate_claimed _ _
  | keepFailure _ | recordAttempt _ _ =>
    rw [ClaimedRefund.afterRecord_eq_some hq.symm]
    rfl
  | finalize _ _ hprocess =>
    obtain rfl | ⟨message, rfl⟩ := hprocess
    · cases hq
    · obtain rfl := Option.some.inj hq
      rfl
  | loadRefund _ _ hdecide =>
    obtain rfl | rfl := decideRefundEvent_eq_some (hq ▸ hdecide)
    all_goals rfl
  | refresh _ =>
    obtain ⟨result, -, -, rfl⟩ := afterRefresh_eq_some hq.symm
    rfl
  | _ =>
    obtain rfl := Option.some.inj hq
    rfl

theorem RefundProcess.Next.step (h : process.Next env now db stripe db' stripe' next) :
    db' = db ∨ Step now db db' := by
  cases h with
  | recordAttempt _ hrun | recordUnheard _ _ hrun | finalize _ hrun _ | release _ hrun
  | recordEvent _ hrun => exact .inr ⟨env, _, hrun⟩
  | _ => exact .inl rfl

/-- A call that the provider executes is a request for a refund under a key that it does not
remember. -/
structure RefundProcess.Executes (process : RefundProcess) (stripe stripe' : Stripe)
    (claimed : ClaimedRefund) (reference id currency status : String) : Prop where
  creating : process = .creating claimed reference
  new : ¬ stripe.Remembers claimed.connectedSellerId claimed.refund.idempotencyKey
  fresh : ∀ old ∈ stripe.refunds, old.id ≠ id
  room : stripe.HasRoom claimed.connectedSellerId reference
  executed : stripe' = stripe.execute (claimed.creation reference) id currency status

theorem RefundProcess.Next.provider (h : process.Next env now db stripe db' stripe' next) :
    stripe' = stripe ∨ ∃ claimed reference id currency status,
      process.Executes stripe stripe' claimed reference id currency status := by
  cases h with
  | create _ hnew hid hroom _ => exact .inr ⟨_, _, _, _, _, rfl, hnew, hid, hroom, rfl⟩
  | _ => exact .inl rfl

/-- A worker that is about to create has looked, and found nothing. -/
theorem RefundProcess.Next.creating {claimed : ClaimedRefund} {reference : String}
    (h : process.Next env now db stripe db' stripe' (some (.creating claimed reference))) :
    process = .finding claimed ∧ claimed.providerPaymentReference = some reference
      ∧ claimed.refund.providerRefundId = none ∧ stripe' = stripe
      ∧ findMatchingRefundResult (claimed.findInput reference)
          (stripe.listRefunds claimed.connectedSellerId reference) = .ok none := by
  generalize hq : some (RefundProcess.creating claimed reference) = next at h
  cases h with
  | stop | release _ _ | recordEvent _ _ => cases hq
  | @find claimed' reference' hreference =>
    have hafter := Option.some.inj hq
    unfold ClaimedRefund.afterFind at hafter
    split at hafter
    · cases hafter
    · cases hafter
    · next hnone =>
      split_ifs at hafter with hpinned
      obtain ⟨rfl, rfl⟩ := RefundProcess.creating.inj hafter
      exact ⟨rfl, hreference, not_not.1 hpinned, rfl, hnone⟩
  | refuseAmount _ | failToCreate _ | create _ _ _ _ _ | repeatCreate _ _ =>
    have hafter := Option.some.inj hq
    unfold ClaimedRefund.afterCreate at hafter
    split at hafter
    all_goals cases hafter
  | keepFailure _ | recordAttempt _ _ => cases ClaimedRefund.afterRecord_eq_some hq.symm
  | finalize _ _ hprocess =>
    obtain rfl | ⟨message, rfl⟩ := hprocess
    · cases hq
    · cases Option.some.inj hq
  | loadRefund _ _ hdecide =>
    obtain hsame | hsame := decideRefundEvent_eq_some (hq ▸ hdecide)
    all_goals cases hsame
  | refresh _ =>
    obtain ⟨result, -, -, hsame⟩ := afterRefresh_eq_some hq.symm
    cases hsame
  | _ => cases Option.some.inj hq

/-! ## Sound systems -/

/-- What is charged is what the event says: every claimed row is, and every refund that the provider
has for a purchase, and every request that it remembers. A page of the listing holds all refunds of
a payment. -/
structure PaymentSystem.Sound (s : PaymentSystem) : Prop where
  database : s.db.Consistent
  claimed : ∀ process ∈ s.processes, ∀ claimed ∈ process.claimed,
    s.db.Charges claimed.refund (some claimed.connectedSellerId) claimed.providerPaymentReference
  creating : ∀ claimed reference, RefundProcess.creating claimed reference ∈ s.processes →
    claimed.providerPaymentReference = some reference
  refundKeys : (s.stripe.refunds.map StripeRefund.id).Nodup
  refunds : ∀ b ∈ s.stripe.refunds, ∀ purchase, b.Names purchase →
    ∃ r : Refund, r.eventPurchaseId = purchase ∧ r.amountMinor = b.amount
      ∧ s.db.Charges r (some b.account) (some b.paymentIntent)
  answers : ∀ answer ∈ s.stripe.answers, ∃ claimed reference,
    answer.request = ClaimedRefund.creation reference claimed
      ∧ s.db.Charges claimed.refund (some claimed.connectedSellerId) (some reference)
  listed : ∀ account paymentIntent, (s.stripe.refundsOf account paymentIntent).length ≤ 100

theorem PaymentSystem.Fresh.sound (h : s.Fresh) : s.Sound := by
  constructor
  · exact h.database.consistent
  all_goals simp [h.processes, h.refunds, h.answers, Stripe.refundsOf]

theorem StripeRefund.Names.unique {b : StripeRefund} {purchase purchase' : Uuid}
    (h : b.Names purchase) (h' : b.Names purchase') : purchase = purchase' :=
  Nat.repr_injective (Option.some.inj (h.symm.trans h'))

theorem ClaimedRefund.creation_names {claimed : ClaimedRefund}
    {reference id currency status : String} {purchase : Uuid} :
    ((claimed.creation reference).refund id currency status).Names purchase
      ↔ purchase = claimed.refund.eventPurchaseId := by
  have hnames : ((claimed.creation reference).refund id currency status).Names
      claimed.refund.eventPurchaseId := rfl
  exact ⟨fun h ↦ h.unique hnames, fun h ↦ h ▸ hnames⟩

theorem PaymentSystem.Sound.of_step (h : s.Sound) (hstep : db = s.db ∨ Step now s.db db) :
    PaymentSystem.Sound { s with db := db } := by
  obtain rfl | ⟨env, op, hrun⟩ := hstep
  · exact h
  have hcharges {r : Refund} {seller reference : Option String}
      (hr : s.db.Charges r seller reference) : db.Charges r seller reference :=
    op.keepsCharges h.database hrun hr
  refine ⟨?_, fun process hprocess claimed hclaimed ↦ ?_, h.creating, h.refundKeys,
    fun b hb purchase hnames ↦ ?_, fun answer hanswer ↦ ?_, h.listed⟩
  · exact (Step.moves ⟨env, op, hrun⟩ h.database).keeps h.database
  · exact hcharges (h.claimed process hprocess claimed hclaimed)
  · obtain ⟨r, hr, hamount, hb⟩ := h.refunds b hb purchase hnames
    exact ⟨r, hr, hamount, hcharges hb⟩
  · obtain ⟨claimed, reference, hrequest, hclaimed⟩ := h.answers answer hanswer
    exact ⟨claimed, reference, hrequest, hcharges hclaimed⟩

theorem PaymentSystem.Sound.of_processes {processes : List RefundProcess} (h : s.Sound)
    (hclaimed : ∀ process ∈ processes, ∀ claimed ∈ process.claimed,
      s.db.Charges claimed.refund (some claimed.connectedSellerId) claimed.providerPaymentReference)
    (hcreating : ∀ claimed reference, RefundProcess.creating claimed reference ∈ processes →
      claimed.providerPaymentReference = some reference) :
    PaymentSystem.Sound { s with processes := processes } :=
  ⟨h.database, hclaimed, hcreating, h.refundKeys, h.refunds, h.answers, h.listed⟩

theorem PaymentSystem.Sound.add {b : StripeRefund} (h : s.Sound)
    (hid : ∀ old ∈ s.stripe.refunds, old.id ≠ b.id)
    (hroom : s.stripe.HasRoom b.account b.paymentIntent)
    (hb : ∀ purchase, b.Names purchase → ∃ r : Refund, r.eventPurchaseId = purchase
      ∧ r.amountMinor = b.amount ∧ s.db.Charges r (some b.account) (some b.paymentIntent)) :
    PaymentSystem.Sound { s with stripe := s.stripe.add b } := by
  -- a refund of a charge, or of nothing that the code knows, fits on the page
  refine ⟨h.database, h.claimed, h.creating, ?_, fun b' hb' purchase hnames ↦ ?_, h.answers,
    fun account paymentIntent ↦ ?_⟩
  · refine List.nodup_cons.2 ⟨fun hmem ↦ ?_, h.refundKeys⟩
    obtain ⟨old, hold, heq⟩ := List.mem_map.1 hmem
    exact hid old hold heq
  · obtain rfl | hb' := List.mem_cons.1 hb'
    · exact hb purchase hnames
    · exact h.refunds b' hb' purchase hnames
  · have hlisted := h.listed account paymentIntent
    rw [Stripe.refundsOf] at hlisted ⊢
    simp only [Stripe.add, List.filter_cons]
    split_ifs with hof
    · obtain ⟨rfl, rfl⟩ := of_decide_eq_true hof
      exact hroom
    · exact hlisted

theorem Stripe.length_refundsOf (account paymentIntent : String) (stripe : Stripe) :
    (stripe.refundsOf account paymentIntent).length
      = (stripe.refunds.map fun b ↦ (b.account, b.paymentIntent)).count
          (account, paymentIntent) := by
  rw [Stripe.refundsOf, ← List.countP_eq_length_filter, List.count, List.countP_map]
  refine List.countP_congr fun b _ ↦ ?_
  simp

theorem PaymentSystem.Sound.enter {b : StripeRefund} {status : String} (h : s.Sound)
    (hb : b ∈ s.stripe.refunds) :
    PaymentSystem.Sound { s with stripe := s.stripe.enter b status } := by
  -- a refund that enters another state is the refund that it was
  refine ⟨h.database, h.claimed, h.creating, ?_, fun b' hb' purchase hnames ↦ ?_, h.answers,
    fun account paymentIntent ↦ ?_⟩
  · rw [Stripe.enter, map_key_replaceRow]
    exact h.refundKeys
  · obtain rfl | ⟨hb', -⟩ := mem_replaceRow hb'
    · exact h.refunds b hb purchase hnames
    · exact h.refunds b' hb' purchase hnames
  · have hlisted := h.listed account paymentIntent
    rw [Stripe.length_refundsOf] at hlisted ⊢
    rw [Stripe.enter, map_replaceRow_eq _ fun old hold hid ↦ ?_]
    · exact hlisted
    · rw [eq_of_key_eq h.refundKeys hold hb hid]

theorem PaymentSystem.Sound.forget {answers : List RefundAnswer} (h : s.Sound)
    (hsub : ∀ answer ∈ answers, answer ∈ s.stripe.answers) :
    PaymentSystem.Sound { s with stripe := { s.stripe with answers := answers } } :=
  ⟨h.database, h.claimed, h.creating, h.refundKeys, h.refunds,
    fun answer hanswer ↦ h.answers answer (hsub answer hanswer), h.listed⟩

theorem PaymentSystem.Sound.execute {claimed : ClaimedRefund}
    {reference id currency status : String} (h : s.Sound) (hprocess : process ∈ s.processes)
    (hexec : process.Executes s.stripe stripe claimed reference id currency status) :
    PaymentSystem.Sound { s with stripe := stripe } := by
  -- an executed request is for the charge of its worker's row
  obtain ⟨rfl, -, hfresh, hroom, rfl⟩ := hexec
  have hcharged := h.claimed _ hprocess claimed rfl
  rw [h.creating claimed reference hprocess] at hcharged
  have hadd := h.add (b := (claimed.creation reference).refund id currency status) hfresh hroom
    fun purchase hnames ↦
      ⟨claimed.refund, (ClaimedRefund.creation_names.1 hnames).symm, rfl, hcharged⟩
  refine ⟨hadd.database, hadd.claimed, hadd.creating, hadd.refundKeys, hadd.refunds,
    fun answer hanswer ↦ ?_, hadd.listed⟩
  obtain rfl | hanswer := List.mem_cons.1 hanswer
  · exact ⟨claimed, reference, rfl, hcharged⟩
  · exact h.answers answer hanswer

theorem Database.claimedRefund_charges {r : Refund} {claimed : ClaimedRefund}
    (h : db.claimedRefund r = some claimed) (hr : r ∈ db.refunds) :
    db.Charges claimed.refund (some claimed.connectedSellerId)
      claimed.providerPaymentReference := by
  simp only [Database.claimedRefund, Option.bind_eq_bind, Option.bind_eq_some_iff] at h
  obtain ⟨ep, hep, seller, hseller, h⟩ := h
  obtain rfl := Option.some.inj h
  have hid := List.find?_some hep
  rw [decide_eq_true_eq] at hid
  exact ⟨⟨r, hr, .refl r⟩, ep, List.mem_of_find?_eq_some hep, hid, hseller, rfl⟩

theorem claimEventPurchaseRefund_stores {locked : Uuid → Bool} {provider : String} {r : Refund}
    (h : claimEventPurchaseRefund locked now provider db = .ok (some r, db')) :
    r ∈ db'.refunds := by
  rw [claimEventPurchaseRefund] at h
  split at h
  · cases h
  next old hfind =>
  simp only [bind_eq_ok, Except.ok.injEq, Prod.mk.injEq, Option.some.injEq] at h
  obtain ⟨t, hwrite, -, -, -, -, rfl, rfl⟩ := h
  obtain ⟨-, -, rfl⟩ := writeRefund_eq_ok.1 hwrite
  exact new_mem_replaceRow (List.mem_filter.1 (firstBy_mem hfind)).1 rfl

/-- **Every step keeps the installation sound.** -/
theorem PaymentStep.sound (hstep : PaymentStep parseUuid now s s') (h : s.Sound) : s'.Sound := by
  cases hstep with
  | transaction _ hrun => exact h.of_step (.inr ⟨_, _, hrun⟩)
  | @claim r claimed locked db hclaim hclaimed =>
    have hrun : (Operation.claimEventPurchaseRefund locked "stripe").run sampleEnv now s.db
      = .ok db :=
      stateOf_eq_ok.2 ⟨_, hclaim⟩
    have hdb := h.of_step (.inr ⟨_, _, hrun⟩)
    refine hdb.of_processes (fun process hprocess c hc ↦ ?_) fun c reference hprocess ↦ ?_
    · obtain rfl | hprocess := List.mem_cons.1 hprocess
      · rw [ClaimedRefund.start_claimed] at hc
        obtain rfl := Option.some.inj hc
        exact Database.claimedRefund_charges hclaimed (claimEventPurchaseRefund_stores hclaim)
      · exact hdb.claimed process hprocess c hc
    · obtain hstart | hprocess := List.mem_cons.1 hprocess
      · rw [ClaimedRefund.start] at hstart
        split_ifs at hstart
      · exact hdb.creating c reference hprocess
  | deliver _ _ =>
    refine h.of_processes (fun process hprocess c hc ↦ ?_) fun c reference hprocess ↦ ?_
    · obtain rfl | hprocess := List.mem_cons.1 hprocess
      · cases hc
      · exact h.claimed process hprocess c hc
    · obtain hstart | hprocess := List.mem_cons.1 hprocess
      · cases hstart
      · exact h.creating c reference hprocess
  | @process env before after process next db stripe hprocess hnext =>
    have hmem : process ∈ s.processes := hprocess ▸ List.mem_append_cons_self
    have hold {q : RefundProcess} (hq : q ∈ before ++ next.toList ++ after) :
        q ∈ s.processes ∨ next = some q := by
      rw [hprocess]
      simp only [List.mem_append, Option.mem_toList, List.mem_cons] at hq ⊢
      tauto
    have hstripe : PaymentSystem.Sound { s with stripe := stripe } := by
      obtain rfl | ⟨claimed, reference, id, currency, status, hexec⟩ := hnext.provider
      · exact h
      · exact h.execute hmem hexec
    have hdb := hstripe.of_step hnext.step
    refine hdb.of_processes (fun q hq c hc ↦ ?_) fun c reference hq ↦ ?_
    · obtain hq | rfl := hold hq
      · exact hdb.claimed q hq c hc
      · exact hdb.claimed process hmem c (hnext.claimed_eq ▸ hc)
    · obtain hq | rfl := hold hq
      · exact hdb.creating c reference hq
      · exact hnext.creating.2.1
  | provider hevolves =>
    cases hevolves with
    | enter status hrefund _ => exact h.enter hrefund
    | add hid hmetadata hroom =>
      refine h.add hid hroom fun purchase hnames ↦ ?_
      rw [StripeRefund.Names, hmetadata] at hnames
      cases hnames
  | forget hsub _ => exact h.forget hsub

/-! ## One live refund -/

/-- The refund counts as one of the purchase. -/
def StripeRefund.Serves (purchase : Uuid) (b : StripeRefund) : Prop :=
  b.Names purchase ∧ ¬ IsTerminalFailureStatus b.status

instance (purchase : Uuid) (b : StripeRefund) : Decidable (b.Serves purchase) :=
  inferInstanceAs (Decidable (_ ∧ _))

/-- The purchases that a request was answered for. -/
def Stripe.answered (stripe : Stripe) : Set Uuid :=
  {purchase | ∃ answer ∈ stripe.answers, ∃ claimed reference,
    answer.request = ClaimedRefund.creation reference claimed
      ∧ claimed.refund.eventPurchaseId = purchase}

/-- The purchases that a worker has looked for in vain, and may still ask a refund for. -/
def creating (processes : List RefundProcess) : Set Uuid :=
  {purchase | ∃ claimed reference, RefundProcess.creating claimed reference ∈ processes
    ∧ claimed.refund.eventPurchaseId = purchase}

/-- The provider, as the workers use it. -/
def PaymentSystem.remote (s : PaymentSystem) : Remote Uuid StripeRefund :=
  ⟨s.stripe.refunds, s.stripe.answered, creating s.processes⟩

theorem creating_mono {processes processes' : List RefundProcess}
    (h : ∀ claimed reference, RefundProcess.creating claimed reference ∈ processes →
      RefundProcess.creating claimed reference ∈ processes') :
    creating processes ⊆ creating processes' := by
  rintro _ ⟨claimed, reference, hprocess, rfl⟩
  exact ⟨claimed, reference, h claimed reference hprocess, rfl⟩

/-- What the lookup of a charge does not find, the provider does not have. -/
theorem PaymentSystem.Sound.none_serves {claimed : ClaimedRefund} {reference : String} (h : s.Sound)
    (hprocess : process ∈ s.processes) (hclaimed : process.claimed = some claimed)
    (hreference : claimed.providerPaymentReference = some reference)
    (hpinned : claimed.refund.providerRefundId = none)
    (hnone : findMatchingRefundResult (claimed.findInput reference)
      (s.stripe.listRefunds claimed.connectedSellerId reference) = .ok none) :
    ∀ b ∈ s.stripe.refunds, ¬ b.Serves claimed.refund.eventPurchaseId := by
  rintro b hb ⟨hnames, hlive⟩
  have hcharged := h.claimed process hprocess claimed hclaimed
  rw [hreference] at hcharged
  obtain ⟨r, hlink, hamount, hr⟩ := h.refunds b hb _ hnames
  obtain ⟨hterms, haccount, hpayment⟩ := hr.unique h.database hcharged hlink
  refine findMatchingRefundResult_eq_none hnone b ?_ ?_
  · have hof : b ∈ s.stripe.refundsOf claimed.connectedSellerId reference :=
      List.mem_filter.2 ⟨hb, decide_eq_true ⟨Option.some.inj haccount, Option.some.inj hpayment⟩⟩
    rw [Stripe.listRefunds, List.take_of_length_le (h.listed _ _)]
    exact hof
  · refine ⟨?_, hnames, ?_, .inr hlive⟩
    · exact hamount.symm.trans hterms.amount
    · simp [ClaimedRefund.findInput, hpinned]

/-- A purchase that was answered for and may be asked for again is remembered under the key of the
new request. -/
theorem PaymentSystem.Sound.remembers {claimed : ClaimedRefund} {reference : String} (h : s.Sound)
    (hprocess : RefundProcess.creating claimed reference ∈ s.processes) {answer : RefundAnswer}
    (hanswer : answer ∈ s.stripe.answers) {claimed' : ClaimedRefund} {reference' : String}
    (hrequest : answer.request = claimed'.creation reference')
    (hlink : claimed'.refund.eventPurchaseId = claimed.refund.eventPurchaseId) :
    answer.request.account = claimed.connectedSellerId
      ∧ answer.request.idempotencyKey = claimed.refund.idempotencyKey := by
  have hcharged := h.claimed _ hprocess claimed rfl
  obtain ⟨claimed'', reference'', hrequest', hcharged'⟩ := h.answers answer hanswer
  have hnames : claimed''.refund.eventPurchaseId = claimed'.refund.eventPurchaseId := by
    have hsame := congrArg (fun request ↦ (RefundCreation.refund request "" "" "").Names
      claimed''.refund.eventPurchaseId) (hrequest'.symm.trans hrequest)
    exact ClaimedRefund.creation_names.1 (hsame.mp (ClaimedRefund.creation_names.2 rfl))
  obtain ⟨hterms, haccount, -⟩ := hcharged'.unique h.database hcharged (hnames.trans hlink)
  rw [hrequest']
  exact ⟨Option.some.inj haccount, hterms.key⟩

theorem Stripe.answered_execute {claimed : ClaimedRefund} {reference id currency status : String} :
    (stripe.execute (claimed.creation reference) id currency status).answered
      = insert claimed.refund.eventPurchaseId stripe.answered := by
  -- the purchases of an executed request
  ext purchase
  constructor
  · rintro ⟨answer, hanswer, claimed', reference', hrequest, rfl⟩
    obtain rfl | hanswer := List.mem_cons.1 hanswer
    · have hsame := congrArg (fun request ↦ (RefundCreation.refund request "" "" "").Names
        claimed'.refund.eventPurchaseId) hrequest
      exact .inl (ClaimedRefund.creation_names.1 (hsame.mpr (ClaimedRefund.creation_names.2 rfl)))
    · exact .inr ⟨answer, hanswer, claimed', reference', hrequest, rfl⟩
  · rintro (rfl | ⟨answer, hanswer, hrest⟩)
    · exact ⟨_, List.mem_cons_self, claimed, reference, rfl, rfl⟩
    · exact ⟨answer, List.mem_cons_of_mem _ hanswer, hrest⟩

/-- **Every step is one of the provider's events**, or none. -/
theorem PaymentStep.remote (hstep : PaymentStep parseUuid now s s') (h : s.Sound) :
    Remote.Step StripeRefund.Serves s.remote s'.remote := by
  cases hstep with
  | transaction _ _ => exact .leave subset_rfl
  | @claim r claimed locked db hclaim hclaimed =>
    refine .leave (creating_mono fun c reference hprocess ↦ ?_)
    obtain hstart | hprocess := List.mem_cons.1 hprocess
    · rw [ClaimedRefund.start] at hstart
      split_ifs at hstart
    · exact hprocess
  | deliver _ _ =>
    refine .leave (creating_mono fun c reference hprocess ↦ ?_)
    obtain hstart | hprocess := List.mem_cons.1 hprocess
    · cases hstart
    · exact hprocess
  | @process env before after process next db stripe hprocess hnext =>
    have hmem : process ∈ s.processes := hprocess ▸ List.mem_append_cons_self
    have hold {q : RefundProcess} (hq : q ∈ before ++ next.toList ++ after) :
        q ∈ s.processes ∨ next = some q := by
      rw [hprocess]
      simp only [List.mem_append, Option.mem_toList, List.mem_cons] at hq ⊢
      tauto
    by_cases hcreating : ∃ claimed reference, next = some (.creating claimed reference)
    · -- the worker has looked
      obtain ⟨claimed, reference, rfl⟩ := hcreating
      obtain ⟨rfl, hreference, hpinned, rfl, hnone⟩ := hnext.creating
      refine .look (h.none_serves hmem rfl hreference hpinned hnone) ?_
      rintro _ ⟨c, reference', hq, rfl⟩
      obtain hq | hq := hold hq
      · exact .inl ⟨c, reference', hq, rfl⟩
      · obtain ⟨rfl, -⟩ := RefundProcess.creating.inj (Option.some.inj hq)
        exact .inr rfl
    have hsub : creating (before ++ next.toList ++ after) ⊆ creating s.processes :=
      creating_mono fun c reference hq ↦
        (hold hq).resolve_right fun hnew ↦ hcreating ⟨c, reference, hnew⟩
    obtain rfl | ⟨claimed, reference, id, currency, status, rfl, hnew, -, -, rfl⟩ := hnext.provider
    · exact .leave hsub
    · -- the worker creates
      have hunknown : claimed.refund.eventPurchaseId ∉ s.stripe.answered := by
        rintro ⟨answer, hanswer, claimed', reference', hrequest, hlink⟩
        exact hnew ⟨answer, hanswer, h.remembers hmem hanswer hrequest hlink⟩
      simp only [PaymentSystem.remote]
      rw [Stripe.answered_execute]
      exact .create ⟨claimed, reference, hmem, rfl⟩ hunknown
        (fun purchase hserves ↦ ClaimedRefund.creation_names.1 hserves.1) hsub
  | provider hevolves =>
    cases hevolves with
    | @enter b status hrefund hopen =>
      refine .evolve fun old hold purchase hserves ↦ ?_
      split_ifs at hserves with hid
      · rw [eq_of_key_eq h.refundKeys hold hrefund hid]
        exact ⟨hserves.1, hopen⟩
      · exact hserves
    | add _ hmetadata _ =>
      refine .other fun purchase hserves ↦ ?_
      have hnames := hserves.1
      rw [StripeRefund.Names, hmetadata] at hnames
      cases hnames
  | forget hsub hkept =>
    refine .forget ?_
    rintro _ ⟨claimed, reference, hprocess, rfl⟩ ⟨answer, hanswer, c, reference', hrequest, hlink⟩
    refine ⟨answer, ?_, c, reference', hrequest, hlink⟩
    by_contra hforgotten
    obtain ⟨haccount, hkey⟩ := h.remembers hprocess hanswer hrequest hlink
    exact hkept answer hanswer hforgotten _ hprocess
      ⟨claimed, reference, rfl, haccount.symm, hkey.symm⟩

/-- **A purchase is refunded once.** In every installation, whatever its workers, webhook requests
and the provider did in whatever order, at most one of the provider's refunds for a purchase has not
failed; and every refund for it, failed or not, is of the queued amount, in the seller's account, of
the purchase's payment. Of what the provider does by itself, `Stripe.Evolves` assumes two things: a
refund that has failed stays failed, and a refund that somebody makes by hand names no purchase. -/
theorem PaymentSystem.Reached.refunds_once (h : s.Reached parseUuid now) (purchase : Uuid) :
    (s.stripe.refunds.countP fun b ↦ b.Serves purchase) ≤ 1
      ∧ ∀ b ∈ s.stripe.refunds, b.Names purchase →
        (∃ r ∈ s.db.refunds, r.eventPurchaseId = purchase ∧ r.amountMinor = b.amount)
        ∧ ∃ ep ∈ s.db.purchases, ep.eventPurchaseId = purchase
          ∧ ep.connectedSellerId = some b.account
          ∧ ep.providerPaymentReference = some b.paymentIntent := by
  have hunique : s.Sound ∧ s.remote.Unique StripeRefund.Serves := by
    refine Reachable.stable (P := fun s ↦ s.Sound ∧ s.remote.Unique StripeRefund.Serves) h
      (fun s hfresh ↦ ⟨hfresh.sound, ?_⟩) fun _ s s' ⟨hs, hunique⟩ hstep ↦
        ⟨hstep.sound hs, (hstep.remote hs).unique hunique⟩
    rw [PaymentSystem.remote, hfresh.refunds]
    exact .empty
  refine ⟨hunique.2.countP_le_one purchase fun b hb ↦ of_decide_eq_true hb, fun b hb hnames ↦ ?_⟩
  obtain ⟨r, rfl, hamount, ⟨row, hrow, hterms⟩, hpaid⟩ := hunique.1.refunds b hb purchase hnames
  exact ⟨⟨row, hrow, hterms.purchase, hterms.amount.trans hamount⟩, hpaid⟩

/-! ### A sample refund -/

/-- A transaction of the installation that records no report. -/
def PaymentSystem.commit (env : Env) (now : Timestamp) (op : Operation) (s : PaymentSystem) :
    Except DbError PaymentSystem := do
  require (op.report = none) (.raised "reports are recorded by processes")
  let db ← op.run env now s.db
  .ok { s with db := db }

/-- A paid purchase whose event is canceled. -/
def canceledSaleScript : List (Timestamp × Operation) :=
  [(0, sampleCheckout 7 none none),
    (1, .attachCheckoutSessionToEventPurchase 1 (sampleSession "cs_1") none true),
    (2, .reconcileEventPurchaseForCheckoutSession (samplePayment "cs_1" "pi_1" "ch_1")),
    (3, .cancelEvent 2 1)]

/-- The claimed refund of the sale, before its first attempt. -/
def ClaimedRefund.IsSample (claimed : ClaimedRefund) : Prop :=
  claimed.connectedSellerId = "acct_1" ∧ claimed.providerPaymentReference = some "pi_1"
    ∧ claimed.refund.eventPurchaseId = 1 ∧ claimed.refund.amountMinor = 1000
    ∧ claimed.refund.providerRefundId = none ∧ claimed.refund.providerRefundedAt = none

instance (claimed : ClaimedRefund) : Decidable claimed.IsSample :=
  inferInstanceAs (Decidable (_ ∧ _))

/-- Its worker may record the success of a refund and finalize it. -/
def ClaimedRefund.IsFinalizable (claimed : ClaimedRefund) (db : Database) : Prop :=
  ∃ op ∈ claimed.refund.persist ⟨"re_1", .succeeded⟩, ∃ token ∈ claimed.refund.claimId,
    ∃ db₁ ∈ (op.run sampleEnv 5 db).toOption,
    ∃ db₂ ∈ ((Operation.finalizeEventPurchaseRefund claimed.refund.eventPurchaseRefundId
      (some token) true (some claimed.refund.paymentProviderId)).run sampleEnv 6 db₁).toOption,
    ∃ row ∈ db₂.refunds, row.eventPurchaseId = 1 ∧ row.providerRefundId = some "re_1"
      ∧ row.finalizedAt ≠ none

instance (claimed : ClaimedRefund) (db : Database) : Decidable (claimed.IsFinalizable db) := by
  unfold ClaimedRefund.IsFinalizable
  infer_instance

def Database.IsRefundable (db : Database) : Prop :=
  ∃ claim ∈ (claimEventPurchaseRefund (fun _ ↦ false) 4 "stripe" db).toOption, ∃ r ∈ claim.1,
    ∃ claimed ∈ claim.2.claimedRefund r, claimed.IsSample ∧ claimed.IsFinalizable claim.2

instance (db : Database) : Decidable db.IsRefundable := by
  unfold Database.IsRefundable
  infer_instance

theorem canceledSale_replays :
    Replays (PaymentSystem.commit sampleEnv) canceledSaleScript ⟨.sample 2 [], ⟨[], [], []⟩, []⟩
      fun s ↦ s.db.IsRefundable ∧ s.stripe = ⟨[], [], []⟩ ∧ s.processes = [] := by
  decide +kernel

theorem PaymentSystem.Reached.call {t t' : Timestamp}
    (h : PaymentSystem.Reached parseUuid t ⟨db, stripe, [process]⟩)
    (hnext : process.Next env t' db stripe db' stripe' next) :
    PaymentSystem.Reached parseUuid t' ⟨db', stripe', next.toList⟩ := by
  have hstep : PaymentStep parseUuid t' ⟨db, stripe, [process]⟩
      ⟨db', stripe', [] ++ next.toList ++ []⟩ := .process rfl hnext
  rw [List.nil_append, List.append_nil] at hstep
  exact (Reachable.wait h trivial).step hstep

/-- The worker looks, creates, records and finalizes. -/
theorem exists_refunded : ∃ s : PaymentSystem, s.Reached String.toNat? 6
    ∧ (∃ b ∈ s.stripe.refunds, b.Serves 1)
    ∧ ∃ row ∈ s.db.refunds, row.eventPurchaseId = 1 ∧ row.providerRefundId = some "re_1"
      ∧ row.finalizedAt ≠ none := by
  obtain ⟨⟨db, stripe, processes⟩, hscript, hrefundable, rfl, rfl⟩ :=
    exists_of_replays canceledSale_replays
  obtain ⟨⟨r?, db₁⟩, hclaim, r, rfl, claimed, hclaimed, hsample, op, hop, token, htoken, db₂,
    hrecord,
    db₃, hfinalize, row, hrow, hfinal⟩ := hrefundable
  obtain ⟨hseller, hreference, hpurchase, hamount, hpinned, hopen⟩ := hsample
  have hfresh : PaymentSystem.Fresh ⟨.sample 2 [], ⟨[], [], []⟩, []⟩ :=
    ⟨by decide, rfl, rfl, rfl, rfl⟩
  have hsold : PaymentSystem.Reached String.toNat? 3 ⟨db, ⟨[], [], []⟩, []⟩ := by
    refine reachable_of_replay (fun t op s s' hrun ↦ ?_) (.start (t := 0) hfresh)
      (List.pairwise_of_forall fun _ _ ↦ trivial) hscript
    simp only [PaymentSystem.commit, bind_eq_ok, require_eq_ok, Except.ok.injEq] at hrun
    obtain ⟨-, hreport, db', hrun, rfl⟩ := hrun
    exact .transaction hreport hrun
  have hclaims : PaymentStep String.toNat? 4 ⟨db, ⟨[], [], []⟩, []⟩
      ⟨db₁, ⟨[], [], []⟩, [claimed.start]⟩ := .claim (eq_ok_of_mem_toOption hclaim) hclaimed
  have hstart : claimed.start = .finding claimed := if_neg (not_not.2 hopen)
  rw [hstart] at hclaims
  have hfinding : PaymentSystem.Reached String.toNat? 4 ⟨db₁, ⟨[], [], []⟩, [.finding claimed]⟩ :=
    (Reachable.wait hsold trivial).step hclaims
  have hfound : RefundProcess.Next sampleEnv 4 db₁ ⟨[], [], []⟩ (.finding claimed) db₁ ⟨[], [], []⟩
      (some (.creating claimed "pi_1")) := by
    have hlooked : claimed.afterFind "pi_1" (.ok none) = .creating claimed "pi_1" :=
      if_neg (not_not.2 hpinned)
    rw [← hlooked]
    exact .find hreference
  have hexecuted : RefundProcess.Next sampleEnv 4 db₁ ⟨[], [], []⟩ (.creating claimed "pi_1") db₁
      (.execute (claimed.creation "pi_1") "re_1" "usd" "succeeded" ⟨[], [], []⟩)
      (some (.recordingAttempt claimed ⟨"re_1", .succeeded⟩)) := by
    refine .create ?_ ?_ (by simp) (by simp [Stripe.HasRoom, Stripe.refundsOf]) (.inl rfl)
    · rw [hamount]
      decide
    · rintro ⟨_, hnone, -⟩
      cases hnone
  have hconfirmed (stripe : Stripe) : RefundProcess.Next sampleEnv 5 db₁ stripe
      (.recordingAttempt claimed ⟨"re_1", .succeeded⟩) db₂ stripe (some (.finalizing claimed)) :=
    .recordAttempt hop (eq_ok_of_mem_toOption hrecord)
  have hfinalized (stripe : Stripe) :
      RefundProcess.Next sampleEnv 6 db₂ stripe (.finalizing claimed) db₃ stripe none :=
    .finalize htoken (eq_ok_of_mem_toOption hfinalize) (.inl rfl)
  have hrecorded := ((hfinding.call hfound).call hexecuted).call (hconfirmed _)
  have hlive : ¬ IsTerminalFailureStatus "succeeded" := by decide
  refine ⟨_, hrecorded.call (hfinalized _), ⟨_, List.mem_cons_self, ?_, hlive⟩, row, hrow, hfinal⟩
  rw [← hpurchase]
  rfl

theorem refunds_once_refunded : ∃ s : PaymentSystem,
    (∃ b ∈ s.stripe.refunds, b.Serves 1) ∧ (s.stripe.refunds.countP fun b ↦ b.Serves 1) ≤ 1 := by
  obtain ⟨s, hs, hserved, -⟩ := exists_refunded
  exact ⟨s, hserved, (hs.refunds_once 1).1⟩

end Ocg
