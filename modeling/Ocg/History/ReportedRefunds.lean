import Ocg.History.ProviderRefunds

/-!
# Refund rows say what the provider said

A status reaches a refund row through a worker that listed or created the refund, or through an
event that was checked against the purchase and the row. Workers go stale, events come late and
twice, and a row may have been pinned in the meantime; still, a row is confirmed, finalized or
failed for good only when the provider has emitted that very state, of the refund that the row is
pinned to, for the row's purchase and the row's amount.
-/

namespace Ocg

open Relational

variable {parseUuid : String → Option Uuid} {now : Timestamp} {env : Env} {db db' : Database}
  {stripe stripe' : Stripe} {process : RefundProcess} {next : Option RefundProcess}
  {s s' : PaymentSystem}

/-! ## Emitted states -/

/-- The provider has emitted the state, of a refund of the amount that names the purchase. -/
def Stripe.Emitted (parseUuid : String → Option Uuid) (purchase : Uuid) (amount : ℤ)
    (result : RefundPaymentResult) (stripe : Stripe) : Prop :=
  ∃ b ∈ stripe.events, (b.metadata.lookup "event_purchase_id").bind parseUuid = some purchase
    ∧ b.amount = amount ∧ refundResult b.id b.status = .ok result

/-- Every refund was emitted as it is, and so was what a request was answered with. -/
structure Stripe.EmitsAll (stripe : Stripe) : Prop where
  refunds : ∀ b ∈ stripe.refunds, b ∈ stripe.events
  answers : ∀ answer ∈ stripe.answers, ∃ b ∈ stripe.events, b.id = answer.id
    ∧ b.status = answer.status ∧ b.amount = answer.request.amount
    ∧ b.metadata = answer.request.metadata

theorem Stripe.EmitsAll.add {b : StripeRefund} (h : stripe.EmitsAll) : (stripe.add b).EmitsAll := by
  refine ⟨fun b' hb' ↦ ?_, fun answer hanswer ↦ ?_⟩
  · obtain rfl | hb' := List.mem_cons.1 hb'
    · exact List.mem_cons_self
    · exact List.mem_cons_of_mem _ (h.refunds b' hb')
  · obtain ⟨b', hb', hsame⟩ := h.answers answer hanswer
    exact ⟨b', List.mem_cons_of_mem _ hb', hsame⟩

theorem Stripe.EmitsAll.execute {request : RefundCreation} {id currency status : String}
    (h : stripe.EmitsAll) : (stripe.execute request id currency status).EmitsAll := by
  refine ⟨h.add.refunds, fun answer hanswer ↦ ?_⟩
  obtain rfl | hanswer := List.mem_cons.1 hanswer
  · exact ⟨_, List.mem_cons_self, rfl, rfl, rfl, rfl⟩
  · exact h.add.answers answer hanswer

theorem Stripe.EmitsAll.enter {b : StripeRefund} {status : String} (h : stripe.EmitsAll) :
    (stripe.enter b status).EmitsAll := by
  refine ⟨fun b' hb' ↦ ?_, fun answer hanswer ↦ ?_⟩
  · obtain rfl | ⟨hb', -⟩ := mem_replaceRow hb'
    · exact List.mem_cons_self
    · exact List.mem_cons_of_mem _ (h.refunds b' hb')
  · obtain ⟨b', hb', hsame⟩ := h.answers answer hanswer
    exact ⟨b', List.mem_cons_of_mem _ hb', hsame⟩

theorem Stripe.EmitsAll.found {input : FindRefundInput} {result : RefundPaymentResult}
    {account paymentIntent : String} (h : stripe.EmitsAll)
    (hparse : ∀ purchase, parseUuid (toString purchase) = some purchase)
    (hfound : findMatchingRefundResult input (stripe.listRefunds account paymentIntent)
      = .ok (some result)) :
    stripe.Emitted parseUuid input.purchaseId input.amountMinor result := by
  obtain ⟨b, hb, ⟨hamount, hnames, -⟩, hresult⟩ := findMatchingRefundResult_eq_some hfound
  have hlisted := (List.mem_filter.1 (List.mem_of_mem_take hb)).1
  refine ⟨b, h.refunds b hlisted, ?_, hamount, hresult⟩
  rw [StripeRefund.Names] at hnames
  rw [hnames, Option.bind_some, hparse]

theorem Stripe.EmitsAll.answered {claimed : ClaimedRefund} {reference : String}
    {answer : RefundAnswer} {result : RefundPaymentResult} (h : stripe.EmitsAll)
    (hparse : ∀ purchase, parseUuid (toString purchase) = some purchase)
    (hanswer : answer ∈ stripe.answers) (hrequest : answer.request = claimed.creation reference)
    (hresult : refundResult answer.id answer.status = .ok result) :
    stripe.Emitted parseUuid claimed.refund.eventPurchaseId claimed.refund.amountMinor result := by
  obtain ⟨b, hb, hid, hstatus, hamount, hmetadata⟩ := h.answers answer hanswer
  rw [hrequest] at hamount hmetadata
  refine ⟨b, hb, ?_, hamount, by rw [hid, hstatus, hresult]⟩
  rw [hmetadata]
  exact hparse _

theorem Stripe.Emitted.mono {purchase : Uuid} {amount : ℤ} {result : RefundPaymentResult}
    (h : stripe.Emitted parseUuid purchase amount result)
    (hevents : ∀ b ∈ stripe.events, b ∈ stripe'.events) :
    stripe'.Emitted parseUuid purchase amount result := by
  obtain ⟨b, hb, hsame⟩ := h
  exact ⟨b, hevents b hb, hsame⟩

/-! ## Rows -/

/-- The provider has emitted the state of the refund that the row is pinned to. -/
def Refund.IsReported (parseUuid : String → Option Uuid) (stripe : Stripe)
    (status : RefundPaymentStatus) (r : Refund) : Prop :=
  ∃ id, r.providerRefundId = some id
    ∧ stripe.Emitted parseUuid r.eventPurchaseId r.amountMinor ⟨id, status⟩

/-- What the row says about the provider was emitted. -/
structure Refund.Truthful (parseUuid : String → Option Uuid) (stripe : Stripe) (r : Refund) :
    Prop where
  confirmed : r.providerRefundedAt ≠ none → r.IsReported parseUuid stripe .succeeded
  terminal : r.terminalFailure = true → r.IsReported parseUuid stripe .failed
  finalized : r.finalizedAt ≠ none →
    r.recoveryCompletedAt ≠ none ∨ r.IsReported parseUuid stripe .succeeded

theorem Refund.IsReported.mono {status : RefundPaymentStatus} {r : Refund}
    (h : r.IsReported parseUuid stripe status) (hevents : ∀ b ∈ stripe.events, b ∈ stripe'.events) :
    r.IsReported parseUuid stripe' status := by
  obtain ⟨id, hid, hemitted⟩ := h
  exact ⟨id, hid, hemitted.mono hevents⟩

theorem Refund.Truthful.mono {r : Refund} (h : r.Truthful parseUuid stripe)
    (hevents : ∀ b ∈ stripe.events, b ∈ stripe'.events) : r.Truthful parseUuid stripe' :=
  ⟨fun hconfirmed ↦ (h.confirmed hconfirmed).mono hevents,
    fun hterminal ↦ (h.terminal hterminal).mono hevents,
    fun hfinalized ↦ (h.finalized hfinalized).imp_right fun hreported ↦ hreported.mono hevents⟩

/-- The refund that a row is pinned to stays the one that its reports were about. -/
theorem Refund.IsReported.accepts {status : RefundPaymentStatus} {r new : Refund}
    {result : RefundResult} {providerRefundId : String} (h : r.IsReported parseUuid stripe status)
    (haccepts : r.Accepts result providerRefundId) (hterms : new.SameTerms r)
    (hid : new.providerRefundId = some providerRefundId) :
    new.IsReported parseUuid stripe status := by
  obtain ⟨id, hpinned, hemitted⟩ := h
  obtain rfl := haccepts.pinned id hpinned
  refine ⟨id, hid, ?_⟩
  rw [hterms.purchase, hterms.amount]
  exact hemitted

/-- **A write keeps a row truthful** when the report that it records was emitted. -/
theorem RefundWrite.truthful {op : Operation} {old new : Refund} (h : RefundWrite now op old new)
    (hold : old.Truthful parseUuid stripe)
    (hreport : ∀ status result id, op.report = some (status, result) →
      old.eventPurchaseRefundId = result.eventPurchaseRefundId → result.providerRefundId = some id →
      stripe.Emitted parseUuid old.eventPurchaseId old.amountMinor ⟨id, status⟩) :
    new.Truthful parseUuid stripe := by
  cases h with
  | claim _ _ | requeue _ _ => exact ⟨hold.confirmed, hold.terminal, hold.finalized⟩
  | fail _ _ _ _ | release _ =>
    exact ⟨hold.confirmed, fun hterminal ↦ absurd hterminal Bool.false_ne_true, hold.finalized⟩
  | pending haccepts _ _ =>
    refine ⟨fun hconfirmed ↦ ?_, fun hterminal ↦ absurd hterminal Bool.false_ne_true,
      fun hfinalized ↦ ?_⟩
    · exact (hold.confirmed hconfirmed).accepts haccepts ⟨rfl, rfl, rfl, rfl, rfl⟩ rfl
    · exact (hold.finalized hfinalized).imp_right fun hreported ↦
        hreported.accepts haccepts ⟨rfl, rfl, rfl, rfl, rfl⟩ rfl
  | confirm haccepts _ _ =>
    have hsucceeded := hreport _ _ _ rfl haccepts.id haccepts.reported
    exact ⟨fun _ ↦ ⟨_, rfl, hsucceeded⟩, fun hterminal ↦ absurd hterminal Bool.false_ne_true,
      fun _ ↦ .inr ⟨_, rfl, hsucceeded⟩⟩
  | failTerminally _ haccepts =>
    refine ⟨fun hconfirmed ↦ absurd rfl hconfirmed, fun _ ↦ ?_, fun hfinalized ↦ ?_⟩
    · exact ⟨_, rfl, hreport _ _ _ rfl haccepts.id haccepts.reported⟩
    · exact (hold.finalized hfinalized).imp_right fun hreported ↦
        hreported.accepts haccepts ⟨rfl, rfl, rfl, rfl, rfl⟩ rfl
  | finalize _ _ hconfirmed _ =>
    exact ⟨hold.confirmed, hold.terminal, fun _ ↦ .inr (hold.confirmed hconfirmed)⟩
  | recover _ _ =>
    exact ⟨hold.confirmed, hold.terminal, fun _ ↦ .inl (by simp [Refund.recover])⟩

/-! ## Processes -/

/-- The row of a loaded refund is stored. -/
def Database.Stores (db : Database) (r : Refund) : Prop := ∃ row ∈ db.refunds, row.SameTerms r

/-- What a process is about to record was emitted, of the refund that it has loaded. -/
def RefundProcess.Truthful (parseUuid : String → Option Uuid) (stripe : Stripe) (db : Database) :
    RefundProcess → Prop
  | .finding claimed | .creating claimed _ | .finalizing claimed | .releasing claimed _ =>
    db.Stores claimed.refund
  | .recordingAttempt claimed result => db.Stores claimed.refund
    ∧ stripe.Emitted parseUuid claimed.refund.eventPurchaseId claimed.refund.amountMinor result
  | .received event =>
    stripe.Emitted parseUuid event.purchaseId event.amountMinor
      ⟨event.providerRefundId, event.status⟩
  | .loading event purchase => purchase.eventPurchaseId = event.purchaseId
    ∧ stripe.Emitted parseUuid event.purchaseId event.amountMinor
        ⟨event.providerRefundId, event.status⟩
  | .refreshing _ _ refund => db.Stores refund
  | .recordingEvent refund result => db.Stores refund
    ∧ stripe.Emitted parseUuid refund.eventPurchaseId refund.amountMinor result

theorem RefundProcess.Truthful.mono (h : process.Truthful parseUuid stripe db)
    (hevents : ∀ b ∈ stripe.events, b ∈ stripe'.events)
    (hstores : ∀ r, db.Stores r → db'.Stores r) : process.Truthful parseUuid stripe' db' := by
  cases process with
  | finding | creating | finalizing | releasing | refreshing => exact hstores _ h
  | recordingAttempt | recordingEvent => exact ⟨hstores _ h.1, h.2.mono hevents⟩
  | received => exact Stripe.Emitted.mono h hevents
  | loading => exact ⟨h.1, h.2.mono hevents⟩

theorem ClaimedRefund.start_truthful {claimed : ClaimedRefund} (h : db.Stores claimed.refund) :
    claimed.start.Truthful parseUuid stripe db := by
  rw [ClaimedRefund.start]
  split_ifs <;> exact h

theorem ClaimedRefund.afterFind_truthful {claimed : ClaimedRefund} {reference : String}
    {response : Except String (Option RefundPaymentResult)} (h : db.Stores claimed.refund)
    (hfound : ∀ result, response = .ok (some result) →
      stripe.Emitted parseUuid claimed.refund.eventPurchaseId claimed.refund.amountMinor result) :
    (claimed.afterFind reference response).Truthful parseUuid stripe db := by
  unfold ClaimedRefund.afterFind
  split
  · exact h
  · exact ⟨h, hfound _ rfl⟩
  · split_ifs <;> exact h

theorem ClaimedRefund.afterCreate_truthful {claimed : ClaimedRefund}
    {response : Except String RefundPaymentResult} (h : db.Stores claimed.refund)
    (hcreated : ∀ result, response = .ok result →
      stripe.Emitted parseUuid claimed.refund.eventPurchaseId claimed.refund.amountMinor result) :
    (claimed.afterCreate response).Truthful parseUuid stripe db := by
  unfold ClaimedRefund.afterCreate
  split
  · exact h
  · exact ⟨h, hcreated _ rfl⟩

theorem decideRefundEvent_truthful {provider : String} {event : RefundUpdatedInput}
    {purchase : Purchase} {refund : Refund} (hr : refund ∈ db.refunds)
    (hlink : refund.eventPurchaseId = event.purchaseId)
    (hemitted : stripe.Emitted parseUuid event.purchaseId event.amountMinor
      ⟨event.providerRefundId, event.status⟩)
    (h : decideRefundEvent provider event purchase refund = .ok (some process)) :
    process.Truthful parseUuid stripe db := by
  have hamount : refund.amountMinor = event.amountMinor := by
    simp only [decideRefundEvent, validateRefundEvent, bind_eq_ok] at h
    obtain ⟨isCurrentAttempt, ⟨-, -, hvalid⟩, -⟩ := h
    split_ifs at hvalid with hprovider hamount
    exact not_not.1 hamount
  have hstored : db.Stores refund := ⟨refund, hr, .refl refund⟩
  obtain rfl | rfl := decideRefundEvent_eq_some h
  · exact hstored
  · refine ⟨hstored, ?_⟩
    rw [hlink, hamount]
    exact hemitted

/-- **A call leaves its process truthful.** -/
theorem RefundProcess.Next.truthful {q : RefundProcess}
    (hparse : ∀ purchase, parseUuid (toString purchase) = some purchase)
    (h : process.Next env now db stripe db' stripe' (some q)) (hstripe : stripe.EmitsAll)
    (hprocess : process.Truthful parseUuid stripe db) : q.Truthful parseUuid stripe' db := by
  generalize hq : some q = next at h
  cases h with
  | stop | release _ _ | recordEvent _ _ => cases hq
  | find _ =>
    obtain rfl := Option.some.inj hq
    exact ClaimedRefund.afterFind_truthful hprocess fun result hfound ↦
      hstripe.found hparse hfound
  | failToFind _ _ =>
    obtain rfl := Option.some.inj hq
    exact ClaimedRefund.afterFind_truthful hprocess fun result hfound ↦ by cases hfound
  | refuseAmount _ | failToCreate _ =>
    obtain rfl := Option.some.inj hq
    exact ClaimedRefund.afterCreate_truthful hprocess fun result hcreated ↦ by cases hcreated
  | create _ _ _ _ hresponse =>
    obtain rfl := Option.some.inj hq
    refine ClaimedRefund.afterCreate_truthful hprocess fun result hcreated ↦ ?_
    obtain rfl | ⟨message, rfl⟩ := hresponse
    · exact ⟨_, List.mem_cons_self, hparse _, rfl, hcreated⟩
    · cases hcreated
  | repeatCreate hanswer hrequest =>
    obtain rfl := Option.some.inj hq
    exact ClaimedRefund.afterCreate_truthful hprocess fun result hcreated ↦
      hstripe.answered hparse hanswer hrequest hcreated
  | keepFailure _ | recordAttempt _ _ =>
    rw [ClaimedRefund.afterRecord_eq_some hq.symm]
    exact hprocess.1
  | finalize _ _ hended =>
    obtain rfl | ⟨message, rfl⟩ := hended
    · cases hq
    · obtain rfl := Option.some.inj hq
      exact hprocess
  | missReference _ | failToFinalize _ =>
    obtain rfl := Option.some.inj hq
    exact hprocess
  | recordUnheard _ _ _ | failToRecord _ =>
    obtain rfl := Option.some.inj hq
    exact hprocess.1
  | loadPurchase _ hid _ =>
    obtain rfl := Option.some.inj hq
    exact ⟨hid, hprocess⟩
  | loadRefund hr hid hdecide =>
    exact decideRefundEvent_truthful hr (hid.trans hprocess.1) hprocess.2 (hq ▸ hdecide)
  | refresh _ =>
    obtain ⟨result, hfound, -, rfl⟩ := afterRefresh_eq_some hq.symm
    exact ⟨hprocess, hstripe.found hparse hfound⟩

theorem Refund.persist_report {refund : Refund} {result : RefundPaymentResult} {op : Operation}
    (h : refund.persist result = some op) :
    op.report = some (result.status, ⟨refund.eventPurchaseRefundId, some refund.idempotencyKey,
      some result.providerRefundId, refund.claimId⟩) := by
  obtain ⟨id, status⟩ := result
  cases status with
  | failed =>
    simp only [Refund.persist] at h
    split_ifs at h
    obtain rfl := Option.some.inj h
    rfl
  | pending | succeeded =>
    obtain rfl := Option.some.inj h
    rfl

theorem RefundProcess.Next.report (h : process.Next env now db stripe db' stripe' next) :
    db' = db ∨ ∃ op : Operation, op.run env now db = .ok db' ∧ (op.report = none
      ∨ ∃ refund result, refund.persist result = some op
        ∧ ((∃ claimed, process = .recordingAttempt claimed result ∧ claimed.refund = refund)
          ∨ process = .recordingEvent refund result)) := by
  cases h with
  | recordAttempt hop hrun | recordUnheard _ hop hrun =>
    exact .inr ⟨_, hrun, .inr ⟨_, _, hop, .inl ⟨_, rfl, rfl⟩⟩⟩
  | recordEvent hop hrun => exact .inr ⟨_, hrun, .inr ⟨_, _, hop, .inr rfl⟩⟩
  | finalize _ hrun _ | release _ hrun => exact .inr ⟨_, hrun, .inl rfl⟩
  | _ => exact .inl rfl

/-! ## Runs -/

/-- What the processes know and the rows say, was emitted. -/
structure PaymentSystem.Truthful (parseUuid : String → Option Uuid) (s : PaymentSystem) : Prop where
  database : s.db.Consistent
  emitted : s.stripe.EmitsAll
  rows : ∀ r ∈ s.db.refunds, r.Truthful parseUuid s.stripe
  processes : ∀ process ∈ s.processes, process.Truthful parseUuid s.stripe s.db

theorem PaymentSystem.Fresh.truthful (h : s.Fresh) : s.Truthful parseUuid := by
  refine ⟨h.database.consistent, ⟨?_, ?_⟩, ?_, ?_⟩
  all_goals simp [h.refunds, h.answers, h.processes, h.database.refunds]

theorem Operation.keepsStores {op : Operation} {r : Refund} (hdb : db.Consistent)
    (h : op.run env now db = .ok db') (hr : db.Stores r) : db'.Stores r := by
  obtain ⟨row, hrow, hterms⟩ := hr
  have hmoves := op.moves_any hdb.wellFormed hdb.refunds h
  obtain ⟨new, hnew, hid, -⟩ := hmoves.refund_stays hdb hrow
  exact ⟨new, hnew, hterms.trans ((op.writesRefunds h).sameTerms hdb.refunds hrow hnew hid)⟩

/-- A transaction that records an emitted report, or none, keeps the installation truthful. -/
theorem PaymentSystem.Truthful.transaction {op : Operation} (h : s.Truthful parseUuid)
    (hrun : op.run env now s.db = .ok db)
    (hreport : ∀ old ∈ s.db.refunds, ∀ status result id, op.report = some (status, result) →
      old.eventPurchaseRefundId = result.eventPurchaseRefundId → result.providerRefundId = some id →
      s.stripe.Emitted parseUuid old.eventPurchaseId old.amountMinor ⟨id, status⟩) :
    PaymentSystem.Truthful parseUuid { s with db := db } := by
  refine ⟨(Step.moves ⟨env, op, hrun⟩ h.database).keeps h.database, h.emitted, fun r hr ↦ ?_,
    fun process hprocess ↦ ?_⟩
  · obtain hr | ⟨old, hold, hwrite⟩ | hnew := (op.writesRefunds hrun).rows r hr
    · exact h.rows r hr
    · exact hwrite.truthful (h.rows old hold) (hreport old hold)
    · exact ⟨fun hconfirmed ↦ absurd hnew.unconfirmed hconfirmed,
        fun hterminal ↦ absurd (hnew.live.symm.trans hterminal) Bool.false_ne_true,
        fun hfinalized ↦ absurd hnew.unfinalized hfinalized⟩
  · exact (h.processes process hprocess).mono (fun _ hb ↦ hb) fun _ hr ↦
      op.keepsStores h.database hrun hr

theorem PaymentSystem.Truthful.provider (h : s.Truthful parseUuid) (hemitted : stripe.EmitsAll)
    (hevents : ∀ b ∈ s.stripe.events, b ∈ stripe.events) :
    PaymentSystem.Truthful parseUuid { s with stripe := stripe } :=
  ⟨h.database, hemitted, fun r hr ↦ (h.rows r hr).mono hevents,
    fun process hprocess ↦ (h.processes process hprocess).mono hevents fun _ hr ↦ hr⟩

theorem PaymentSystem.Truthful.of_processes {processes : List RefundProcess}
    (h : s.Truthful parseUuid)
    (hprocesses : ∀ process ∈ processes, process.Truthful parseUuid s.stripe s.db) :
    PaymentSystem.Truthful parseUuid { s with processes := processes } :=
  ⟨h.database, h.emitted, h.rows, hprocesses⟩

theorem PaymentSystem.Truthful.reports {op : Operation} {refund : Refund}
    {result : RefundPaymentResult} (h : s.Truthful parseUuid) (hstored : s.db.Stores refund)
    (hemitted : s.stripe.Emitted parseUuid refund.eventPurchaseId refund.amountMinor result)
    (hop : refund.persist result = some op) :
    ∀ old ∈ s.db.refunds, ∀ status result id, op.report = some (status, result) →
      old.eventPurchaseRefundId = result.eventPurchaseRefundId → result.providerRefundId = some id →
      s.stripe.Emitted parseUuid old.eventPurchaseId old.amountMinor ⟨id, status⟩ := by
  intro old hold status report id hreport hid hreported
  rw [Refund.persist_report hop] at hreport
  obtain ⟨rfl, rfl⟩ := Prod.mk.inj (Option.some.inj hreport)
  obtain rfl := Option.some.inj hreported
  obtain ⟨row, hrow, hterms⟩ := hstored
  obtain rfl := eq_of_key_eq h.database.refunds.keys hold hrow (hid.trans hterms.id.symm)
  rw [hterms.purchase, hterms.amount]
  exact hemitted

/-- **Every step keeps the installation truthful.** -/
theorem PaymentStep.truthful (hparse : ∀ purchase, parseUuid (toString purchase) = some purchase)
    (hstep : PaymentStep parseUuid now s s') (h : s.Truthful parseUuid) :
    s'.Truthful parseUuid := by
  have hsilent {op : Operation} (hop : op.report = none) :
      ∀ old ∈ s.db.refunds, ∀ status result id, op.report = some (status, result) →
        old.eventPurchaseRefundId = result.eventPurchaseRefundId →
        result.providerRefundId = some id →
        s.stripe.Emitted parseUuid old.eventPurchaseId old.amountMinor ⟨id, status⟩ :=
    fun _ _ _ _ _ hreport ↦ by rw [hop] at hreport; cases hreport
  cases hstep with
  | transaction hop hrun => exact h.transaction hrun (hsilent hop)
  | @claim r claimed locked db hclaim hclaimed =>
    have hrun : (Operation.claimEventPurchaseRefund locked "stripe").run sampleEnv now s.db
      = .ok db :=
      stateOf_eq_ok.2 ⟨_, hclaim⟩
    have hdb := h.transaction hrun (hsilent rfl)
    refine hdb.of_processes fun process hprocess ↦ ?_
    obtain rfl | hprocess := List.mem_cons.1 hprocess
    · exact ClaimedRefund.start_truthful
        (Database.claimedRefund_charges hclaimed (claimEventPurchaseRefund_stores hclaim)).refund
    · exact hdb.processes process hprocess
  | @deliver object event hobject hevent =>
    refine h.of_processes fun process hprocess ↦ ?_
    obtain rfl | hprocess := List.mem_cons.1 hprocess
    · obtain ⟨hnames, hamount, hresult⟩ := parseRefundEvent_eq_some hevent
      exact ⟨object, hobject, hnames, hamount, hresult⟩
    · exact h.processes process hprocess
  | @process env before after process next db stripe hprocess hnext =>
    have hmem : process ∈ s.processes := hprocess ▸ List.mem_append_cons_self
    have htruthful := h.processes process hmem
    have hemitted : stripe.EmitsAll ∧ ∀ b ∈ s.stripe.events, b ∈ stripe.events := by
      obtain rfl | ⟨claimed, reference, id, currency, status, hexec⟩ := hnext.provider
      · exact ⟨h.emitted, fun _ hb ↦ hb⟩
      · obtain rfl := hexec.executed
        exact ⟨h.emitted.execute, fun _ hb ↦ List.mem_cons_of_mem _ hb⟩
    have hstripe := h.provider hemitted.1 hemitted.2
    have hdb : PaymentSystem.Truthful parseUuid { s with db := db, stripe := stripe }
        ∧ ∀ r, s.db.Stores r → db.Stores r := by
      obtain rfl | ⟨op, hrun, hreport⟩ := hnext.report
      · exact ⟨hstripe, fun _ hr ↦ hr⟩
      refine ⟨hstripe.transaction hrun ?_, fun _ hr ↦ op.keepsStores h.database hrun hr⟩
      obtain hnone | ⟨refund, result, hop, ⟨claimed, rfl, rfl⟩ | rfl⟩ := hreport
      · intro _ _ _ _ _ hsome
        rw [hnone] at hsome
        cases hsome
      all_goals exact hstripe.reports htruthful.1 (htruthful.2.mono hemitted.2) hop
    refine hdb.1.of_processes fun q hq ↦ ?_
    simp only [List.mem_append, Option.mem_toList] at hq
    obtain (hq | rfl) | hq := hq
    · exact hdb.1.processes q (hprocess ▸ List.mem_append_left _ hq)
    · exact (hnext.truthful hparse h.emitted htruthful).mono (fun _ hb ↦ hb) hdb.2
    · exact hdb.1.processes q (hprocess ▸ List.mem_append_right _ (List.mem_cons_of_mem _ hq))
  | provider hevolves =>
    cases hevolves with
    | enter status _ _ => exact h.provider h.emitted.enter fun _ hb ↦ List.mem_cons_of_mem _ hb
    | add _ _ _ => exact h.provider h.emitted.add fun _ hb ↦ List.mem_cons_of_mem _ hb
  | forget hsub _ =>
    refine h.provider ⟨h.emitted.refunds, fun answer hanswer ↦ ?_⟩ fun _ hb ↦ hb
    exact h.emitted.answers answer (hsub answer hanswer)

/-- **Refund rows say what the provider said.** In every installation, whatever was delayed,
repeated, lost or claimed again: a confirmed row is pinned to a refund of its purchase and its
amount that the provider has reported as succeeded, a finalized row too, unless an operator has
recovered it, and a row that has failed for good is pinned to one that was reported as failed. -/
theorem PaymentSystem.Reached.rows_truthful
    (hparse : ∀ purchase, parseUuid (toString purchase) = some purchase)
    (h : s.Reached parseUuid now) : ∀ r ∈ s.db.refunds, r.Truthful parseUuid s.stripe :=
  (Reachable.stable (P := PaymentSystem.Truthful parseUuid) h (fun _ hfresh ↦ hfresh.truthful)
    fun _ _ _ hs hstep ↦ hstep.truthful hparse hs).rows

theorem rows_truthful_refunded : ∃ s : PaymentSystem,
    ∃ row ∈ s.db.refunds, row.finalizedAt ≠ none ∧ row.Truthful String.toNat? s.stripe := by
  obtain ⟨s, hs, -, row, hrow, -, -, hfinalized⟩ := exists_refunded
  exact ⟨s, row, hrow, hfinalized, hs.rows_truthful Nat.toNat?_repr row hrow⟩

end Ocg
