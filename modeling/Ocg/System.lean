import Mathlib.Order.Basic
import Ocg.Refinement.Refund
import Ocg.Relational.Run

/-!
# The event as a transaction system

Every operation on an event runs in its own transaction under the event row lock, so a history of
the event is a sequence of operations, each with the start time of its transaction. A transaction
that raises leaves no trace and is not part of the history.

The lock is granted in an order that need not be the order of the start times. `Database.Reached`
allows every order; `Database.ReachedInOrder` is a history in which time only moves on. Both start
from an event that nobody has enrolled in, and no organizer edits the event meanwhile.
-/

namespace Ocg

open Relational

/-! ## Operations -/

/-- The operations on enrollment, checkouts and refunds, with their arguments. -/
inductive Operation
  | attendEvent (communityId user : Uuid) (answers : Option Answers) (tier : Option Uuid)
  | leaveEvent (communityId user : Uuid) (provider : Option String)
  | submitEventRegistrationAnswers (communityId user : Uuid) (answers : Option Answers)
  | acceptEventInvitationRequest (actor groupId user : Uuid) (tier : Option Uuid)
      (provider : Option String)
  | rejectEventInvitationRequest (groupId user : Uuid)
  | inviteEventAttendee (actor groupId : Uuid) (user : Option Uuid) (email : Option String)
      (tier : Option Uuid) (provider : Option String)
  | cancelEventAdmissionOffer (groupId offer : Uuid) (provider : Option String)
  | declineEventAdmissionOffer (actor offer : Uuid) (provider : Option String)
  | reconcileEventEnrollment (tier : Option Uuid) (provider : Option String)
  | prepareEventCheckoutPurchase (req : CheckoutRequest)
  | cancelEventCheckout (communityId user : Uuid) (provider : Option String)
  | attachCheckoutSessionToEventPurchase (purchase : Uuid) (ref : SessionRef)
      (checkoutUrl : Option String) (hasTaxResources : Bool)
  | expireEventPurchaseForCheckoutSession (ref : SessionRef)
  | completeFreeEventPurchase (purchase : Uuid)
  | reconcileEventPurchaseForCheckoutSession (report : CompletedSession)
  | unpublishEvent (groupId : Uuid)
  | cancelEvent (actor groupId : Uuid)
  | requestEventRefund (communityId user : Uuid) (reason : Option String)
  | rejectEventRefundRequest (actor groupId purchase : Uuid) (reviewNote : Option String)
  | queueEventRefundRequestApproval (actor groupId purchase : Uuid) (reviewNote : Option String)
  | cancelEventAttendeeAttendance (actor groupId user : Uuid) (provider : Option String)
  | claimEventPurchaseRefund (locked : Uuid → Bool) (provider : String)
  | recordEventPurchaseRefundPending (result : RefundResult)
  | recordEventPurchaseRefundRetryableFailure (refund claim : Uuid) (message : Option String)
  | recordEventPurchaseRefundSucceeded (result : RefundResult)
  | recordEventPurchaseRefundTerminalFailed (result : RefundResult) (message : Option String)
  | finalizeEventPurchaseRefund (refund : Uuid) (claim : Option Uuid) (hasNotification : Bool)
      (provider : Option String)
  | requeueEventPurchaseRefund (groupId purchase : Uuid)
  | requeueStaleEventPurchaseRefundClaims
  | completeEventPurchaseRefundRecovery (refund : Uuid) (evidence : RecoveryEvidence)
      (provider : Option String)

/-- The state that an operation leaves, without its answer. -/
def stateOf {α σ : Type} (result : Except DbError (α × σ)) : Except DbError σ :=
  result.map Prod.snd

@[simp] theorem stateOf_eq_ok {α σ : Type} {result : Except DbError (α × σ)} {s : σ} :
    stateOf result = .ok s ↔ ∃ a, result = .ok (a, s) := by
  unfold stateOf
  cases result with
  | error e => simp [Except.map]
  | ok r => simp [Except.map, Prod.ext_iff]

/-- The transaction of an operation that starts at `now`. -/
def Operation.run (env : Env) (now : Timestamp) : Operation → Database → Except DbError Database
  | .attendEvent communityId user answers tier => onEnrollment fun s ↦
      stateOf (Ocg.attendEvent env now communityId user answers tier s)
  | .leaveEvent communityId user provider => onEnrollment fun s ↦
      stateOf (Ocg.leaveEvent now communityId user provider s)
  | .submitEventRegistrationAnswers communityId user answers => onEnrollment
      (Ocg.submitEventRegistrationAnswers env now communityId user answers)
  | .acceptEventInvitationRequest actor groupId user tier provider => onEnrollment fun s ↦
      stateOf (Ocg.acceptEventInvitationRequest now actor groupId user tier provider s)
  | .rejectEventInvitationRequest groupId user => onEnrollment
      (Ocg.rejectEventInvitationRequest groupId user)
  | .inviteEventAttendee actor groupId user email tier provider => fun db ↦
      stateOf (Ocg.inviteEventAttendee now actor groupId user email tier provider db)
  | .cancelEventAdmissionOffer groupId offer provider => onEnrollment
      (Ocg.cancelEventAdmissionOffer now groupId offer provider)
  | .declineEventAdmissionOffer actor offer provider => onEnrollment
      (Ocg.declineEventAdmissionOffer now actor offer provider)
  | .reconcileEventEnrollment tier provider => onEnrollment fun s ↦
      stateOf (Ocg.reconcileEventEnrollment now tier provider s)
  | .prepareEventCheckoutPurchase req => onEnrollment fun s ↦
      stateOf (Ocg.prepareEventCheckoutPurchase env now req s)
  | .cancelEventCheckout communityId user provider => onEnrollment
      (Ocg.cancelEventCheckout now communityId user provider)
  | .attachCheckoutSessionToEventPurchase purchase ref checkoutUrl hasTaxResources => onEnrollment
      (Ocg.attachCheckoutSessionToEventPurchase purchase ref checkoutUrl hasTaxResources)
  | .expireEventPurchaseForCheckoutSession ref => onEnrollment
      (Ocg.expireEventPurchaseForCheckoutSession now ref)
  | .completeFreeEventPurchase purchase => onEnrollment
      (Ocg.completeFreeEventPurchase now purchase)
  | .reconcileEventPurchaseForCheckoutSession report => fun db ↦
      stateOf (Ocg.reconcileEventPurchaseForCheckoutSession now report db)
  | .unpublishEvent groupId => onEnrollment (Ocg.unpublishEvent now groupId)
  | .cancelEvent actor groupId => Ocg.cancelEvent now actor groupId
  | .requestEventRefund communityId user reason =>
      Ocg.requestEventRefund env now communityId user reason
  | .rejectEventRefundRequest actor groupId purchase reviewNote =>
      Ocg.rejectEventRefundRequest now actor groupId purchase reviewNote
  | .queueEventRefundRequestApproval actor groupId purchase reviewNote =>
      Ocg.queueEventRefundRequestApproval now actor groupId purchase reviewNote
  | .cancelEventAttendeeAttendance actor groupId user provider => fun db ↦
      stateOf (Ocg.cancelEventAttendeeAttendance now actor groupId user provider db)
  | .claimEventPurchaseRefund locked provider => fun db ↦
      stateOf (Ocg.claimEventPurchaseRefund locked now provider db)
  | .recordEventPurchaseRefundPending result => Ocg.recordEventPurchaseRefundPending now result
  | .recordEventPurchaseRefundRetryableFailure refund claim message =>
      Ocg.recordEventPurchaseRefundRetryableFailure now refund claim message
  | .recordEventPurchaseRefundSucceeded result =>
      Ocg.recordEventPurchaseRefundSucceeded now result
  | .recordEventPurchaseRefundTerminalFailed result message =>
      Ocg.recordEventPurchaseRefundTerminalFailed result message
  | .finalizeEventPurchaseRefund refund claim hasNotification provider =>
      Ocg.finalizeEventPurchaseRefund now refund claim hasNotification provider
  | .requeueEventPurchaseRefund groupId purchase =>
      Ocg.requeueEventPurchaseRefund now groupId purchase
  | .requeueStaleEventPurchaseRefundClaims => Ocg.requeueStaleEventPurchaseRefundClaims now
  | .completeEventPurchaseRefundRecovery refund evidence provider => fun db ↦
      stateOf (Ocg.completeEventPurchaseRefundRecovery env now refund evidence provider db)

/-- The operation leaves every waiting user quiet: it reopens no refund of a user who waits for
another seat, and it revives no invited attendance beside a claimed offer. -/
def Operation.IsQuiet (now : Timestamp) : Operation → Database → Prop
  | .prepareEventCheckoutPurchase req, db =>
    db.HasInvitedHistory req.userId → req.admissionOfferId = none
  | .reconcileEventPurchaseForCheckoutSession report, db =>
    ∀ ep ∈ db.purchases, ep.HasSession report.ref → ep.AwaitsReport now → ep.status = .expired →
      db.MayReopen ep
  | .recordEventPurchaseRefundTerminalFailed result _, db =>
    ∀ ep ∈ db.purchases, db.Reopens result ep → db.MayReopen ep
  | _, _ => True

/-- The operation may claim an offer. -/
def Operation.Claims : Operation → Prop
  | .prepareEventCheckoutPurchase _ => True
  | _ => False

/-- The operation may complete a checkout. -/
def Operation.Completes : Operation → Prop
  | .completeFreeEventPurchase _ | .reconcileEventPurchaseForCheckoutSession _ => True
  | _ => False

theorem Operation.not_claims_or_not_completes (op : Operation) :
    ¬ op.Claims ∨ ¬ op.Completes := by
  cases op <;> simp [Operation.Claims, Operation.Completes]

instance (now : Timestamp) (op : Operation) (db : Database) : Decidable (op.IsQuiet now db) := by
  unfold Operation.IsQuiet
  split <;> infer_instance

section

variable (mode : MoveMode) {now : Timestamp} {db db' : Database}

theorem onEnrollment_moves {f : Enrollment → Except DbError Enrollment}
    (h : onEnrollment f db = .ok db')
    (hf : ∀ s, f db.toEnrollment = .ok s → Moves mode now db.toEnrollment s) :
    PartitionMoves mode now db db' := by
  obtain ⟨s, hs, rfl⟩ := onEnrollment_eq_ok h
  exact Moves.lift mode (hf s hs)

theorem onEnrollment_stateOf_moves {α : Type} {f : Enrollment → Except DbError (α × Enrollment)}
    (h : onEnrollment (fun s ↦ stateOf (f s)) db = .ok db')
    (hf : ∀ a s, f db.toEnrollment = .ok (a, s) → Moves mode now db.toEnrollment s) :
    PartitionMoves mode now db db' :=
  onEnrollment_moves mode h fun s hs ↦ (stateOf_eq_ok.1 hs).elim fun a ha ↦ hf a s ha

end

/-- **Every operation is a run of moves**, of strict moves when the operation is quiet. One
operation claims offers, and two others complete checkouts. -/
theorem Operation.moves (mode : MoveMode) {env : Env} {now : Timestamp} {op : Operation}
    {db db' : Database} (hwf : db.toEnrollment.WellFormed) (hrefunds : db.RefundsConsistent)
    (hquiet : mode.strict → op.IsQuiet now db) (hclaims : op.Claims → mode.claims)
    (hcompletes : op.Completes → mode.completes) (h : op.run env now db = .ok db') :
    PartitionMoves mode now db db' := by
  cases op with
  | attendEvent =>
    exact onEnrollment_stateOf_moves mode h fun _ s hs ↦ attendEvent_moves mode hwf hs
  | leaveEvent =>
    exact onEnrollment_stateOf_moves mode h fun _ s hs ↦ leaveEvent_moves mode hwf hs
  | submitEventRegistrationAnswers =>
    exact onEnrollment_moves mode h fun s hs ↦
      .single (submitEventRegistrationAnswers_move mode hs)
  | acceptEventInvitationRequest =>
    exact onEnrollment_stateOf_moves mode h fun _ s hs ↦
      acceptEventInvitationRequest_moves mode hwf hs
  | rejectEventInvitationRequest =>
    exact onEnrollment_moves mode h fun s hs ↦
      .single (rejectEventInvitationRequest_move mode hs)
  | inviteEventAttendee =>
    obtain ⟨_, h⟩ := stateOf_eq_ok.1 h
    exact inviteEventAttendee_moves mode hwf h
  | cancelEventAdmissionOffer =>
    exact onEnrollment_moves mode h fun s hs ↦ cancelEventAdmissionOffer_moves mode hwf hs
  | declineEventAdmissionOffer =>
    exact onEnrollment_moves mode h fun s hs ↦ declineEventAdmissionOffer_moves mode hwf hs
  | reconcileEventEnrollment =>
    exact onEnrollment_stateOf_moves mode h fun _ s hs ↦
      (reconcileEventEnrollment_spec mode hwf hs).1
  | prepareEventCheckoutPurchase =>
    exact onEnrollment_stateOf_moves mode h fun _ s hs ↦
      prepareEventCheckoutPurchase_moves mode hwf (hclaims trivial) hquiet hs
  | cancelEventCheckout =>
    exact onEnrollment_moves mode h fun s hs ↦ cancelEventCheckout_moves mode hwf hs
  | attachCheckoutSessionToEventPurchase =>
    exact onEnrollment_moves mode h fun s hs ↦
      attachCheckoutSessionToEventPurchase_moves mode hwf hs
  | expireEventPurchaseForCheckoutSession =>
    exact onEnrollment_moves mode h fun s hs ↦
      expireEventPurchaseForCheckoutSession_moves mode hwf hs
  | completeFreeEventPurchase =>
    exact onEnrollment_moves mode h fun s hs ↦
      completeFreeEventPurchase_moves mode hwf (hcompletes trivial) hs
  | reconcileEventPurchaseForCheckoutSession =>
    obtain ⟨_, h⟩ := stateOf_eq_ok.1 h
    exact (reconcileEventPurchaseForCheckoutSession_spec mode hwf hrefunds (hcompletes trivial)
      hquiet h).1
  | unpublishEvent =>
    exact onEnrollment_moves mode h fun s hs ↦ unpublishEvent_moves mode hwf hs
  | cancelEvent => exact (cancelEvent_spec mode hwf hrefunds h).1
  | requestEventRefund => exact requestEventRefund_moves mode hwf h
  | rejectEventRefundRequest => exact rejectEventRefundRequest_moves mode hwf h
  | queueEventRefundRequestApproval => exact queueEventRefundRequestApproval_moves mode h
  | cancelEventAttendeeAttendance =>
    obtain ⟨_, h⟩ := stateOf_eq_ok.1 h
    exact cancelEventAttendeeAttendance_moves mode hwf h
  | claimEventPurchaseRefund =>
    obtain ⟨_, h⟩ := stateOf_eq_ok.1 h
    exact claimEventPurchaseRefund_moves mode h
  | recordEventPurchaseRefundPending => exact recordEventPurchaseRefundPending_moves mode h
  | recordEventPurchaseRefundRetryableFailure =>
    exact .single (recordEventPurchaseRefundRetryableFailure_move mode h)
  | recordEventPurchaseRefundSucceeded =>
    exact recordEventPurchaseRefundSucceeded_moves mode hwf hrefunds h
  | recordEventPurchaseRefundTerminalFailed =>
    exact recordEventPurchaseRefundTerminalFailed_moves mode hwf hrefunds hquiet h
  | finalizeEventPurchaseRefund =>
    exact finalizeEventPurchaseRefund_moves mode hwf hrefunds h
  | requeueEventPurchaseRefund => exact .single (requeueEventPurchaseRefund_move mode h)
  | requeueStaleEventPurchaseRefundClaims =>
    exact requeueStaleEventPurchaseRefundClaims_moves mode hrefunds h
  | completeEventPurchaseRefundRecovery =>
    obtain ⟨_, h⟩ := stateOf_eq_ok.1 h
    exact completeEventPurchaseRefundRecovery_moves mode hwf hrefunds h

theorem Operation.moves_any {env : Env} {now : Timestamp} {op : Operation} {db db' : Database}
    (hwf : db.toEnrollment.WellFormed) (hrefunds : db.RefundsConsistent)
    (h : op.run env now db = .ok db') : PartitionMoves .any now db db' :=
  op.moves .any hwf hrefunds False.elim (fun _ ↦ trivial) (fun _ ↦ trivial) h

/-! ## Histories -/

/-- An event that nobody has enrolled in: its configuration, and no rows. -/
structure Database.Fresh (db : Database) : Prop where
  ticketKeys : (db.ticketTypes.map TicketType.eventTicketTypeId).Nodup
  codeKeys : (db.discountCodes.map DiscountCode.eventDiscountCodeId).Nodup
  available : ∀ edc ∈ db.discountCodes, ∀ available ∈ edc.available, 0 ≤ available
  totalAvailable : ∀ edc ∈ db.discountCodes, ∀ total ∈ edc.totalAvailable, 0 ≤ total
  admissionOffers : db.admissionOffers = []
  purchases : db.purchases = []
  attendees : db.attendees = []
  waitlist : db.waitlist = []
  invitationRequests : db.invitationRequests = []
  refunds : db.refunds = []

instance (db : Database) : Decidable db.Fresh :=
  decidable_of_iff
    ((db.ticketTypes.map TicketType.eventTicketTypeId).Nodup
      ∧ (db.discountCodes.map DiscountCode.eventDiscountCodeId).Nodup
      ∧ (∀ edc ∈ db.discountCodes, ∀ available ∈ edc.available, 0 ≤ available)
      ∧ (∀ edc ∈ db.discountCodes, ∀ total ∈ edc.totalAvailable, 0 ≤ total)
      ∧ db.admissionOffers = [] ∧ db.purchases = [] ∧ db.attendees = [] ∧ db.waitlist = []
      ∧ db.invitationRequests = [] ∧ db.refunds = [])
    ⟨fun ⟨h1, h2, h3, h4, h5, h6, h7, h8, h9, h10⟩ ↦ ⟨h1, h2, h3, h4, h5, h6, h7, h8, h9, h10⟩,
      fun ⟨h1, h2, h3, h4, h5, h6, h7, h8, h9, h10⟩ ↦ ⟨h1, h2, h3, h4, h5, h6, h7, h8, h9, h10⟩⟩

/-- One committed transaction. -/
def Step (now : Timestamp) (db db' : Database) : Prop :=
  ∃ (env : Env) (op : Operation), op.run env now db = .ok db'

/-- One committed transaction of a quiet operation. -/
def QuietStep (now : Timestamp) (db db' : Database) : Prop :=
  ∃ (env : Env) (op : Operation), op.IsQuiet now db ∧ op.run env now db = .ok db'

/-- The lock order says nothing about the start times. -/
def AnyOrder (_ _ : Timestamp) : Prop := True

instance : DecidableRel AnyOrder := fun _ _ ↦ isTrue trivial

/-- A state of the event, under any order of start times. -/
def Database.Reached (now : Timestamp) (db : Database) : Prop :=
  Reachable Step AnyOrder Database.Fresh now db

/-- A state of the event in a history whose start times follow the lock order. -/
def Database.ReachedInOrder (now : Timestamp) (db : Database) : Prop :=
  Reachable Step (· ≤ ·) Database.Fresh now db

/-- A state of the event in a history of quiet operations. -/
def Database.ReachedQuietly (now : Timestamp) (db : Database) : Prop :=
  Reachable QuietStep AnyOrder Database.Fresh now db

/-- A state that a history goes on to from a given state, under any order of start times. -/
def Database.ReachedFrom (db₀ : Database) (now : Timestamp) (db : Database) : Prop :=
  Reachable Step AnyOrder (· = db₀) now db

variable {now : Timestamp} {db db' : Database}

theorem Database.ReachedInOrder.reached (h : db.ReachedInOrder now) : db.Reached now :=
  Reachable.mono h (fun _ _ _ ↦ trivial) fun _ _ _ ↦ id

theorem Database.ReachedQuietly.reached (h : db.ReachedQuietly now) : db.Reached now :=
  Reachable.mono h (fun _ _ ↦ id) fun _ _ _ ⟨env, op, _, hrun⟩ ↦ ⟨env, op, hrun⟩

/-! ## What every history keeps -/

/-- The invariants that hold whatever the order of the start times. -/
structure Database.Consistent (db : Database) : Prop where
  wellFormed : db.toEnrollment.WellFormed
  exclusive : db.Exclusive
  refunds : db.RefundsConsistent
  snapshots : db.SnapshotsClaimed

theorem Database.Fresh.consistent (h : db.Fresh) : db.Consistent where
  wellFormed := by
    constructor <;> simp [h.admissionOffers, h.purchases, h.attendees, h.waitlist]
  exclusive := by
    constructor <;>
      simp [h.admissionOffers, h.purchases, h.attendees, h.waitlist, h.invitationRequests]
  refunds := by
    constructor <;> simp [h.purchases, h.refunds]
  snapshots := by simp [Enrollment.SnapshotsClaimed, h.admissionOffers]

theorem Database.Fresh.quiet (h : db.Fresh) : db.Quiet := by
  constructor <;> simp [h.admissionOffers, h.waitlist]

theorem Move.consistent {mode : MoveMode} (hmove : Move mode now db db') (h : db.Consistent) :
    db'.Consistent := by
  refine ⟨hmove.wellFormed mode h.wellFormed, ?_,
    hmove.refundsConsistent h.wellFormed h.refunds, ?_⟩
  · rcases hmove.enrollmentMove with hsame | ⟨effect, hmove⟩
    · exact hsame ▸ h.exclusive
    · exact hmove.exclusive h.wellFormed h.exclusive
  · rcases hmove.enrollmentMove with hsame | ⟨effect, hmove⟩
    · exact hsame ▸ h.snapshots
    · exact hmove.snapshotsClaimed h.wellFormed h.snapshots

theorem PartitionMoves.keeps {mode : MoveMode} (hmoves : PartitionMoves mode now db db')
    (h : db.Consistent) : db'.Consistent :=
  preserved_of_reflTransGen hmoves h fun _ _ ht hmove ↦ hmove.consistent ht

theorem Step.moves (h : Step now db db') (hdb : db.Consistent) :
    PartitionMoves .any now db db' := by
  obtain ⟨env, op, hrun⟩ := h
  exact op.moves_any hdb.wellFormed hdb.refunds hrun

theorem QuietStep.moves (h : QuietStep now db db') (hdb : db.Consistent) :
    PartitionMoves .quiet now db db' := by
  obtain ⟨env, op, hquiet, hrun⟩ := h
  exact op.moves .quiet hdb.wellFormed hdb.refunds (fun _ ↦ hquiet) (fun _ ↦ trivial)
    (fun _ ↦ trivial) hrun

/-- **Every history keeps the event consistent.** -/
theorem Database.Reached.consistent (h : db.Reached now) : db.Consistent :=
  Reachable.stable h (fun _ hfresh ↦ hfresh.consistent)
    fun _ _ _ hdb hstep ↦ (hstep.moves hdb).keeps hdb

theorem Database.ReachedFrom.preserved {db₀ : Database} {P : Database → Prop}
    (h : db₀.ReachedFrom now db) (hdb₀ : db₀.Consistent) (hP : P db₀)
    (hstep : ∀ t u v, Database.Consistent u → P u → Move .any t u v → P v) : P db := by
  refine (Reachable.stable (P := fun db ↦ db.Consistent ∧ P db) h
    (fun _ heq ↦ heq ▸ ⟨hdb₀, hP⟩) ?_).2
  rintro t u v ⟨hu, hPu⟩ huv
  exact preserved_of_reflTransGen (P := fun db ↦ db.Consistent ∧ P db) (huv.moves hu) ⟨hu, hPu⟩
    fun x y ⟨hx, hPx⟩ hmove ↦ ⟨hmove.consistent hx, hstep t x y hx hPx hmove⟩

/-- **Quiet histories keep waiting users quiet.** -/
theorem Database.ReachedQuietly.quiet (h : db.ReachedQuietly now) : db.Quiet := by
  refine (Reachable.stable (P := fun db ↦ db.Consistent ∧ db.Quiet) h
    (fun _ hfresh ↦ ⟨hfresh.consistent, hfresh.quiet⟩) ?_).2
  rintro t db db' ⟨hdb, hquiet⟩ hstep
  have hmoves := hstep.moves hdb
  refine ⟨hmoves.keeps hdb, preserved_of_reflTransGen (P := fun db ↦ db.Quiet) hmoves hquiet ?_⟩
  intro u v hu hmove
  rcases hmove.enrollmentMove with hsame | ⟨effect, hmove⟩
  · exact hsame ▸ hu
  · exact hmove.quiet hu

/-! ## Replayed histories -/

theorem exists_reachedFrom (env : Env) (script : List (Timestamp × Operation)) (db₀ : Database)
    (P : Database → Prop) (h : Replays (Operation.run env) script db₀ P) :
    ∃ db : Database, db₀.ReachedFrom ((script.map Prod.fst).getLastD 0) db ∧ P db := by
  obtain ⟨db, hscript, hP⟩ := exists_of_replays h
  exact ⟨db, reachable_of_replay (fun _ op _ _ hrun ↦ ⟨env, op, hrun⟩) (.start rfl)
    (List.pairwise_of_forall fun _ _ ↦ trivial) hscript, hP⟩

/-- A script that commits on a fresh event is a history. -/
theorem exists_reached (env : Env) (script : List (Timestamp × Operation)) (db₀ : Database)
    (P : Database → Prop) (hfresh : db₀.Fresh) (h : Replays (Operation.run env) script db₀ P) :
    ∃ db : Database, db.Reached ((script.map Prod.fst).getLastD 0) ∧ P db := by
  obtain ⟨db, hscript, hP⟩ := exists_of_replays h
  exact ⟨db, reachable_of_replay (fun _ op _ _ hrun ↦ ⟨env, op, hrun⟩) (.start hfresh)
    (List.pairwise_of_forall fun _ _ ↦ trivial) hscript, hP⟩

/-- Its times are those of a history in order when they increase from the first. -/
theorem exists_reachedInOrder (env : Env) (script : List (Timestamp × Operation))
    (db₀ : Database) (P : Database → Prop) (hfresh : db₀.Fresh)
    (htimes : (0 :: script.map Prod.fst).Pairwise (· ≤ ·))
    (h : Replays (Operation.run env) script db₀ P) :
    ∃ db : Database, db.ReachedInOrder ((script.map Prod.fst).getLastD 0) ∧ P db := by
  obtain ⟨db, hscript, hP⟩ := exists_of_replays h
  exact ⟨db, reachable_of_replay (fun _ op _ _ hrun ↦ ⟨env, op, hrun⟩) (.start hfresh) htimes
    hscript, hP⟩

/-- The script with the check that every operation is quiet. -/
def Operation.runQuietly (env : Env) (now : Timestamp) (op : Operation) (db : Database) :
    Except DbError Database := do
  require (op.IsQuiet now db) (.raised "the operation is not quiet")
  op.run env now db

theorem exists_reachedQuietly (env : Env) (script : List (Timestamp × Operation)) (db₀ : Database)
    (P : Database → Prop) (hfresh : db₀.Fresh)
    (h : Replays (Operation.runQuietly env) script db₀ P) :
    ∃ db : Database, db.ReachedQuietly ((script.map Prod.fst).getLastD 0) ∧ P db := by
  obtain ⟨db, hscript, hP⟩ := exists_of_replays h
  refine ⟨db, reachable_of_replay (fun _ op _ _ hrun ↦ ?_) (.start hfresh)
    (List.pairwise_of_forall fun _ _ ↦ trivial) hscript, hP⟩
  simp only [Operation.runQuietly, bind_eq_ok, require_eq_ok] at hrun
  obtain ⟨-, hquiet, hrun⟩ := hrun
  exact ⟨env, op, hquiet, hrun⟩

/-! ### A sample event

A paid in-person event with one public tier, for the concrete histories of the modules that
follow. -/

def sampleEvent : Event where
  attendeeApprovalRequired := false
  canceled := false
  deleted := false
  endsAt := none
  eventKindId := .inPerson
  manualTaxRateIds := []
  paymentCurrencyCode := some "USD"
  published := true
  registrationEndsAt := none
  registrationQuestions := []
  registrationStartsAt := none
  startsAt := some (hours 1000)
  taxBehavior := .inclusive
  taxCalculationMode := .noTax
  venueAddress := some "Main Street 1"
  venueCity := some "Springfield"
  venueCountryCode := some "US"
  venueName := some "Town Hall"
  venueZipCode := some "12345"
  waitlistEnabled := true

def Database.sample (seats : ℕ) (codes : List DiscountCode) : Database where
  event := sampleEvent
  group := ⟨1, 1, true, some ⟨some "stripe", some "acct_1", some "Seller"⟩⟩
  ticketTypes := [⟨1, true, .publicTier, 0, [⟨1, 1000, none, none⟩], seats, "General"⟩]
  discountCodes := codes
  admissionOffers := []
  purchases := []
  attendees := []
  waitlist := []
  invitationRequests := []
  nextUuid := 1
  nextRefundUuid := 1
  refunds := []
  refundRequests := []
  users := [⟨7, "seven@example.org", true, true⟩]

def sampleEnv : Env := ⟨fun _ _ ↦ .ok (), fun _ ↦ true, true⟩

/-- A checkout of the sample tier. -/
def sampleCheckout (user : Uuid) (code : Option String) (offer : Option Uuid) : Operation :=
  .prepareEventCheckoutPurchase ⟨1, 1, user, code, some "stripe", none, offer, some 100⟩

/-- The provider session of a sample purchase. -/
def sampleSession (session : String) : SessionRef := ⟨"stripe", some "acct_1", session⟩

/-- A full payment of a sample session. -/
def samplePayment (session reference charge : String) : CompletedSession :=
  ⟨sampleSession session, some reference, some charge, some 1000, some 0, none⟩

end Ocg
